import LineLimit.Json.Mismatch
/-!
Reading structures. A structure is an object whose members are visited in the order of their names, or an
array of its members in their declared order, of which the last ones may be left out.
-/

namespace LineLimit.Json

/-- How a structure is read into a draft of it. `visit` takes one member; the first `needed` members of an
array have to be there. -/
structure Shape (σ : Type) where
  name : String
  members : List String
  needed : Nat
  visit : String → Json → σ → Reading σ

namespace Shape

def wanted {σ : Type} (shape : Shape σ) : String := s!"struct {shape.name}"

/-- Adds members to a draft, in the order given. -/
def visitAll {σ : Type} (shape : Shape σ) (draft : σ) (members : List (String × Json)) : Reading σ :=
  members.foldlM (fun draft (name, v) => shape.visit name v draft) draft

def read {σ : Type} (shape : Shape σ) (draft : σ) : Json → Reading σ
  | .obj members => shape.visitAll draft members
  | .arr items => do
    let draft ← shape.visitAll draft (shape.members.zip items)
    if items.length < shape.needed then
      throw (.tooShort items.length s!"{shape.wanted} with {shape.members.length} elements")
    if shape.members.length < items.length then throw (.tooLong items.length)
    return draft
  | v => .error (.type v shape.wanted)

end Shape

end LineLimit.Json

import LineLimit.Element
import LineLimit.Json.Mismatch
/-!
Elements as JSON. What an element does not have is left out. When an element is read, only its kind has
to be given, and members of other names are passed over.
-/

namespace LineLimit

open Json (Reading)

namespace Kind

def toJson (k : Kind) : Json := .str k.name

def ofJson : Json → Reading Kind := Json.readName (all.map name) ofName?

end Kind

namespace Element

mutual

/-- The object of an element, its members in ascending order of names. -/
def toJson : Element → Json
  | ⟨kind, location, value, children⟩ =>
    let below := match children with
      | [] => []
      | c :: rest => [("children", .arr (toJson c :: toJsonList rest))]
    let place := match location with
      | some n => [("location", .ofWord n)]
      | none => []
    let text := match value with
      | some s => [("value", .str s)]
      | none => []
    .obj (below ++ [("kind", kind.toJson)] ++ place ++ text)

def toJsonList : List Element → List Json
  | [] => []
  | e :: rest => toJson e :: toJsonList rest

end

structure Draft where
  kind : Option Kind := none
  location : Option UInt32 := none
  value : Option String := none
  children : List Element := []

/-- The element of a draft: the kind has to be there. -/
def Draft.finish (d : Draft) : Reading Element := do
  return ⟨← Json.require "kind" d.kind, d.location, d.value, d.children⟩

/-- Adds a member that holds no elements to a draft. -/
def Draft.visitLeaf (name : String) (v : Json) (d : Draft) : Reading Draft :=
  match name with
  | "kind" => do return { d with kind := ← Kind.ofJson v }
  | "location" => do return { d with location := ← Json.readOption Json.readWord v }
  | "value" => do return { d with value := ← Json.readOption Json.readString v }
  | _ => .ok d

/-- What is wrong with an array of too few members. -/
def tooShort (size : Nat) : Mismatch := .tooShort size "struct Element with 4 elements"

mutual

/-- Reads an element from an object, or from the array of its kind, location, value and children. -/
def ofJson : Json → Reading Element
  | .obj members => do (← readMembers {} members).finish
  | .arr items =>
    match items with
    | [] => .error (tooShort 0)
    | [k] => do
      let _ ← Draft.visitLeaf "kind" k {}
      throw (tooShort 1)
    | [k, l] => do
      let d ← Draft.visitLeaf "kind" k {}
      let _ ← Draft.visitLeaf "location" l d
      throw (tooShort 2)
    | k :: l :: v :: rest => do
      let d ← Draft.visitLeaf "kind" k {}
      let d ← Draft.visitLeaf "location" l d
      let d ← Draft.visitLeaf "value" v d
      match rest with
      | [] => d.finish
      | c :: more => do
        let children ← readChildren c
        if more.isEmpty then Draft.finish { d with children } else throw (.tooLong (4 + more.length))
  | v => .error (.type v "struct Element")

def readMembers (d : Draft) : List (String × Json) → Reading Draft
  | [] => .ok d
  | ("children", v) :: rest => do readMembers { d with children := ← readChildren v } rest
  | (name, v) :: rest => do readMembers (← d.visitLeaf name v) rest

def readChildren : Json → Reading (List Element)
  | .arr items => readAll items
  | v => .error (.type v "a sequence")

def readAll : List Json → Reading (List Element)
  | [] => .ok []
  | v :: rest => do return (← ofJson v) :: (← readAll rest)

end

end Element

end LineLimit

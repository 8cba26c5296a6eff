import LineLimit.Json.Print
import LineLimit.Unicode.Quoted
/-!
Reading a JSON value as a value of another type. A value that does not fit is refused with the first
cause met: the members of an object are visited in the order of their names, and only then is a
member missed. An object may also be written as the array of its members in their declared order.
-/

namespace LineLimit

inductive Mismatch
  /-- A value of another type stands where `wanted` is called for. -/
  | type (found : Json) (wanted : String)
  /-- A whole number lies outside the type. -/
  | range (found : Int) (wanted : String)
  /-- An object stands for a name and has more or fewer than one member. -/
  | notOneMember
  | unknownMember (name : String) (known : List String)
  | unknownName (name : String) (known : List String)
  | missing (name : String)
  /-- An array stops after `size` members of a structure that needs more. -/
  | tooShort (size : Nat) (wanted : String)
  | tooLong (size : Nat)
  deriving Repr

namespace Mismatch

def describe : Json → String
  | .null => "null"
  | .bool b => s!"boolean `{b}`"
  | .int n => s!"integer `{n}`"
  | .float x => s!"floating point `{x.write}`"
  | .str s => "string " ++ Unicode.quoted s
  | .arr _ => "sequence"
  | .obj _ => "map"

/-- The names to choose from, each between backquotes. -/
def choice (known : List String) : String :=
  "one of " ++ ", ".intercalate (known.map fun n => s!"`{n}`")

def message : Mismatch → String
  | type found wanted => s!"invalid type: {describe found}, expected {wanted}"
  | range found wanted => s!"invalid value: integer `{found}`, expected {wanted}"
  | notOneMember => "invalid value: map, expected map with a single key"
  | unknownMember name known => s!"unknown field `{name}`, expected {choice known}"
  | unknownName name known => s!"unknown variant `{name}`, expected {choice known}"
  | missing name => s!"missing field `{name}`"
  | tooShort size wanted => s!"invalid length {size}, expected {wanted}"
  | tooLong size => s!"invalid length {size}, expected fewer elements in array"

end Mismatch

namespace Json

/-- A value read from JSON, or the first cause why it cannot be. -/
abbrev Reading (α : Type) := Except Mismatch α

def readBool : Json → Reading Bool
  | .bool b => .ok b
  | v => .error (.type v "a boolean")

def readString : Json → Reading String
  | .str s => .ok s
  | v => .error (.type v "a string")

def readBelow (bound : Nat) (wanted : String) : Json → Reading Nat
  | .int n => if 0 ≤ n ∧ n < bound then .ok n.toNat else .error (.range n wanted)
  | v => .error (.type v wanted)

def readWord (v : Json) : Reading UInt32 := (readBelow UInt32.size "u32" v).map .ofNat

def readSize (v : Json) : Reading UInt64 := (readBelow UInt64.size "usize" v).map .ofNat

def readOption {α : Type} (read : Json → Reading α) : Json → Reading (Option α)
  | .null => .ok none
  | v => (read v).map some

def readList {α : Type} (read : Json → Reading α) : Json → Reading (List α)
  | .arr items => items.mapM read
  | v => .error (.type v "a sequence")

/-- Reads one of some names: a string, or an object whose one member has the name and no value. -/
def readName {α : Type} (known : List String) (ofName? : String → Option α) : Json → Reading α
  | .str s =>
    match ofName? s with
    | some a => .ok a
    | none => .error (.unknownName s known)
  | .obj [(s, v)] =>
    match ofName? s, v with
    | none, _ => .error (.unknownName s known)
    | some a, .null => .ok a
    | some _, v => .error (.type v "unit")
  | .obj _ => .error .notOneMember
  | v => .error (.type v "string or map")

def require {α : Type} (name : String) : Option α → Reading α
  | some a => .ok a
  | none => .error (.missing name)

end Json

end LineLimit

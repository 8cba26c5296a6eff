import LineLimit.Json.Binary64
/-!
JSON values. Whole numbers that fit a 64-bit word, signed or unsigned, are kept apart from other numbers.
The members of an object are kept in ascending order of their names, each name once.
-/

namespace LineLimit

inductive Json
  | null
  | bool (b : Bool)
  | int (n : Int)
  | float (x : Binary64)
  | str (s : String)
  | arr (items : List Json)
  | obj (members : List (String × Json))
  deriving Repr, Inhabited

namespace Json

/-- Sets a member among members in ascending order of names. A later value replaces an earlier one. -/
def insertMember {α : Type} (name : String) (value : α) : List (String × α) → List (String × α)
  | [] => [(name, value)]
  | (n, v) :: rest =>
    if name < n then (name, value) :: (n, v) :: rest
    else if name = n then (name, value) :: rest
    else (n, v) :: insertMember name value rest

/-- Members in ascending order of names; of several of one name the last one stays. -/
def sortMembers {α : Type} (members : List (String × α)) : List (String × α) :=
  members.foldl (fun sorted (n, v) => insertMember n v sorted) []

def object (members : List (String × Json)) : Json := .obj (sortMembers members)

def member? (name : String) (members : List (String × Json)) : Option Json :=
  (members.find? (·.1 == name)).map (·.2)

def ofNat (n : Nat) : Json := .int n

def ofWord (n : UInt32) : Json := .int n.toNat

/-- A value that may be missing, written as `null`. -/
def ofOption {α : Type} (f : α → Json) : Option α → Json
  | some a => f a
  | none => .null

def strings (ss : List String) : Json := .arr (ss.map .str)

end Json

end LineLimit

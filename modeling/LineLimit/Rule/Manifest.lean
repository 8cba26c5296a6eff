import LineLimit.Text.Ascii
/-!
How a rule presents itself: the names under which settings can mention it, and what it is for.
-/

namespace LineLimit

structure Manifest where
  id : String
  aliases : List String
  tags : List String
  description : String
  deriving DecidableEq, Repr

namespace Manifest

/-- Whether a name means the rule, in any case of letters. -/
def isNamed (m : Manifest) (name : String) : Bool :=
  Ascii.sameName m.id name || m.aliases.any (Ascii.sameName · name)

/-- The name shown to readers: the identifier and the first other name. -/
def displayName (m : Manifest) : String :=
  match m.aliases with
  | first :: _ => s!"{m.id}/{first}"
  | [] => m.id

def lineLength : Manifest where
  id := "MY000"
  aliases := ["stricter-line-length"]
  tags := ["line_length"]
  description := "A more strict version of MD013 to enforce line length limits excluding links and " ++
    "their trailing punctuation"

def all : List Manifest := [lineLength]

end Manifest

end LineLimit

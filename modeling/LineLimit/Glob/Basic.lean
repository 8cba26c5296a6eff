import LineLimit.Glob.Match
/-!
Globs with the text that they were read from, and sets of globs.
-/

namespace LineLimit

/-- A glob: its text and its parts. -/
structure Glob where
  text : String
  tokens : List Glob.Token
  deriving Repr

structure GlobError where
  text : String
  fault : Glob.Fault
  deriving DecidableEq, Repr

def GlobError.message (e : GlobError) : String :=
  s!"error parsing glob '{e.text}': {e.fault.message}"

namespace Glob

def parse (text : String) : Except GlobError Glob :=
  match readTokens text.toList with
  | .ok ts => .ok ⟨text, ts⟩
  | .error fault => .error ⟨text, fault⟩

def isMatch (g : Glob) (path : String) : Bool := matchesBytes g.tokens path.toUTF8.toList

/-- Reads several globs. The first text that is no glob is refused. -/
def parseAll (texts : List String) : Except GlobError (List Glob) := texts.mapM parse

def anyMatch (gs : List Glob) (path : String) : Bool := gs.any (·.isMatch path)

end Glob

end LineLimit

/-!
Paths, as texts and as lists of components. Slashes in a row count as one, and a dot between other components
counts as nothing, so different texts can have the same components. Paths are ordered by their components.
-/

namespace LineLimit.Path

/-- A step of a path. `here` stands only at the start of a path that does not begin at the root. -/
inductive Component
  | root
  | here
  | up
  | name (s : String)
  deriving DecidableEq, Repr

def parts (p : String) : List String := (p.toList.splitOn '/').map String.ofList

def isAbsolute (p : String) : Bool := p.toList.head? == some '/'

/-- The component of a part, none for a part that counts as nothing. -/
def Component.ofPart? (s : String) : Option Component :=
  if s = "" ∨ s = "." then none else if s = ".." then some .up else some (.name s)

def components (p : String) : List Component :=
  let ps := parts p
  let start := if isAbsolute p then [Component.root]
    else if ps.head? = some "." then [.here]
    else []
  start ++ ps.filterMap Component.ofPart?

def Component.rank : Component → Nat
  | root => 0
  | here => 1
  | up => 2
  | name _ => 3

instance : Ord Component :=
  ⟨fun a b => match a, b with
    | .name s, .name t => compare s t
    | a, b => compare a.rank b.rank⟩

/-- The order of paths by their components, a path before those that continue it. -/
def compareComponents : List Component → List Component → Ordering
  | [], [] => .eq
  | [], _ :: _ => .lt
  | _ :: _, [] => .gt
  | a :: as, b :: bs => (compare a b).then (compareComponents as bs)

def same (p q : String) : Bool := decide (components p = components q)

def le (p q : String) : Bool := (compareComponents (components p) (components q)).isLE

def render : List Component → String
  | .root :: rest => "/" ++ "/".intercalate (rest.map text)
  | cs => "/".intercalate (cs.map text)
where
  text : Component → String
    | .root => "/"
    | .here => "."
    | .up => ".."
    | .name s => s

def join (dir name : String) : String :=
  if dir = "" ∨ dir.toList.getLast? = some '/' then dir ++ name else dir ++ "/" ++ name

/-- What is left of a path after some components, none if the path does not begin with them. -/
def strip? (base path : List Component) : Option (List Component) := base.isPrefixOf? path

/-- The path without the components for the current directory at its start. -/
def withoutHere (cs : List Component) : List Component := cs.dropWhile (· == .here)

/-- The last part of a text and the slashes and dots around it, dropped from its end. -/
def dropBlankEnd (s : List Char) : List Char :=
  go s.reverse
where
  go : List Char → List Char
    | ['/'] => ['/']
    | '/' :: rest => go rest
    | '.' :: '/' :: rest => go ('/' :: rest)
    | s => s.reverse

/-- The directory of a path, as far as the text names one. -/
def parent (p : String) : String :=
  let s := dropBlankEnd p.toList
  let dir := (s.reverse.dropWhile (· ≠ '/')).reverse
  String.ofList (dropBlankEnd dir)

/-- What follows the last dot of a file's name, unless nothing comes before the dot. -/
def extension? (cs : List Component) : Option String :=
  match cs.getLast? with
  | some (.name s) =>
    let after := s.toList.reverse.takeWhile (· ≠ '.')
    let before := s.toList.reverse.drop (after.length + 1)
    if before.isEmpty then none else some (String.ofList after.reverse)
  | _ => none

end LineLimit.Path

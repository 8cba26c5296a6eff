import LineLimit.Path
/-!
A tree of files, directories and symbolic links, with a current directory. A path is resolved part by part:
links are followed, two dots go up, and nothing but a directory has anything below it.
-/

namespace LineLimit

/-- A place in a file tree: the names from the root down. -/
abbrev Place := List String

/-- What stands at a place of a file tree. Names of entries are different from each other. -/
inductive Node
  | file (data : ByteArray)
  | dir (entries : List (String × Node))
  | link (target : String)
  deriving Inhabited

inductive FileError
  | notFound
  | alreadyExists
  | notADirectory
  | isADirectory
  | tooManyLinks
  | nameTooLong
  | nulInName
  | notUtf8
  deriving DecidableEq, Repr

def FileError.message : FileError → String
  | notFound => "No such file or directory (os error 2)"
  | alreadyExists => "File exists (os error 17)"
  | notADirectory => "Not a directory (os error 20)"
  | isADirectory => "Is a directory (os error 21)"
  | tooManyLinks => "Too many levels of symbolic links (os error 40)"
  | nameTooLong => "File name too long (os error 36)"
  | nulInName => "file name contained an unexpected NUL byte"
  | notUtf8 => "stream did not contain valid UTF-8"

namespace Node

def child? (name : String) (entries : List (String × Node)) : Option Node :=
  (entries.find? (·.1 == name)).map (·.2)

/-- The node at a place below a node, without following links. -/
def get? : Node → Place → Option Node
  | n, [] => some n
  | .dir entries, name :: rest => (child? name entries).bind (get? · rest)
  | _, _ :: _ => none

def setEntry (name : String) (n : Node) : List (String × Node) → List (String × Node)
  | [] => [(name, n)]
  | (m, old) :: rest => if m = name then (name, n) :: rest else (m, old) :: setEntry name n rest

/-- Puts a node at a place below a node, with the directories above it. -/
def set (new : Node) : Node → Place → Node
  | _, [] => new
  | .dir entries, name :: rest =>
    let old := (child? name entries).getD (.dir [])
    .dir (setEntry name (set new old rest) entries)
  | _, name :: rest => .dir [(name, set new (.dir []) rest)]

def erase : Node → Place → Node
  | n, [] => n
  | .dir entries, [name] => .dir (entries.filter (·.1 != name))
  | .dir entries, name :: rest =>
    match child? name entries with
    | some old => .dir (setEntry name (erase old rest) entries)
    | none => .dir entries
  | n, _ :: _ => n

theorem child?_cons (name first : String) (n : Node) (rest : List (String × Node)) :
    child? name ((first, n) :: rest) = if first = name then some n else child? name rest := by
  by_cases h : first = name <;> simp [child?, h]

theorem child?_setEntry (name other : String) (n : Node) (entries : List (String × Node)) :
    child? other (setEntry name n entries) = if other = name then some n else child? other entries := by
  induction entries with
  | nil =>
      rw [setEntry, child?_cons]
      grind
  | cons first rest ih =>
      obtain ⟨m, old⟩ := first
      rw [setEntry]
      split
      · next h =>
          rw [child?_cons, child?_cons, h]
          grind
      · next h =>
          rw [child?_cons, child?_cons, ih]
          grind

theorem child?_filter (name other : String) (entries : List (String × Node)) :
    child? other (entries.filter (·.1 != name)) = if other = name then none else child? other entries := by
  induction entries with
  | nil => exact (ite_self none).symm
  | cons first rest ih =>
      obtain ⟨m, old⟩ := first
      rw [List.filter_cons, child?_cons]
      split
      · next h =>
          rw [child?_cons, ih]
          grind
      · next h =>
          rw [ih]
          grind

theorem get?_erase_self (n : Node) {place : Place} (h : place ≠ []) : (n.erase place).get? place = none := by
  induction place generalizing n with
  | nil => exact absurd rfl h
  | cons name rest ih =>
      cases n with
      | file data => simp [erase, get?]
      | link target => simp [erase, get?]
      | dir entries =>
          cases rest with
          | nil => simp [erase, get?, child?_filter]
          | cons next below =>
              rw [erase]
              · split
                · next old _ =>
                    rw [get?, child?_setEntry, if_pos rfl]
                    exact ih old (List.cons_ne_nil next below)
                · next hnone => rw [get?, hnone, Option.bind_none]
              · exact List.cons_ne_nil next below

mutual

/-- The places of the regular files below a node. Links are not followed. -/
def files : Node → List Place
  | .file _ => [[]]
  | .link _ => []
  | .dir entries => filesOf entries

def filesOf : List (String × Node) → List Place
  | [] => []
  | (name, n) :: rest => (files n).map (name :: ·) ++ filesOf rest

end

end Node

/-- A file tree, seen from a current directory. -/
structure FileTree where
  root : Node
  cwd : Place
  deriving Inhabited

namespace FileTree

/-- A step of a path that is being resolved. `stay` asks for a directory. -/
inductive Step
  | stay
  | up
  | down (name : String)
  deriving DecidableEq, Repr

/-- The steps of a path. A slash at the end asks for a directory, as a dot does. -/
def steps (p : String) : List Step :=
  let ps := Path.parts p
  let isLast (i : Nat) : Bool := i + 1 == ps.length && 0 < i
  (ps.zipIdx.filterMap fun (s, i) =>
    if s = "" then (if isLast i then some .stay else none)
    else if s = "." then some .stay
    else if s = ".." then some .up
    else some (.down s))

def maxLinks : Nat := 40

/-- The longest name of an entry and the longest path, in bytes. -/
def maxName : Nat := 255

def maxPath : Nat := 4095

/-- Follows steps from a place. A link that is the last step is followed if `follow` says so. -/
def walk (root : Node) (follow : Bool) (links : Nat) (place : Place) (todo : List Step) :
    Except FileError Place :=
  match todo with
  | [] => .ok place
  | step :: rest =>
    match root.get? place with
    | some (.dir entries) =>
      match step with
      | .stay => walk root follow links place rest
      | .up => walk root follow links place.dropLast rest
      | .down name =>
        if maxName < name.utf8ByteSize then .error .nameTooLong
        else
          match Node.child? name entries with
          | none => .error .notFound
          | some (.link target) =>
            if rest.isEmpty ∧ !follow then .ok (place ++ [name])
            else
              match links with
              | 0 => .error .tooManyLinks
              | links + 1 =>
                if target = "" then .error .notFound
                else
                  walk root follow links (if Path.isAbsolute target then [] else place)
                    (steps target ++ rest)
          | some _ => walk root follow links (place ++ [name]) rest
    | some _ => .error .notADirectory
    | none => .error .notFound
  termination_by (links, todo.length)

def locate (t : FileTree) (p : String) (follow : Bool) : Except FileError Place :=
  if p.toList.contains (Char.ofNat 0) then .error .nulInName
  else if p = "" then .error .notFound
  else if maxPath < p.utf8ByteSize then .error .nameTooLong
  else walk t.root follow maxLinks (if Path.isAbsolute p then [] else t.cwd) (steps p)

/-- The place that a path names and what stands there, all links followed. -/
def find (t : FileTree) (p : String) : Except FileError (Place × Node) := do
  let place ← t.locate p true
  match t.root.get? place with
  | some n => return (place, n)
  | none => throw .notFound

/-- What a path names, its last link not followed. -/
def findLink (t : FileTree) (p : String) : Except FileError Node := do
  match t.root.get? (← t.locate p false) with
  | some n => return n
  | none => throw .notFound

def isFile (t : FileTree) (p : String) : Bool :=
  match t.find p with
  | .ok (_, .file _) => true
  | _ => false

def isDir (t : FileTree) (p : String) : Bool :=
  match t.find p with
  | .ok (_, .dir _) => true
  | _ => false

def readText (t : FileTree) (p : String) : Except FileError String := do
  match (← t.find p).2 with
  | .file data =>
    match String.fromUTF8? data with
    | some s => return s
    | none => throw .notUtf8
  | _ => throw .isADirectory

/-- The components of the path from the root to what a path names. -/
def canonical? (t : FileTree) (p : String) : Option (List Path.Component) :=
  match t.locate p true with
  | .ok place => some (.root :: place.map .name)
  | .error _ => none

/-- The regular files at or below a path, by the names that lead to them from there. -/
def filesBelow (t : FileTree) (p : String) : List Place :=
  match t.findLink p with
  | .ok (.link _) =>
    match t.find p with
    | .ok (_, .dir entries) => Node.filesOf entries
    | _ => []
  | .ok n => n.files
  | .error _ => []

def placeOf (t : FileTree) (name : String) : Place := t.cwd ++ [name]

/-- Makes a file in the current directory, where nothing may stand under that name. -/
def createNew (t : FileTree) (name : String) (data : ByteArray) : Except FileError FileTree :=
  match t.root.get? (t.placeOf name) with
  | some _ => .error .alreadyExists
  | none => .ok { t with root := Node.set (.file data) t.root (t.placeOf name) }

def removeFile (t : FileTree) (name : String) : Except FileError FileTree :=
  match t.root.get? (t.placeOf name) with
  | none => .error .notFound
  | some (.dir _) => .error .isADirectory
  | some _ => .ok { t with root := t.root.erase (t.placeOf name) }

theorem placeOf_ne_nil (t : FileTree) (name : String) : t.placeOf name ≠ [] := by
  simp [placeOf]

theorem isSome_of_createNew {t : FileTree} {name : String} {data : ByteArray}
    (h : t.createNew name data = .error .alreadyExists) : (t.root.get? (t.placeOf name)).isSome = true := by
  unfold createNew at h
  split at h
  · next hsome => rw [hsome, Option.isSome_some]
  · nomatch h

theorem get?_of_removeFile {t t' : FileTree} {name : String} (h : t.removeFile name = .ok t') :
    t'.root.get? (t'.placeOf name) = none := by
  unfold removeFile at h
  split at h
  · nomatch h
  · nomatch h
  · cases h
    exact t.root.get?_erase_self (t.placeOf_ne_nil name)

theorem get?_of_removeFile_notFound {t : FileTree} {name : String} (h : t.removeFile name = .error .notFound) :
    t.root.get? (t.placeOf name) = none := by
  unfold removeFile at h
  split at h
  · next hnone => exact hnone
  · nomatch h
  · nomatch h

end FileTree

end LineLimit

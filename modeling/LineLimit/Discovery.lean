import LineLimit.FileTree
import LineLimit.LintError
/-!
Which files patterns name. A pattern is a file, which is taken as it is, or a directory, of which the files with
a known extension are taken, or a glob for the files below the base directory. Globs of the configuration
filter every file found; excluding goes before including.
-/

namespace LineLimit

/-- The filter of a configuration and the extensions of the files that are taken from directories. -/
structure Finder where
  included : Option (List Glob)
  excluded : Option (List Glob)
  extensions : List String

namespace Finder

/-- Globs for a filter; no globs are no filter. -/
def globs (texts : List String) : Except LintError (Option (List Glob)) :=
  if texts.isEmpty then .ok none
  else ((Glob.parseAll texts).map some).mapError fun e => .config (.glob e)

def make (included excluded extensions : List String) : Except LintError Finder := do
  let included ← globs included
  let excluded ← globs excluded
  return { included, excluded, extensions }

def ignores (f : Finder) (path : String) : Bool :=
  if (f.excluded.map (Glob.anyMatch · path)).getD false then true
  else (f.included.map (!Glob.anyMatch · path)).getD false

/-- Whether a name has a known extension, in any case of letters. -/
def knowsExtension (f : Finder) (name : Place) : Bool :=
  match Path.extension? (name.map .name) with
  | some e => f.extensions.any (Ascii.sameName · e)
  | none => false

/-- The path of a file below the base directory; any other path stays as it is. Components for the current
directory at the start are dropped. -/
def relativeToBase (t : FileTree) (path base : String) : String :=
  let cs := Path.components path
  let relative := match Path.strip? (Path.components base) cs with
    | some rest => rest
    | none =>
      match t.canonical? path, t.canonical? base with
      | some p, some b => (Path.strip? b p).getD cs
      | _, _ => cs
  Path.render (Path.withoutHere relative)

/-- The files below a directory that are accepted and not left out. Both are decided by the names that lead
to a file from the directory. -/
def walk (f : Finder) (t : FileTree) (dir : String) (accepts : Place → String → Bool) : List String :=
  (t.filesBelow dir).filterMap fun names =>
    let relative := "/".intercalate names
    if accepts names relative && !f.ignores relative then
      some (if names.isEmpty then dir else Path.join dir relative)
    else none

inductive Target
  | file (path : String)
  | dir (path : String)
  | glob (g : Glob)

def target (t : FileTree) (pattern : String) : Except LintError Target :=
  if t.isFile pattern then .ok (.file pattern)
  else if t.isDir pattern then .ok (.dir pattern)
  else
    match Glob.parse pattern with
    | .ok g => .ok (.glob g)
    | .error e => .error (.config (.pattern e))

/-- The files that a pattern adds by itself. Globs are matched together later. -/
def filesOf (f : Finder) (t : FileTree) (base : String) : Target → List String
  | .file path => if f.ignores (relativeToBase t path base) then [] else [path]
  | .dir path => f.walk t path fun names _ => f.knowsExtension names
  | .glob _ => []

def globOf? : Target → Option Glob
  | .glob g => some g
  | _ => none

/-- Paths in ascending order. Of neighbours that are the same path the first stays. -/
def sortPaths (paths : List String) : List String :=
  dedup (paths.mergeSort Path.le)
where
  dedup : List String → List String
    | [] => []
    | p :: rest =>
      match dedup rest with
      | [] => [p]
      | q :: more => if Path.same p q then p :: more else p :: q :: more

/-- The files that patterns name, in ascending order. -/
def discover (f : Finder) (t : FileTree) (patterns : List String) (base : String) :
    Except LintError (List String) := do
  let targets ← patterns.mapM (target t)
  let named := targets.flatMap (f.filesOf t base)
  let gs := targets.filterMap globOf?
  let matched := if gs.isEmpty then [] else f.walk t base fun _ relative => Glob.anyMatch gs relative
  return sortPaths (named ++ matched)

end Finder

end LineLimit

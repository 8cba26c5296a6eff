import LineLimit.Config.Basic
import LineLimit.Discovery
import LineLimit.Markdown.Outline
import LineLimit.Report
/-!
The linter: it finds files, reads them and checks their lines. Each file is linted by itself, so that one that
cannot be read does not keep the others from being reported.
-/

namespace LineLimit

/-- A linter with the settings of its rule, none when the rule is off. -/
structure Linter where
  settings : Option Settings
  reader : Reader
  finder : Finder
  baseDir : Option String

/-- The outcome for several files, both lists in the order of the files. -/
structure Outcomes where
  reports : List Report
  failures : List (String × LintError)

namespace Linter

/-- A linter for a configuration, with settings that may differ from it. -/
def withSettings (c : Config) (settings : Option Settings) : Except LintError Linter := do
  let reader := Markdown.reader
  let finder ← Finder.make c.included c.excluded reader.extensions
  return { settings, reader, finder, baseDir := c.baseDir }

def make (c : Config) : Except LintError Linter := do
  withSettings c (← c.settings.mapError .config)

/-- Checks a text. It is not read when the rule is off. -/
def lintSource (l : Linter) (path source : String) : Except LintError Report :=
  match l.settings with
  | none => .ok ⟨path, []⟩
  | some s => do
    let d ← (l.reader.read source).mapError .parse
    return ⟨path, Check.diagnostics d s⟩

def sourceOf (t : FileTree) (path : String) : Except FileFailure String :=
  match t.find path with
  | .error e => .error (.noMetadata path e)
  | .ok (_, .file data) =>
    if maxFileSize < data.size then .error (.tooLarge path)
    else (t.readText path).mapError (.unreadable path)
  | .ok _ => .error (.notRegular path)

def lintFile (l : Linter) (t : FileTree) (path : String) : Except LintError Report :=
  match sourceOf t path with
  | .ok source => l.lintSource path source
  | .error e => .error (.file e)

/-- Checks files, each by itself. -/
def lintFiles (l : Linter) (t : FileTree) (paths : List String) : Outcomes :=
  paths.foldr (fun path rest =>
    match l.lintFile t path with
    | .ok r => { rest with reports := r :: rest.reports }
    | .error e => { rest with failures := (path, e) :: rest.failures }) ⟨[], []⟩

def lintPatterns (l : Linter) (t : FileTree) (patterns : List String) : Except LintError Outcomes := do
  return l.lintFiles t (← l.finder.discover t patterns (l.baseDir.getD "."))

end Linter

end LineLimit

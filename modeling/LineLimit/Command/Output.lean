import LineLimit.Codec.Diagnostic
import LineLimit.Command.Invocation
import LineLimit.LintError
/-!
What the commands write: results and rules, as text for readers or as JSON.
-/

namespace LineLimit.Command

/-- The line of text for a diagnostic. Columns are shown from 1, a missing place as zeros. -/
def diagnosticLine (path : String) (d : Diagnostic) : String :=
  let (line, column) := match d.loc with
    | some l => (l.start.line, l.start.column + 1)
    | none => (0, 0)
  s!"{path}:{line}:{column} {d.severity.name} [{d.rule}]: {d.message}\n"

def reportsText (rs : List Report) : String :=
  let lines := rs.flatMap fun r => r.diagnostics.map (diagnosticLine r.path)
  let s := Summary.ofReports rs
  String.join lines ++
    s!"\nChecked {s.files} files, found {s.diagnostics} issues ({s.filesWithErrors} files with errors)\n"

def reportsJson (rs : List Report) : String := (Json.arr (rs.map Report.toJson)).pretty 0 ++ "\n"

def writeReports (format : Format) (rs : List Report) : String :=
  match format with
  | .text => reportsText rs
  | .json => reportsJson rs

def failureLines (failures : List (String × LintError)) : List String :=
  if failures.isEmpty then []
  else
    s!"{failures.length} file(s) failed to lint:" ::
      failures.map fun (path, e) => s!"  {path}: {e.message}"

def ruleText (m : Manifest) : String :=
  let tags := ", ".intercalate m.tags
  s!"{m.displayName} [{tags}]\n    {m.description}\n"

/-- A rule as JSON, its members in their declared order. -/
def ruleJson (m : Manifest) : Json :=
  .obj [("id", .str m.id), ("aliases", .strings m.aliases), ("tags", .strings m.tags),
    ("description", .str m.description)]

def writeRules (format : Format) (rules : List Manifest) : String :=
  match format with
  | .text => String.join (rules.map ruleText)
  | .json => (Json.arr (rules.map ruleJson)).pretty 0 ++ "\n"

end LineLimit.Command

import LineLimit.Command.Init
import LineLimit.Command.Output
import LineLimit.Linter
/-!
Running the program on a file tree. The exit status is 2 when the program cannot do what it is asked, 1 when
a file could not be linted or some diagnostic is an error, and 0 otherwise.
-/

namespace LineLimit.Command

/-- What a run leaves: its exit status, what it wrote, the lines about files that could not be linted, the file
tree, and the reason if the run could not do what it was asked. -/
structure Outcome where
  status : Nat
  output : String
  failed : List String
  tree : FileTree
  reason : Option String := none

/-- The outcome of a run that stops before it writes anything. -/
def Outcome.refused (t : FileTree) (reason : String) : Outcome := ⟨2, "", [], t, some reason⟩

/-- The configuration of a run: that of the file given, or of the file found in the current directory, or the
empty one. -/
def loadConfig (t : FileTree) (path : Option String) : Except ConfigError Config :=
  match path <|> Config.discover? t "." with
  | some path => Config.load t path
  | none => .ok {}

def lint (t : FileTree) (config : Option String) (patterns : List String) (overrides : Overrides) :
    Except LintError Outcomes := do
  let c ← (loadConfig t config).mapError .config
  let settings ← c.settings.mapError .config
  let l ← Linter.withSettings c (settings.map overrides.apply)
  l.lintPatterns t patterns

def statusOf (o : Outcomes) : Nat :=
  if o.reports.any (·.hasErrors) || !o.failures.isEmpty then 1 else 0

def runLint (t : FileTree) (config : Option String) (patterns : List String) (format : Format)
    (overrides : Overrides) : Outcome :=
  match lint t config patterns overrides with
  | .error e => .refused t e.message
  | .ok o => ⟨statusOf o, writeReports format o.reports, failureLines o.failures, t, none⟩

def runInit (t : FileTree) (force : Bool) : Outcome :=
  let result := Init.init force t
  match result.error with
  | none => ⟨0, "", [], result.tree, none⟩
  | some e => .refused result.tree e.message

def versionText : String := "strictlen 0.1.0\n"

def usageText : String :=
  "Usage: strictlen [-c PATH] [-v] lint [OPTIONS] PATTERN... | init [--force] | rules [-f FORMAT]\n"

def run (t : FileTree) (args : List String) : Outcome :=
  match Invocation.parse args with
  | none => .refused t usageText
  | some call =>
    match call.action with
    | .lint patterns format overrides => runLint t call.config patterns format overrides
    | .init force => runInit t force
    | .rules format => ⟨0, writeRules format Manifest.all, [], t, none⟩
    | .version => ⟨0, versionText, [], t, none⟩
    | .help => ⟨0, usageText, [], t, none⟩

end LineLimit.Command

import LineLimit.Config.RuleOption
import LineLimit.Json.Relaxed.Parser
/-!
The configuration: what is said about rules, and which files are linted. It is read from relaxed JSON. A rule
may be mentioned under one of its names only, and not at all for the usual settings.
-/

namespace LineLimit

/-- A configuration. `options` keeps its names in ascending order. Globs apply to paths below `baseDir`. -/
structure Config where
  options : List (String × RuleOption) := []
  included : List String := []
  excluded : List String := []
  baseDir : Option String := none
  deriving Repr, Inhabited

namespace Config

open Json (Reading Shape)

def memberNames : List String := ["options", "include", "exclude"]

def readOptions : Json → Reading (List (String × RuleOption))
  | .obj members => .ok (members.map fun (name, v) => (name, .ofJson v))
  | v => .error (.type v "a map")

def shape : Shape Config where
  name := "LinterConfig"
  members := memberNames
  needed := 0
  visit
    | "options", v, c => do return { c with options := ← readOptions v }
    | "include", v, c => do return { c with included := ← Json.readList Json.readString v }
    | "exclude", v, c => do return { c with excluded := ← Json.readList Json.readString v }
    | name, _, _ => .error (.unknownMember name memberNames)

/-- Reads a configuration. A text without a value is the empty configuration. -/
def parse (source : String) : Except ConfigError Config := do
  let v ← (Json.Relaxed.parse source).mapError (.malformed source)
  (shape.read {} (v.getD (.obj []))).mapError .mismatch

/-- The settings that what is said about rules gives, none when the rule is off. -/
def resolveOptions (options : List (String × RuleOption)) : Except ConfigError (Option Settings) :=
  match options.filter fun (name, _) => Manifest.lineLength.isNamed name with
  | [] => .ok (some {})
  | [(_, option)] => option.resolve
  | several => .error (.repeated ((several.map (·.1)).mergeSort fun a b => decide (a ≤ b)))

def settings (c : Config) : Except ConfigError (Option Settings) := resolveOptions c.options

/-- The names of configuration files, those that go first coming first. -/
def fileNames : List String := [".strictlen.jsonc", ".strictlen.json"]

def discover? (t : FileTree) (dir : String) : Option String :=
  (fileNames.map (Path.join dir)).find? t.isFile

/-- The directory of a configuration file, to which its globs apply. -/
def dirOf (path : String) : String :=
  let dir := Path.parent path
  if dir = "" then "." else dir

def load (t : FileTree) (path : String) : Except ConfigError Config := do
  let source ← (t.readText path).mapError (.unreadable path)
  return { ← parse source with baseDir := some (dirOf path) }

end Config

end LineLimit

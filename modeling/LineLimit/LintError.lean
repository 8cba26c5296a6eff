import LineLimit.FileTree
import LineLimit.Glob.Basic
import LineLimit.Json.Mismatch
import LineLimit.Json.Relaxed.Fault
import LineLimit.Reader
import LineLimit.Rule.Manifest
import LineLimit.Severity
/-!
What can go wrong on the way to a report, and how it is told. Every error belongs to the configuration, to a
file, or to the reading of a text.
-/

namespace LineLimit

inductive ConfigError
  | unreadable (path : String) (cause : FileError)
  /-- The text is no relaxed JSON. -/
  | malformed (source : String) (cause : Json.Relaxed.FaultAt)
  /-- The JSON value is no configuration. -/
  | mismatch (cause : Mismatch)
  | unknownSeverity (cause : UnknownSeverity)
  /-- The severity of the rule is given by something other than a text. -/
  | severityType (found : Json)
  /-- The options of the rule are given by something other than an object. -/
  | optionsType
  | options (cause : Mismatch)
  /-- Several names of the rule are configured. -/
  | repeated (names : List String)
  /-- A glob of the configuration cannot be read. -/
  | glob (cause : GlobError)
  /-- A pattern is neither a file nor a directory, and no glob. -/
  | pattern (cause : GlobError)

namespace ConfigError

def message : ConfigError → String
  | unreadable path cause => s!"Failed to read config {path}: {cause.message}"
  | malformed source cause => s!"Invalid JSON: {cause.message source}"
  | mismatch cause => s!"Invalid config: {cause.message}"
  | unknownSeverity cause => cause.message
  | severityType found => s!"Invalid severity value: {found.print}"
  | optionsType =>
    s!"Options for '{Manifest.lineLength.displayName}' must be a boolean, a severity or an object"
  | options cause => s!"Invalid options for '{Manifest.lineLength.displayName}': {cause.message}"
  | repeated names =>
    s!"Rule '{Manifest.lineLength.displayName}' is configured more than once: " ++
      ", ".intercalate names
  | glob cause => s!"Invalid glob pattern: {cause.message}"
  | pattern cause => s!"Invalid pattern '{cause.text}': {cause.message}"

end ConfigError

/-- The size from which on a file is not read, in bytes. -/
def maxFileSize : Nat := 10 * 1024 * 1024

inductive FileFailure
  | noMetadata (path : String) (cause : FileError)
  | notRegular (path : String)
  | tooLarge (path : String)
  | unreadable (path : String) (cause : FileError)
  deriving DecidableEq, Repr

def FileFailure.message : FileFailure → String
  | noMetadata path cause => s!"Failed to read metadata for {path}: {cause.message}"
  | notRegular path => s!"Not a regular file: {path}"
  | tooLarge path => s!"File size exceeds limit of {maxFileSize} bytes: {path}"
  | unreadable path cause => s!"Failed to read {path}: {cause.message}"

inductive ErrorKind
  | config
  | file
  | parse
  | io
  deriving DecidableEq, Repr

/-- A message as it is shown, with the part of the program before it. -/
def ErrorKind.headline (k : ErrorKind) (text : String) : String :=
  match k with
  | config => s!"Configuration error: {text}"
  | file => s!"File error: {text}"
  | parse => s!"Parse error: {text}"
  | io => s!"I/O error: {text}"

inductive LintError
  | config (cause : ConfigError)
  | file (cause : FileFailure)
  | parse (cause : ParseError)

namespace LintError

def kind : LintError → ErrorKind
  | config _ => .config
  | file _ => .file
  | parse _ => .parse

def detail : LintError → String
  | config cause => cause.message
  | file cause => cause.message
  | parse cause => cause.message

def message (e : LintError) : String := e.kind.headline e.detail

end LintError

end LineLimit

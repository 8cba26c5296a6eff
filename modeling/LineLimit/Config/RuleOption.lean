import LineLimit.Codec.Options
import LineLimit.LintError
/-!
What a configuration can say about a rule: on or off, a severity, or an object with a severity and options.
The rule is off for `false` and for the severity `off`, whatever else the object holds.
-/

namespace LineLimit

/-- What a configuration says about a rule, as it stands there. -/
inductive RuleOption
  | enabled (on : Bool)
  | severity (name : String)
  | options (v : Json)
  deriving Repr

namespace RuleOption

/-- Every JSON value says something about a rule, though not always something that makes sense. -/
def ofJson : Json → RuleOption
  | .bool b => .enabled b
  | .str s => .severity s
  | v => .options v

def toJson : RuleOption → Json
  | .enabled on => .bool on
  | .severity name => .str name
  | .options v => v

/-- The severity of that name, or none for `off`. -/
def readSeverity (name : String) : Except ConfigError (Option Severity) :=
  (Severity.parseOrOff name).mapError .unknownSeverity

/-- The severity that the members of an object give, or none for `off`. -/
def severityOf (members : List (String × Json)) : Except ConfigError (Option Severity) :=
  match Json.member? "severity" members with
  | none => .ok (some .error)
  | some (.str name) => readSeverity name
  | some v => .error (.severityType v)

def resolveMembers (members : List (String × Json)) : Except ConfigError (Option Settings) := do
  match ← severityOf members with
  | none => return none
  | some s =>
    let rest := members.filter (·.1 != "severity")
    let o ← (Options.ofJson (.obj rest)).mapError .options
    return some ⟨s, o⟩

/-- The settings that follow for the rule, none when it is off. -/
def resolve : RuleOption → Except ConfigError (Option Settings)
  | .enabled false => .ok none
  | .enabled true => .ok (some {})
  | .severity name => (readSeverity name).map (·.map fun s => ⟨s, {}⟩)
  | .options (.obj members) => resolveMembers members
  | .options _ => .error .optionsType

end RuleOption

end LineLimit

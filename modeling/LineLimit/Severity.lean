import LineLimit.Text.Ascii
/-!
How serious a diagnostic is. Settings name a severity, or `off` for no check at all.
-/

namespace LineLimit

/-- The severities, the most serious first. -/
inductive Severity
  | error
  | warning
  | info
  deriving DecidableEq, Repr, Inhabited

/-- A text that names no severity, in lower case. -/
structure UnknownSeverity where
  name : String
  deriving DecidableEq, Repr

def UnknownSeverity.message (e : UnknownSeverity) : String :=
  s!"unknown severity '{e.name}' (expected error, warning, info or off)"

namespace Severity

def all : List Severity := [error, warning, info]

def name : Severity → String
  | error => "error"
  | warning => "warning"
  | info => "info"

def ofName? (s : String) : Option Severity := all.find? (·.name == s)

theorem ofName?_name (s : Severity) : ofName? s.name = some s := by
  cases s <;> decide

/-- Reads a severity in any case of letters. `warn` is short for `warning`. -/
def parse (s : String) : Except UnknownSeverity Severity :=
  match Ascii.lower s with
  | "error" => .ok error
  | "warning" => .ok warning
  | "warn" => .ok warning
  | "info" => .ok info
  | other => .error ⟨other⟩

/-- Reads a severity or the word `off`, which is none. -/
def parseOrOff (s : String) : Except UnknownSeverity (Option Severity) :=
  if Ascii.sameName s "off" then .ok none else (parse s).map some

def rank : Severity → Nat
  | error => 0
  | warning => 1
  | info => 2

instance : Ord Severity := ⟨fun a b => compare a.rank b.rank⟩

end Severity

end LineLimit

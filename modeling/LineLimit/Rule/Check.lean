import LineLimit.Diagnostic
import LineLimit.Rule.Exemption
import LineLimit.Rule.LinkTail
import LineLimit.Rule.Manifest
/-!
The check for long lines. A line violates the rule when it has more characters than the options allow,
does not end in a link that excuses it, and is not exempt. Each violation is reported once.
-/

namespace LineLimit

/-- The settings of the rule: the options, and how serious a violation is. -/
structure Settings where
  severity : Severity := .error
  options : Options := {}
  deriving DecidableEq, Repr, Inhabited

namespace Check

/-- Whether a line of that text is too long and has no link for an excuse. -/
def tooLong (o : Options) (text : List Char) : Bool :=
  decide (o.effectiveLimit.toNat ≤ text.length) &&
    !(o.ignoreLinks && LinkTail.ends text o.ignoreLinkPunctuation)

/-- The lines that violate the rule, in ascending order. -/
def violations (d : Document) (o : Options) : List UInt32 :=
  let spans := Exemption.spans d o
  (d.matchingLines (tooLong o)).filter fun n => !spans.any (·.covers n)

/-- The report of one violation: its message counts the characters of the line. -/
def diagnostic (s : Settings) (n : UInt32) (info : LineInfo) : Diagnostic where
  rule := Manifest.lineLength.id
  message := s!"Line length is {info.chars} characters, exceeding the limit of " ++
    s!"{s.options.lineLength} ({Manifest.lineLength.displayName})"
  span := ⟨info.start, info.stop⟩
  loc := some ⟨⟨n, 0⟩, ⟨n, info.chars⟩⟩
  severity := s.severity

def diagnostics (d : Document) (s : Settings) : List Diagnostic :=
  (violations d s.options).filterMap fun n => (d.lineInfo? n).map (diagnostic s n)

end Check

end LineLimit

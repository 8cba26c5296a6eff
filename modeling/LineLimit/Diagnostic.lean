import LineLimit.Severity
/-!
What the check reports. A diagnostic names the rule, says what is wrong, and points at a piece of the
text, by bytes and, where it is known, by line and column. Diagnostics are ordered by their parts in
that order, the less complete before the more complete and the more serious first.
-/

namespace LineLimit

/-- A place in a text. Lines count from 1, columns are characters and count from 0. -/
structure Position where
  line : UInt32
  column : UInt32
  deriving DecidableEq, Repr

/-- A piece of a text by its bytes, up to but without byte `stop`. -/
structure Span where
  start : UInt32
  stop : UInt32
  deriving DecidableEq, Repr

/-- A piece of a text by the places of its ends. -/
structure Location where
  start : Position
  stop : Position
  deriving DecidableEq, Repr

structure Diagnostic where
  rule : String
  message : String
  span : Span
  loc : Option Location := none
  severity : Severity := .error
  deriving DecidableEq, Repr

instance : Ord Position :=
  ⟨fun a b => (compare a.line b.line).then (compare a.column b.column)⟩

instance : Ord Span :=
  ⟨fun a b => (compare a.start b.start).then (compare a.stop b.stop)⟩

instance : Ord Location :=
  ⟨fun a b => (compare a.start b.start).then (compare a.stop b.stop)⟩

namespace Diagnostic

def line? (d : Diagnostic) : Option UInt32 := d.loc.map (·.start.line)

/-- A diagnostic without a place comes before one with a place. -/
def compareLoc : Option Location → Option Location → Ordering
  | none, none => .eq
  | none, some _ => .lt
  | some _, none => .gt
  | some a, some b => compare a b

instance : Ord Diagnostic :=
  ⟨fun a b =>
    (compare a.rule b.rule).then <| (compare a.message b.message).then <|
      (compare a.span b.span).then <| (compareLoc a.loc b.loc).then (compare a.severity b.severity)⟩

/-- The diagnostics in ascending order; equal ones keep theirs. -/
def sort (ds : List Diagnostic) : List Diagnostic :=
  ds.mergeSort fun a b => (compare a b).isLE

end Diagnostic

end LineLimit

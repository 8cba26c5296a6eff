import LineLimit.Json.Structure
import LineLimit.Report
/-!
Diagnostics and reports as JSON. A place is left out where there is none. When a diagnostic is read, its
severity is `error` if it is not given, and members of other names are passed over.
-/

namespace LineLimit

open Json (Reading Shape)

namespace Severity

def toJson (s : Severity) : Json := .str s.name

def ofJson : Json → Reading Severity := Json.readName (all.map name) ofName?

end Severity

namespace Span

def toJson (s : Span) : Json := .obj [("end", .ofWord s.stop), ("start", .ofWord s.start)]

/-- The members of a span, as far as they have been read. -/
structure Draft where
  start : Option UInt32 := none
  stop : Option UInt32 := none

def shape : Shape Draft where
  name := "Span"
  members := ["start", "end"]
  needed := 2
  visit
    | "start", v, d => do return { d with start := ← Json.readWord v }
    | "end", v, d => do return { d with stop := ← Json.readWord v }
    | _, _, d => .ok d

def ofJson (v : Json) : Reading Span := do
  let d ← shape.read {} v
  return ⟨← Json.require "start" d.start, ← Json.require "end" d.stop⟩

end Span

namespace Position

def toJson (p : Position) : Json := .obj [("column", .ofWord p.column), ("line", .ofWord p.line)]

structure Draft where
  line : Option UInt32 := none
  column : Option UInt32 := none

def shape : Shape Draft where
  name := "Position"
  members := ["line", "column"]
  needed := 2
  visit
    | "line", v, d => do return { d with line := ← Json.readWord v }
    | "column", v, d => do return { d with column := ← Json.readWord v }
    | _, _, d => .ok d

def ofJson (v : Json) : Reading Position := do
  let d ← shape.read {} v
  return ⟨← Json.require "line" d.line, ← Json.require "column" d.column⟩

end Position

namespace Location

def toJson (l : Location) : Json := .obj [("end", l.stop.toJson), ("start", l.start.toJson)]

structure Draft where
  start : Option Position := none
  stop : Option Position := none

def shape : Shape Draft where
  name := "Location"
  members := ["start", "end"]
  needed := 2
  visit
    | "start", v, d => do return { d with start := ← Position.ofJson v }
    | "end", v, d => do return { d with stop := ← Position.ofJson v }
    | _, _, d => .ok d

def ofJson (v : Json) : Reading Location := do
  let d ← shape.read {} v
  return ⟨← Json.require "start" d.start, ← Json.require "end" d.stop⟩

end Location

namespace Diagnostic

/-- The object of a diagnostic, its members in ascending order of names. -/
def toJson (d : Diagnostic) : Json :=
  let loc := match d.loc with
    | some l => [("loc", l.toJson)]
    | none => []
  .obj (loc ++ [("message", .str d.message), ("rule_id", .str d.rule),
    ("severity", d.severity.toJson), ("span", d.span.toJson)])

structure Draft where
  rule : Option String := none
  message : Option String := none
  span : Option Span := none
  loc : Option Location := none
  severity : Severity := .error

def shape : Shape Draft where
  name := "Diagnostic"
  members := ["rule_id", "message", "span", "loc", "severity"]
  needed := 4
  visit
    | "rule_id", v, d => do return { d with rule := ← Json.readString v }
    | "message", v, d => do return { d with message := ← Json.readString v }
    | "span", v, d => do return { d with span := ← Span.ofJson v }
    | "loc", v, d => do return { d with loc := ← Json.readOption Location.ofJson v }
    | "severity", v, d => do return { d with severity := ← Severity.ofJson v }
    | _, _, d => .ok d

def ofJson (v : Json) : Reading Diagnostic := do
  let d ← shape.read {} v
  return {
    rule := ← Json.require "rule_id" d.rule
    message := ← Json.require "message" d.message
    span := ← Json.require "span" d.span
    loc := d.loc
    severity := d.severity }

end Diagnostic

def Report.toJson (r : Report) : Json :=
  .obj [("diagnostics", .arr (r.diagnostics.map Diagnostic.toJson)), ("path", .str r.path)]

end LineLimit

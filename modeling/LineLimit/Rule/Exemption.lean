import LineLimit.Document
import LineLimit.Rule.Options
/-!
The lines that are not checked. A code block that starts on line `n` and holds `k` lines exempts the lines
from `n` to `n + k`. A table at the top of the outline exempts the lines from its own to the one before
the next element that has a place, or to the end of the document. A span never leaves the document.
-/

namespace LineLimit

inductive Exemption.Reason
  | codeBlock
  | table
  deriving DecidableEq, Repr

/-- Lines that are not checked, from `first` to `last`. -/
structure Exemption where
  first : UInt32
  last : UInt32
  reason : Exemption.Reason
  deriving DecidableEq, Repr

namespace Exemption

def covers (x : Exemption) (n : UInt32) : Bool := decide (x.first ≤ n ∧ n ≤ x.last)

/-- The span from `first` to `last` inside a document of `count` lines. There is none when it would start
outside the document or hold no line. -/
def within (count first last : UInt32) (reason : Reason) : Option Exemption :=
  let last := min last count
  if first = 0 ∨ count < first ∨ last < first then none else some ⟨first, last, reason⟩

/-- The sum of two line numbers, or the largest number when it is too large. -/
def saturatingAdd (a b : UInt32) : UInt32 := .ofNat (min (a.toNat + b.toNat) (UInt32.size - 1))

/-- The line before, with nothing before line 0. -/
def before (n : UInt32) : UInt32 := if n = 0 then 0 else n - 1

def ofCodeBlock (count : UInt32) (e : Element) : Option Exemption :=
  e.location.bind fun start => within count start (saturatingAdd start e.valueLines) .codeBlock

def codeBlocks (d : Document) : List Exemption :=
  (d.elementsOf .codeBlock).filterMap (ofCodeBlock d.lineCount)

/-- The elements that have a place, each with its line. -/
def located (elements : List Element) : List (UInt32 × Element) :=
  elements.filterMap fun e => e.location.map (·, e)

/-- The last line of a table: the one above the next element that has a place, or the end of the document. -/
def lastAbove (count : UInt32) : List (UInt32 × Element) → UInt32
  | (next, _) :: _ => before next
  | [] => count

/-- The span of an element when it is a table. -/
def ofTable (count start : UInt32) (e : Element) (below : List (UInt32 × Element)) : Option Exemption :=
  if e.kind = .table then within count start (lastAbove count below) .table else none

def tablesIn (count : UInt32) : List (UInt32 × Element) → List Exemption
  | [] => []
  | (start, e) :: rest => (ofTable count start e rest).toList ++ tablesIn count rest

def tables (d : Document) : List Exemption := tablesIn d.lineCount (located d.elements)

/-- The spans that the options ask for, those of code blocks first. -/
def spans (d : Document) (o : Options) : List Exemption :=
  (if o.ignoreCodeBlocks then codeBlocks d else []) ++ (if o.ignoreTables then tables d else [])

end Exemption

end LineLimit

import LineLimit.Element
/-!
A document: a text, its lines, and the elements at the top of its outline. Lines are counted from 1.
Byte offsets and counts are 32-bit words, so a document is meant to be smaller than 2 ^ 32 bytes.
-/

namespace LineLimit

def byteCount (s : List Char) : Nat := s.foldr (fun c n => c.utf8Size + n) 0

/-- Where a line stands in its text, without its ending: from byte `start` up to byte `stop`. -/
structure LineInfo where
  start : UInt32
  stop : UInt32
  chars : UInt32
  deriving DecidableEq, Repr

/-- What is known of each line, when the first one starts at byte `offset`. -/
def LineInfo.table (offset : Nat) : List Line → List LineInfo
  | [] => []
  | l :: rest =>
    ⟨.ofNat offset, .ofNat (offset + byteCount l.text), .ofNat l.text.length⟩ ::
      table (offset + byteCount l.chars) rest

theorem LineInfo.length_table (offset : Nat) (lines : List Line) :
    (table offset lines).length = lines.length := by
  induction lines generalizing offset with
  | nil => rfl
  | cons l rest ih => simp [table, ih]

/-- A text with its lines and the elements at the top of its outline. -/
structure Document where
  source : String
  elements : List Element := []
  lines : List Line := Line.split source.toList
  infos : Array LineInfo := (LineInfo.table 0 lines).toArray
  lines_eq : lines = Line.split source.toList := by rfl
  infos_eq : infos = (LineInfo.table 0 lines).toArray := by rfl

namespace Document

def new (source : String) (elements : List Element) : Document := { source, elements }

def ofSource (source : String) : Document := new source []

def lineCount (d : Document) : UInt32 := .ofNat d.lines.length

/-- What is known of line `n`. There is no line 0. -/
def lineInfo? (d : Document) (n : UInt32) : Option LineInfo :=
  if n = 0 then none else d.infos[n.toNat - 1]?

def numbered (d : Document) : List (UInt32 × List Char) :=
  d.lines.zipIdx.map fun (l, i) => (.ofNat (i + 1), l.text)

def matchingLines (d : Document) (p : List Char → Bool) : List UInt32 :=
  (d.numbered.filter fun (_, text) => p text).map (·.1)

def elementsOf (d : Document) (k : Kind) : List Element := Element.findIn k d.elements

end Document

end LineLimit

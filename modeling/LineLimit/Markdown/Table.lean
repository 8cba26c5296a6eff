import LineLimit.Markdown.Column
import LineLimit.Markdown.Gap
/-!
Rows of tables. Pipes divide a row into cells, except where a backslash stands before them. The second row tells
how many cells the first one has, or else there is no table.
-/

namespace LineLimit.Markdown.Table

def split : List Char → List (List Char)
  | [] => [[]]
  | '|' :: rest => [] :: split rest
  | '\\' :: '|' :: rest => prepend ['\\', '|'] (split rest)
  | '\\' :: '\\' :: rest => prepend ['\\', '\\'] (split rest)
  | c :: rest => prepend [c] (split rest)
where
  /-- Puts characters in front of the first text. -/
  prepend (s : List Char) : List (List Char) → List (List Char)
    | [] => [s]
    | first :: rest => (s ++ first) :: rest

def isBlank (s : List Char) : Bool := s.all Gap.isBlank

def dropBlankEnd (texts : List (List Char)) : List (List Char) :=
  if texts.getLast?.any isBlank then texts.dropLast else texts

/-- The cells of a row, without the blanks around them. Pipes around the row make no cells, but a row has at
least one cell. -/
def cells (row : List Char) : List (List Char) :=
  let trimmed := match split row with
    | first :: second :: rest =>
      dropBlankEnd (if isBlank first then second :: rest else first :: second :: rest)
    | texts => texts
  if trimmed.isEmpty then [[]] else trimmed.map fun s => Gap.trimEnd (Gap.dropBlanks s)

/-- How many cells a first row counts, none when it is a pipe alone. A row that is indented too far counts
what stands before its first pipe. -/
def headCount? (cs : List Column) : Option Nat :=
  let start := Column.dropIndent cs
  let texts := split (Column.chars start)
  let startsWithPipe := start.head? == some (.glyph '|')
  let inner := if startsWithPipe then texts.drop 1 else texts
  let endsBlank := decide (1 < texts.length) && texts.getLast?.any isBlank
  if startsWithPipe && endsBlank && texts.length = 2 then none
  else some (if endsBlank then inner.length - 1 else inner.length)

/-- Whether a text is a cell of the second row: hyphens, and colons at their ends. -/
def isDivider (s : List Char) : Bool :=
  let s := Gap.trimEnd (Gap.dropBlanks s)
  let s := if s.head? == some ':' then s.drop 1 else s
  match s with
  | '-' :: rest =>
    let after := rest.dropWhile (· = '-')
    after.isEmpty || after == [':']
  | _ => false

/-- How many cells a second row has, none when the line is no such row. It holds a pipe or a colon. -/
def dividerCount? (cs : List Column) : Option Nat := do
  let s ← Column.leafText? cs
  let texts := split s
  let inner := if s.head? == some '|' then texts.drop 1 else texts
  let dividers := if 1 < texts.length then dropBlankEnd inner else inner
  if dividers.all isDivider && (s.contains '|' || s.contains ':') then some dividers.length else none

/-- Characters with which no row starts, unless it is indented: other leaves start with them. -/
def otherStarts : List Char := ['#', '\u0060', '~', '*', '_', '$', '\x7b', 'e', 'i']

/-- Whether a line may be a row, as far as its first character tells. -/
def mayStart (cs : List Column) : Bool :=
  match cs with
  | .glyph c :: _ => !otherStarts.contains c
  | _ => true

end LineLimit.Markdown.Table

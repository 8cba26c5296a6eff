import LineLimit.Document
import LineLimit.Markdown.Leaf
/-!
Containers hold blocks: quotes, items of lists, and footnotes. Each line of a container starts with a part that
belongs to it; what follows belongs to what it holds.
-/

namespace LineLimit.Markdown

/-- A container. Lines of an item are indented by its size; an item that starts with a blank line ends with
another one. -/
inductive Container
  | quote
  | item (marker : Char) (size : Nat) (startsBlank : Bool)
  | note (label : List Char)
  deriving DecidableEq, Repr

namespace Container

/-- The columns after the mark of a quote. One blank after it belongs to it. -/
def quoteRest? (cs : List Column) : Option (List Column) :=
  match Column.dropIndent cs with
  | .glyph '>' :: rest => some (Column.dropBlanks 1 rest)
  | _ => none

/-- The marker of an item, by which items of one list are known, and the columns after it. An item that
interrupts a paragraph is not numbered, or has number 1. -/
def marker? (interrupting : Bool) (cs : List Column) : Option (Char × List Column) :=
  match cs with
  | .glyph c :: rest =>
    if c = '+' then some (c, rest)
    else if c = '*' || c = '-' then
      if isThematicBreak (Column.chars cs) then none else some (c, rest)
    else
      let digits := cs.takeWhile fun
        | .glyph d => d.isDigit
        | .fill _ => false
      match cs.drop digits.length with
      | .glyph d :: rest =>
        if (d = '.' || d = ')') && 0 < digits.length && digits.length ≤ 9 &&
            (!interrupting || digits == [.glyph '1']) then
          some (d, rest)
        else none
      | _ => none
  | _ => none

/-- The columns after the blanks that separate a marker from what the item holds: all of them up to a full
tab, and otherwise a single one. -/
def afterMarker? (cs : List Column) : Option (List Column) :=
  let blanks := (cs.takeWhile Column.isBlank).length
  if blanks = 0 then none
  else some (cs.drop (if blanks ≤ Column.tabStop then blanks else 1))

/-- An item that starts on a line. One without content cannot interrupt a paragraph. -/
def item? (interrupting : Bool) (cs : List Column) : Option (Container × List Column) := do
  let (marker, rest) ← marker? interrupting (Column.dropIndent cs)
  if Column.allBlank rest then
    if interrupting then none else some (item marker (Column.width cs rest + 1) true, rest)
  else
    let inner ← afterMarker? rest
    some (item marker (Column.width cs inner) false, inner)

/-- The label of a footnote and the columns after its bracket. There are no blanks in the label. -/
def noteLabel? : List Column → Option (List Char × List Column)
  | .glyph ']' :: rest => some ([], rest)
  | .glyph '\\' :: .glyph c :: rest =>
    if c = '[' || c = ']' || c = '\\' then
      (noteLabel? rest).map fun (label, after) => ('\\' :: c :: label, after)
    else (noteLabel? (.glyph c :: rest)).map fun (label, after) => ('\\' :: label, after)
  | .glyph c :: rest =>
    if c = '[' || c = ' ' || c = '\t' then none
    else (noteLabel? rest).map fun (label, after) => (c :: label, after)
  | _ => none

def maxLabel : Nat := 999

def note? (cs : List Column) : Option (Container × List Column) :=
  match Column.dropIndent cs with
  | .glyph '[' :: .glyph '^' :: rest =>
    match noteLabel? rest with
    | some (label, .glyph ':' :: rest) =>
      if label.isEmpty || maxLabel < byteCount label then none
      else some (note label, Column.dropAllBlanks rest)
    | _ => none
  | _ => none

/-- A container that starts on a line, and the columns of what it holds. -/
def open? (interrupting : Bool) (cs : List Column) : Option (Container × List Column) :=
  ((quoteRest? cs).map (quote, ·)) <|> item? interrupting cs <|> note? cs

/-- All containers that start on a line, the outermost first, and the columns of what the last one holds. What
cannot interrupt a paragraph cannot start inside another container on the line after it either. -/
def openAll (interrupting : Bool) (cs : List Column) : List Container × List Column :=
  match open? interrupting cs with
  | some (c, rest) =>
    if rest.length < cs.length then
      let (more, rest) := openAll interrupting rest
      (c :: more, rest)
    else ([], cs)
  | none => ([], cs)
  termination_by cs.length

/-- The container after a line that continues it, and the columns of what it holds. -/
def continue? (c : Container) (cs : List Column) : Option (Container × List Column) :=
  match c with
  | quote => (quoteRest? cs).map (quote, ·)
  | item marker size startsBlank =>
    if Column.allBlank cs then
      if startsBlank then none else some (c, Column.dropBlanks size cs)
    else (Column.stripBlanks? size cs).map (item marker size false, ·)
  | note _ =>
    if Column.allBlank cs then some (c, Column.dropBlanks Column.tabStop cs)
    else (Column.stripCode? cs).map (c, ·)

/-- The containers that a line continues, the outermost first, and the columns of what the last one holds. -/
def continueAll : List Container → List Column → List Container × List Column
  | [], cs => ([], cs)
  | c :: more, cs =>
    match continue? c cs with
    | some (c, rest) =>
      let (more, rest) := continueAll more rest
      (c :: more, rest)
    | none => ([], cs)

end Container

end LineLimit.Markdown

import LineLimit.Markdown.Block
import LineLimit.Markdown.Html
import LineLimit.Markdown.Table
import LineLimit.Text.Line
/-!
The layout of a document: its lines are read one after the other, and what is open at the end of a line decides
what the next one can be. A line of a paragraph may leave out the parts that belong to its containers; such a
line is lazy, and nothing but text can be.
-/

namespace LineLimit.Markdown

def dropFirstEnding : List Char → List Char
  | '\r' :: '\n' :: s => s
  | '\n' :: s => s
  | '\r' :: s => s
  | s => s

def dropLastEnding (s : List Char) : List Char :=
  match s.reverse with
  | '\n' :: '\r' :: before => before.reverse
  | '\n' :: before => before.reverse
  | '\r' :: before => before.reverse
  | _ => s

/-- What the last line has left open inside the innermost container. Lists hold what comes last first. -/
inductive Leaf
  | none
  | prose (lines : List ProseLine)
  /-- Code between fences: the endings of lines and the lines themselves. -/
  | fenced (fence : Fence) (line : Nat) (parts : List (List Char))
  /-- Indented code, and the line endings that belong to it if more code follows. -/
  | indented (line : Nat) (parts : List (List Char)) (gap : List Char)
  | html (line : Nat) (start : Html.Start)
  | table (line : Nat) (rows : List (Nat × List (List Char)))

/-- A line as it reaches a leaf: its number, the columns that no container takes, and its ending. `bare` tells
that no container takes anything, `opens` that containers start on the line, `lazy` that not all have been
continued, and `afterText` that the line before is text of a paragraph, which indented code and most HTML cannot
follow. -/
structure InnerLine where
  line : Nat
  columns : List Column
  ending : List Char
  bare : Bool
  opens : Bool
  lazy : Bool
  afterText : Bool

/-- What a line is that continues neither code nor HTML. -/
inductive LineKind
  | blank
  | code (text : List Char)
  | fence (f : Fence)
  | html (start : Html.Start) (closed : Bool)
  | heading (text : List Char)
  | underline
  | thematicBreak
  /-- The second row of a table, the first of which is the line before. -/
  | divider
  | row
  | text (head : Option Nat)

namespace Leaf

/-- The blocks that a leaf makes when it is closed. A lazy line closes code between fences before the ending of
the line before it. -/
def blocks (byLazy : Bool) : Leaf → List Block
  | none => []
  | prose ls => ProseLine.blocks .none (ProseLine.parts ls.reverse)
  | fenced _ line parts =>
    let parts := if byLazy then parts.drop 1 else parts
    [.code line (dropLastEnding (dropFirstEnding parts.reverse.flatten))]
  | indented line parts _ => [.code line (dropLastEnding parts.reverse.flatten)]
  | html line _ => [.html line]
  | table line rows => [.table line rows.reverse]

/-- Whether lines in the leaf cannot start containers. -/
def isConcrete : Leaf → Bool
  | fenced .. | html .. => true
  | _ => false

/-- Whether the leaf is code or HTML, which lines continue by rules of their own. -/
def isLiteral : Leaf → Bool
  | fenced .. | html .. | indented .. => true
  | _ => false

def isProse : Leaf → Bool
  | prose _ => true
  | _ => false

def isTable : Leaf → Bool
  | table .. => true
  | _ => false

def endsInText : Leaf → Bool
  | prose (.text .. :: _) => true
  | _ => false

/-- How many cells the last line has, if it may be the first row of a table. -/
def head? : Leaf → Option Nat
  | prose (.text _ _ head _ :: _) => head
  | _ => Option.none

/-- Code or HTML after a line that continues it, and whether it ends with that line. -/
def continue? (h : InnerLine) : Leaf → Option (Leaf × Bool)
  | fenced f line parts =>
    if f.isClosedBy h.columns then some (fenced f line parts, true)
    else some (fenced f line (h.ending :: f.lineText h.columns :: parts), false)
  | html line start =>
    if start.endsAtBlank && Column.allBlank h.columns then Option.none
    else some (html line start, start.closes (Column.chars h.columns))
  | indented line parts gap =>
    match Column.stripCode? h.columns with
    | some rest => some (indented line (Column.literal rest :: gap :: parts) h.ending, false)
    | Option.none =>
      if Column.allBlank h.columns then some (indented line parts (gap ++ h.ending), false) else Option.none
  | _ => Option.none

/-- How a line starts a block of HTML, and whether the block ends with the line. -/
def htmlStart? (interrupting : Bool) (s : List Char) : Option (Html.Start × Bool) :=
  (Html.Start.ofLine interrupting s).map fun (start, text) => (start, start.closes text)

/-- What a line is that follows the leaf. -/
def kindOf (leaf : Leaf) (h : InnerLine) : LineKind :=
  let cs := h.columns
  let dividers := Table.dividerCount? cs
  let text : LineKind :=
    if leaf.isTable && !h.lazy && Table.mayStart cs then .row
    else if Table.mayStart cs && !(leaf.isTable && h.lazy) then .text (Table.headCount? cs)
    else .text Option.none
  if Column.allBlank cs then .blank
  else if !h.lazy && dividers.isSome && leaf.head? == dividers then .divider
  else
    match if h.afterText then Option.none else Column.stripCode? cs with
    | some rest => .code (Column.literal rest)
    | Option.none =>
      match Column.leafText? cs with
      | Option.none => text
      | some s =>
        match Fence.read? cs, htmlStart? (h.afterText && !h.lazy) s, Heading.read? s with
        | some f, _, _ => .fence f
        | _, some (start, closed), _ => .html start closed
        | _, _, some s => .heading s
        | _, _, _ =>
          if leaf.isProse && !h.lazy && isUnderline s then .underline
          else if isThematicBreak s then .thematicBreak
          else text

end Leaf

/-- An open container: the line on which it starts and the blocks in it so far, the last one first. -/
structure Frame where
  line : Nat
  container : Container
  done : List Block := []

/-- A document up to some line: the blocks outside all open containers, and the open containers, the innermost
first. `quiet` tells that the last line has closed containers; text on it does not count as a paragraph that
the next line might interrupt. -/
structure Layout where
  top : List Block := []
  frames : List Frame := []
  leaf : Leaf := .none
  quiet : Bool := false

namespace Layout

def add (s : Layout) (b : Block) : Layout :=
  match s.frames with
  | [] => { s with top := b :: s.top }
  | f :: rest => { s with frames := { f with done := b :: f.done } :: rest }

def closeLeaf (s : Layout) (byLazy : Bool) : Layout :=
  (s.leaf.blocks byLazy).foldl add { s with leaf := .none }

def closeFrames : Nat → Layout → Layout
  | n + 1, s =>
    match s.frames with
    | f :: rest =>
      closeFrames n ({ s with frames := rest }.add (.container f.line f.container f.done.reverse))
    | [] => s
  | 0, s => s

/-- Opens containers on a line, the outermost first. -/
def openFrames (s : Layout) (line : Nat) (cs : List Container) : Layout :=
  cs.foldl (fun s c => { s with frames := ⟨line, c, []⟩ :: s.frames }) s

/-- Notes what the outermost containers have become on a line. -/
def updateFrames (s : Layout) (cs : List Container) : Layout :=
  let missing := s.frames.length - cs.length
  let updated := (s.frames.drop missing).zipWith (fun f c => { f with container := c }) cs.reverse
  { s with frames := s.frames.take missing ++ updated }

/-- Whether the line before is text of a paragraph for a line that might start a container. -/
def isInterruptible (s : Layout) : Bool := s.leaf.endsInText && !s.quiet

/-- Whether the line before is text of a paragraph for what the next line holds. -/
def endsInText (s : Layout) : Bool := s.leaf.endsInText && !(s.quiet && s.leaf.head?.isNone)

/-- Adds a line of that kind. Indented code that starts where containers start or end has one line. -/
def place (s : Layout) (h : InnerLine) (k : LineKind) : Layout :=
  match k, s.leaf with
  | .text head, .prose ls =>
    { s with leaf := .prose (.text h.line (Column.chars h.columns) head h.bare :: ls) }
  | .text head, _ =>
    { s.closeLeaf false with leaf := .prose [.text h.line (Column.chars h.columns) head h.bare] }
  | .underline, .prose ls => { s with leaf := .prose (.underline h.line :: ls) }
  | .underline, _ => s
  | .divider, .prose (.text line text _ _ :: ls) =>
    { { s with leaf := .prose ls }.closeLeaf false with leaf := .table line [(line, Table.cells text)] }
  | .divider, _ => s
  | .row, .table line rows =>
    { s with leaf := .table line ((h.line, Table.cells (Column.chars h.columns)) :: rows) }
  | .row, _ => s
  | .blank, _ => s.closeLeaf false
  | .code text, _ =>
    if h.opens || h.lazy then (s.closeLeaf false).add (.code h.line text)
    else { s.closeLeaf false with leaf := .indented h.line [text] h.ending }
  | .fence f, _ => { s.closeLeaf false with leaf := .fenced f h.line [h.ending] }
  | .html start closed, _ =>
    if closed then (s.closeLeaf false).add (.html h.line)
    else { s.closeLeaf false with leaf := .html h.line start }
  | .heading text, _ => (s.closeLeaf false).add (.heading h.line text)
  | .thematicBreak, _ => (s.closeLeaf false).add (.thematicBreak h.line)

/-- Reads a line on which all open containers are continued. -/
def readInner (s : Layout) (h : InnerLine) : Layout :=
  match s.leaf.continue? h with
  | some (leaf, ends) =>
    let s := { s with leaf, quiet := false }
    if ends then s.closeLeaf false else s
  | none =>
    let s := if s.leaf.isLiteral then s.closeLeaf false else s
    { s.place h (s.leaf.kindOf h) with quiet := false }

/-- Reads a lazy line. It continues a paragraph, or closes the containers that it does not continue, of which
there are `missing`. -/
def readLazy (s : Layout) (missing : Nat) (h : InnerLine) : Layout :=
  let s := if s.leaf.isLiteral then s.closeLeaf true else s
  let k := s.leaf.kindOf h
  match s.leaf, k with
  | .prose _, .text _ => { s.place h k with quiet := false }
  | _, _ => { (closeFrames missing (s.closeLeaf false)).place h k with quiet := true }

/-- Reads a line, of which the first characters are `before` columns from the start of their line. -/
def readLine (s : Layout) (line : Nat) (before : Nat) (text ending : List Char) : Layout :=
  let columns := Column.ofChars before text
  let (kept, rest) := Container.continueAll (s.frames.reverse.map (·.container)) columns
  let missing := s.frames.length - kept.length
  let (opened, inner) :=
    if missing = 0 && s.leaf.isConcrete then ([], rest)
    else Container.openAll (missing = 0 && s.isInterruptible) rest
  let h : InnerLine :=
    { line, columns := inner, ending
      bare := inner.length = columns.length
      opens := !opened.isEmpty
      lazy := 0 < missing && opened.isEmpty
      afterText := (missing = 0 || opened.isEmpty) && s.endsInText }
  let s := s.updateFrames kept
  if h.opens then
    ((closeFrames missing (s.closeLeaf false)).openFrames line opened).readInner h
  else if h.lazy then s.readLazy missing h
  else s.readInner h

/-- The mark that may stand at the start of a document to tell how it is encoded. -/
def mark : Char := '\ufeff'

def readLines (s : Layout) (line : Nat) : List Line → Layout
  | [] => s
  | l :: rest => readLines (s.readLine line 0 l.text l.endingChars) (line + 1) rest

def finish (s : Layout) : List Block :=
  (closeFrames s.frames.length (s.closeLeaf false)).top.reverse

def blocks (source : String) : List Block :=
  match Line.split source.toList with
  | [] => []
  | l :: rest =>
    let first : Layout :=
      match l.text with
      | c :: text =>
        if c = mark then readLine {} 1 mark.utf8Size text l.endingChars
        else readLine {} 1 0 l.text l.endingChars
      | [] => readLine {} 1 0 [] l.endingChars
    (first.readLines 2 rest).finish

end Layout

end LineLimit.Markdown

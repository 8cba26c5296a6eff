/-!
Columns of a line. A tab stands in one column and fills further ones up to the next multiple of four, and
a container may end between them. A character is as many columns wide as it has bytes.
-/

namespace LineLimit.Markdown

/-- A column of a line: a character, or the `k`-th column, counted from 1, that the tab before it fills. -/
inductive Column
  | glyph (c : Char)
  | fill (k : Nat)
  deriving DecidableEq, Repr

namespace Column

/-- Tabs reach to multiples of this. -/
def tabStop : Nat := 4

/-- The columns of a text that starts after some columns. -/
def ofChars (before : Nat) : List Char → List Column
  | [] => []
  | c :: rest =>
    if c = '\t' then
      let fills := tabStop - 1 - before % tabStop
      .glyph c :: ((List.range fills).map (fun k => .fill (k + 1)) ++ ofChars (before + 1 + fills) rest)
    else .glyph c :: ofChars (before + c.utf8Size) rest

def isBlank : Column → Bool
  | glyph c => c = ' ' || c = '\t'
  | fill _ => true

def allBlank (cs : List Column) : Bool := cs.all isBlank

def chars (cs : List Column) : List Char :=
  cs.filterMap fun
    | glyph c => some c
    | fill _ => none

/-- The characters of columns as literal text. What is left of a tab that has been divided is written as the
spaces from the place of the division up to a full tab. -/
def literal : List Column → List Char
  | fill k :: rest => List.replicate (tabStop - k) ' ' ++ chars rest
  | cs => chars cs

def dropBlanks : Nat → List Column → List Column
  | n + 1, c :: rest => if isBlank c then dropBlanks n rest else c :: rest
  | _, cs => cs

def dropAllBlanks (cs : List Column) : List Column := cs.dropWhile isBlank

def stripBlanks? : Nat → List Column → Option (List Column)
  | 0, cs => some cs
  | n + 1, c :: rest => if isBlank c then stripBlanks? n rest else none
  | _ + 1, [] => none

/-- What a leaf may be indented by: fewer columns than make indented code. -/
def dropIndent (cs : List Column) : List Column := dropBlanks (tabStop - 1) cs

/-- The characters of a leaf, when it is not indented by more than it may be. -/
def leafText? (cs : List Column) : Option (List Char) :=
  match dropIndent cs with
  | [] => some []
  | c :: rest => if isBlank c then none else some (chars (c :: rest))

def stripCode? (cs : List Column) : Option (List Column) := stripBlanks? tabStop cs

/-- How wide the columns before the rest count. A tab that is not divided counts as one column; one that
begins before them counts from the place of its division up to a full tab. -/
def width (cs rest : List Column) : Nat :=
  let taken := cs.take (cs.length - rest.length)
  let before := match taken with
    | fill k :: _ => tabStop - k
    | _ => 0
  let after := match rest with
    | fill k :: _ => k - 1
    | _ => 0
  before + (chars taken).length + after

end Column

end LineLimit.Markdown

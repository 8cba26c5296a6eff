import LineLimit.Markdown.Column
import LineLimit.Markdown.Gap
/-!
How leaves of a document are written on their lines: breaks between themes, headings, the lines under headings,
and the fences around code.
-/

namespace LineLimit.Markdown

/-- Whether a text is a break between themes: three or more marks of one kind, and blanks. -/
def isThematicBreak (s : List Char) : Bool :=
  match s with
  | [] => false
  | mark :: _ =>
    ['*', '-', '_'].contains mark && s.all (fun c => c = mark || Gap.isBlank c) &&
      decide (3 ≤ s.count mark)

/-- Whether a text is the line under a heading: marks of one kind, and blanks after them. -/
def isUnderline (s : List Char) : Bool :=
  match s with
  | [] => false
  | mark :: _ => (mark = '=' || mark = '-') && (s.dropWhile (· = mark)).all Gap.isBlank

namespace Heading

def maxLevel : Nat := 6

/-- The text without words of number signs alone at its end. `fuel` bounds the number of such words. -/
def trimSigns : Nat → List Char → List Char
  | 0, s => s
  | fuel + 1, s =>
    let s := Gap.trimEnd s
    let before := (s.reverse.dropWhile (· = '#')).reverse
    if before.length < s.length && before.getLast?.all Gap.isBlank then trimSigns fuel before else s

/-- The text of a heading that starts with number signs. Further number signs before the text, and words
of them after it, do not belong to it. -/
def read? (s : List Char) : Option (List Char) :=
  let signs := s.takeWhile (· = '#')
  let rest := s.drop signs.length
  if 0 < signs.length && signs.length ≤ maxLevel && rest.head?.all Gap.isBlank then
    let text := rest.dropWhile fun c => c = '#' || Gap.isBlank c
    some (trimSigns text.length text)
  else none

end Heading

/-- The fence that opens a block of code: its mark, how many there are, and how far it is indented. -/
structure Fence where
  mark : Char
  size : Nat
  indent : Nat
  deriving DecidableEq, Repr

namespace Fence

def minSize : Nat := 3

/-- The fence on a line. What follows backquotes on their line may not hold another one. -/
def read? (cs : List Column) : Option Fence := do
  let s ← Column.leafText? cs
  let mark ← s.head?
  let size := (s.takeWhile (· = mark)).length
  if (mark = '\u0060' || mark = '~') && minSize ≤ size &&
      !(mark = '\u0060' && (s.drop size).contains mark) then
    some ⟨mark, size, (Column.chars (cs.takeWhile Column.isBlank)).length⟩
  else none

/-- Whether a line closes what the fence opened: at least as many of the same marks, and blanks. -/
def isClosedBy (f : Fence) (cs : List Column) : Bool :=
  match Column.leafText? cs with
  | none => false
  | some s =>
    let size := (s.takeWhile (· = f.mark)).length
    decide (f.size ≤ size) && (s.drop size).all Gap.isBlank

def lineText (f : Fence) (cs : List Column) : List Char :=
  Column.literal (Column.dropBlanks f.indent cs)

end Fence

end LineLimit.Markdown

/-!
Lines of a text. A line ends at a line feed, at a carriage return, or at the two together.
Characters after the last ending make a line of their own; an ending at the very end starts none.
Writing the lines of a text one after the other gives the text back (`Line.write_split`).
-/

namespace LineLimit

inductive Ending
  | lf
  | crlf
  | cr
  deriving DecidableEq, Repr

def Ending.chars : Ending → List Char
  | .lf => ['\n']
  | .crlf => ['\r', '\n']
  | .cr => ['\r']

/-- A line of a text. Only the last line of a text can lack an ending. -/
structure Line where
  text : List Char
  ending : Option Ending
  deriving DecidableEq, Repr

namespace Line

def endingChars (l : Line) : List Char :=
  match l.ending with
  | some e => e.chars
  | none => []

def chars (l : Line) : List Char := l.text ++ l.endingChars

/-- The lines of a text, given one more character in front of it. A carriage return joins a line feed
that directly follows, and a character that ends nothing belongs to the first line. -/
def push (c : Char) (lines : List Line) : List Line :=
  if c = '\n' then ⟨[], some .lf⟩ :: lines
  else if c = '\r' then
    match lines with
    | ⟨[], some .lf⟩ :: rest => ⟨[], some .crlf⟩ :: rest
    | _ => ⟨[], some .cr⟩ :: lines
  else
    match lines with
    | [] => [⟨[c], none⟩]
    | l :: rest => ⟨c :: l.text, l.ending⟩ :: rest

def split (s : List Char) : List Line := s.foldr push []

@[simp] theorem split_cons (c : Char) (s : List Char) : split (c :: s) = push c (split s) := rfl

def write (lines : List Line) : List Char := lines.flatMap chars

theorem write_push (c : Char) (lines : List Line) : write (push c lines) = c :: write lines := by
  unfold push
  split
  · subst c; rfl
  · split
    · subst c
      split <;> rfl
    · split <;> rfl

/-- No character of a text is lost or moved by splitting it into lines. -/
theorem write_split (s : List Char) : write (split s) = s := by
  induction s with
  | nil => rfl
  | cons c s ih => rw [split_cons, write_push, ih]

end Line

end LineLimit

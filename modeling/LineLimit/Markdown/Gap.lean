/-!
What may stand between the parts of Markdown text: blanks, which are spaces and tabs, and line feeds. The
text of a paragraph has no blank lines, so a gap in it holds at most one line feed.
-/

namespace LineLimit.Markdown.Gap

def isBlank (c : Char) : Bool := c = ' ' || c = '\t'

def isGap (c : Char) : Bool := isBlank c || c = '\n'

def dropBlanks (s : List Char) : List Char := s.dropWhile isBlank

def drop (s : List Char) : List Char := s.dropWhile isGap

def trimEnd (s : List Char) : List Char := (s.reverse.dropWhile isBlank).reverse

/-- The text after the end of its line, when nothing but blanks comes before that. -/
def endLine? (s : List Char) : Option (List Char) :=
  match dropBlanks s with
  | [] => some []
  | '\n' :: rest => some rest
  | _ => none

/-- Whether a character is a control character of ASCII other than the null character. -/
def isControl (c : Char) : Bool := (0 < c.toNat && c.toNat < 32) || c.toNat = 127

end LineLimit.Markdown.Gap

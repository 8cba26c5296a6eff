/-!
Whether a line ends in a link, written `[text](url)` or `<url>`. What the brackets hold may not contain a
line feed; carriage returns and all other characters may stand there. Of several openers any will do,
so a link may start at the first opener after the last line feed and reach to the end.
-/

namespace LineLimit.LinkTail

/-- Marks that may follow a link at the end of a line. -/
def punctuation : List Char := [',', '.', '?', ';', ':', '!']

def trimMarks (s : List Char) : List Char :=
  (s.reverse.dropWhile (punctuation.contains ·)).reverse

def lastLine (s : List Char) : List Char := (s.reverse.takeWhile (· ≠ '\n')).reverse

/-- Whether a closing square bracket stands directly before an opening parenthesis. -/
def hasJoint : List Char → Bool
  | ']' :: '(' :: _ => true
  | _ :: rest => hasJoint rest
  | [] => false

/-- Whether the text ends in a link, with nothing after it. -/
def endsExactly (s : List Char) : Bool :=
  let line := lastLine s
  match line.getLast? with
  | some ')' => hasJoint ((line.dropWhile (· ≠ '[')).drop 1)
  | some '>' => line.contains '<'
  | _ => false

/-- Whether the text ends in a link, after which marks may stand if `marks` allows them. -/
def ends (s : List Char) (marks : Bool) : Bool :=
  endsExactly (if marks then trimMarks s else s)

end LineLimit.LinkTail

import LineLimit.Element
import LineLimit.Markdown.BareLink
import LineLimit.Markdown.Gap
/-!
Pieces of text: characters and line feeds, marks that may become emphasis, and elements that have been read.
When all elements are known, blanks at line feeds go, mail addresses become links, and characters in a row become
one element.
-/

namespace LineLimit.Markdown

inductive Piece.Body
  | char (c : Char)
  /-- A character that a backslash has made literal. -/
  | literal (c : Char)
  | lineFeed
  /-- The end of a line that has to stay. -/
  | lineBreak
  /-- Marks in a row. They may open emphasis, close it, or both. -/
  | marks (mark : Char) (size : Nat) (opens closes : Bool)
  | element (e : Element)

structure Piece where
  line : Nat
  body : Piece.Body

namespace Piece

def chars (line : Nat) (s : List Char) : List Piece := s.map fun c => ⟨line, .char c⟩

/-- The character of a piece that is neither literal nor anything else. -/
def char? (p : Piece) : Option Char :=
  match p.body with
  | .char c => some c
  | _ => none

def isBlank (p : Piece) : Bool := p.char?.any Gap.isBlank

def isLineFeed (p : Piece) : Bool :=
  match p.body with
  | .lineFeed => true
  | _ => false

/-- The least number of spaces at the end of a line that make the end stay. -/
def minSpaces : Nat := 2

/-- What stands for blanks before a line feed: nothing, or the sign that the line's end stays. -/
def endOfLine (blanks : List Piece) : List Piece :=
  match blanks with
  | [] => []
  | p :: _ =>
    if decide (minSpaces ≤ blanks.length) && blanks.all fun q => q.char? == some ' ' then
      [⟨p.line, .lineBreak⟩]
    else []

/-- Drops the blanks around line feeds, and those at the end if `atEnd` says so. `blanks` holds those
that have just been passed, the last one first; `dropping` is true directly after a line feed. -/
def dropBlanks (atEnd : Bool) (blanks : List Piece) (dropping : Bool) : List Piece → List Piece
  | [] => if atEnd then [] else blanks.reverse
  | p :: rest =>
    if isBlank p then
      if dropping then dropBlanks atEnd [] true rest else dropBlanks atEnd (p :: blanks) false rest
    else if isLineFeed p then endOfLine blanks ++ p :: dropBlanks atEnd [] true rest
    else blanks.reverse ++ p :: dropBlanks atEnd [] false rest

def textElement (line : Nat) : Element := .startingOn line .inline

/-- A link whose text is the address itself. -/
def addressElement (line : Nat) : Element :=
  .startingOn line .link none [textElement line]

/-- Turns the mail addresses among characters in a row into links. `passed` holds the characters before, the
last one first, and `skip` is true directly after an address. -/
def linkMails (line : Nat) (passed : List Char) (skip : Bool) (s : List Char) : List Piece :=
  match s with
  | [] => chars line passed.reverse
  | c :: rest =>
    match if c = '@' && !skip then BareLink.mail? passed rest else none with
    | some m =>
      chars line (passed.drop m.before).reverse ++
        ⟨line, .element (addressElement line)⟩ :: linkMails line [] true (rest.drop m.after)
    | none => linkMails line (c :: passed) false rest
  termination_by s.length
  decreasing_by
    · simp only [List.length_drop, List.length_cons]; omega
    · simp

/-- Turns mail addresses into links, in each run of characters. `run` holds the run that has just been
passed, the last character first. -/
def linkAllMails (run : List Piece) : List Piece → List Piece
  | [] => finish run
  | p :: rest =>
    match p.body with
    | .char _ => linkAllMails (p :: run) rest
    | _ => finish run ++ p :: linkAllMails [] rest
where
  finish (run : List Piece) : List Piece :=
    match run.getLast? with
    | none => []
    | some first =>
      let s := (run.filterMap char?).reverse
      if s.contains '@' then linkMails first.line [] false s else run.reverse

/-- The elements of pieces without marks. Text in a row is one element; `inText` is true directly after text,
and a line feed after a line end that stays belongs to that. -/
def toElements (inText : Bool) : List Piece → List Element
  | [] => []
  | ⟨_, .element e⟩ :: rest => e :: toElements false rest
  | ⟨line, .lineBreak⟩ :: ⟨_, .lineFeed⟩ :: rest => textElement line :: toElements false rest
  | ⟨line, .lineBreak⟩ :: rest => textElement line :: toElements false rest
  | ⟨line, _⟩ :: rest =>
    if inText then toElements true rest else textElement line :: toElements true rest

/-- The elements of pieces in which emphasis has been found. `inLink` leaves mail addresses alone. -/
def finish (inLink atStart atEnd : Bool) (ps : List Piece) : List Element :=
  let ps := dropBlanks atEnd [] atStart ps
  toElements false (if inLink then ps else linkAllMails [] ps)

end Piece

end LineLimit.Markdown

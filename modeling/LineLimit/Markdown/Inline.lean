import LineLimit.Markdown.Autolink
import LineLimit.Markdown.Emphasis
import LineLimit.Markdown.Html
import LineLimit.Markdown.Label
import LineLimit.Markdown.Target
/-!
Reading the text of a paragraph, a heading or a cell. Lines in it are separated by line feeds. Brackets wait for
their partners: those that turn out to hold a link, an image or a reference to a footnote become an element,
and all others are text.
-/

namespace LineLimit.Markdown

/-- The keys of the links and footnotes that a document defines. -/
structure References where
  links : List (List Char)
  notes : List (List Char)

namespace Inline

inductive Bracket.Kind
  | link
  | image
  | note
  deriving DecidableEq, Repr

/-- An opening bracket that waits for its partner: the text after it, and the pieces before it, the last one
first. A bracket around a link is no longer active, as links hold no links. -/
structure Bracket where
  kind : Bracket.Kind
  line : Nat
  active : Bool
  text : List Char
  before : List Piece

def Bracket.Kind.opening : Bracket.Kind → List Char
  | link => ['[']
  | image => ['!', '[']
  | note => ['[', '^']

/-- The pieces up to and with a bracket that is only text, the last one first. -/
def Bracket.flatten (b : Bracket) : List Piece :=
  (Piece.chars b.line b.kind.opening).reverse ++ b.before

/-- How far a text has been read: the line, the last character, the pieces since the last opening bracket, the
last one first, and the opening brackets, the last one first. -/
structure Reader where
  line : Nat
  previous : Option Char := none
  here : List Piece := []
  brackets : List Bracket := []

namespace Reader

def push (r : Reader) (body : Piece.Body) : Reader := { r with here := ⟨r.line, body⟩ :: r.here }

def skip (r : Reader) (s : List Char) : Reader :=
  { r with
    line := r.line + s.count '\n'
    previous := s.getLast? <|> r.previous }

def pushChars (r : Reader) (s : List Char) : Reader :=
  (s.foldl (fun r c => r.push (.char c)) r).skip s

def upTo (s rest : List Char) : List Char := s.take (s.length - rest.length)

def pushElement (r : Reader) (s rest : List Char) (e : Element) : Reader :=
  (r.push (.element e)).skip (upTo s rest)

def openBracket (r : Reader) (kind : Bracket.Kind) (text : List Char) : Reader :=
  let b : Bracket := ⟨kind, r.line, true, text, r.here⟩
  { r with here := [], brackets := b :: r.brackets }.skip kind.opening

/-- All pieces, the last one first; brackets without a partner are text. -/
def flatten (r : Reader) : List Piece := r.brackets.foldl (fun ps b => ps ++ b.flatten) r.here

/-- Takes the last opening bracket and its partner as text. -/
def dropBracket (r : Reader) (b : Bracket) (below : List Bracket) : Reader :=
  { r with here := r.here ++ b.flatten, brackets := below }.pushChars [']']

/-- Makes an element of the last opening bracket and all since. Around a link or a footnote, no further link
can be made. -/
def closeBracket (r : Reader) (b : Bracket) (below : List Bracket) (s rest : List Char) (e : Element) :
    Reader :=
  let below :=
    if b.kind = .image then below
    else below.map fun x => if x.kind = .image then x else { x with active := false }
  { r with here := ⟨b.line, .element e⟩ :: b.before, brackets := below }.skip (upTo s rest)

end Reader

/-- The text after the marks that close code, which are as many as those that opened it. `run` marks have just
been passed. -/
def codeEnd (size run : Nat) : List Char → Option (List Char)
  | [] => if run = size then some [] else none
  | c :: rest =>
    if c = '\u0060' then codeEnd size (run + 1) rest
    else if run = size then some (c :: rest)
    else codeEnd size 0 rest

/-- The text after what makes a link of brackets: a target in parentheses, another label in brackets, empty
brackets, or nothing. All but the first need a definition; `defined` tells whether there is one for what the
brackets hold. -/
def linkEnd (refs : References) (defined : Bool) : List Char → Option (List Char)
  | '(' :: rest => Target.inParentheses rest <|> (if defined then some ('(' :: rest) else none)
  | '[' :: rest =>
    match Label.read rest, rest with
    | some (label, after), _ => if refs.links.contains (Label.key label) then some after else none
    | none, ']' :: after => if defined then some after else none
    | none, _ => none
  | rest => if defined then some rest else none

/-- The pieces inside brackets that hold a link, as elements. -/
def linkChildren (r : Reader) (b : Bracket) : List Element :=
  let caret := if b.kind = .note then Piece.chars b.line ['^'] else []
  Piece.finish true false false (Emphasis.resolve true (caret ++ r.here.reverse))

/-- Goes over a closing bracket, after which the rest comes. -/
def stepClosing (refs : References) (r : Reader) (rest : List Char) : Reader × List Char :=
  match r.brackets with
  | [] => (r.pushChars [']'], rest)
  | b :: below =>
    let text := (r.dropBracket b below, rest)
    if !b.active then text
    else
      let s := ']' :: rest
      let key := Label.key (Reader.upTo b.text s)
      if b.kind = .note && refs.notes.contains key then
        (r.closeBracket b below s rest (Piece.textElement b.line), rest)
      else
        match linkEnd refs (refs.links.contains (if b.kind = .note then '^' :: key else key)) rest with
        | none => text
        | some after =>
          let e : Element :=
            if b.kind = .image then .startingOn b.line .image
            else .startingOn b.line .link none (linkChildren r b)
          (r.closeBracket b below s after e, after)

def stepBackslash (r : Reader) : List Char → Reader × List Char
  | '\n' :: rest => ((r.push .lineBreak).skip ['\\'], '\n' :: rest)
  | c :: rest =>
    if Unicode.isAsciiPunctuation c then ((r.push (.literal c)).skip [c], rest)
    else (r.pushChars ['\\'], c :: rest)
  | [] => (r.pushChars ['\\'], [])

def stepTicks (r : Reader) (s : List Char) : Reader × List Char :=
  let ticks := s.takeWhile (· = '\u0060')
  let rest := s.drop ticks.length
  match codeEnd ticks.length 0 rest with
  | some after => (r.pushElement s after (Piece.textElement r.line), after)
  | none => (r.pushChars ticks, rest)

def stepAngle (r : Reader) (rest : List Char) : Reader × List Char :=
  let s := '<' :: rest
  match Autolink.read rest, Html.inline rest with
  | some after, _ => (r.pushElement s after (Piece.addressElement r.line), after)
  | none, some after => (r.pushElement s after (.startingOn r.line .html), after)
  | none, none => (r.pushChars ['<'], rest)

def stepMarks (r : Reader) (mark : Char) (s : List Char) : Reader × List Char :=
  let run := s.takeWhile (· = mark)
  let rest := s.drop run.length
  let p := Emphasis.piece r.line mark run.length r.previous rest.head?
  ((r.push p.body).skip run, rest)

/-- Goes over one character or what starts with it. -/
def step (refs : References) (r : Reader) (c : Char) (rest : List Char) : Reader × List Char :=
  if c = '\n' then ((r.push .lineFeed).skip ['\n'], rest)
  else if c = '\\' then stepBackslash r rest
  else if c = '\u0060' then stepTicks r (c :: rest)
  else if c = '<' then stepAngle r rest
  else if c = ']' then stepClosing refs r rest
  else if Emphasis.marks.contains c then stepMarks r c (c :: rest)
  else
    match c, rest with
    | '!', '[' :: after =>
      if after.head? == some '^' then (r.pushChars ['!'], rest) else (r.openBracket .image after, after)
    | '[', '^' :: after => (r.openBracket .note after, after)
    | '[', after => (r.openBracket .link after, after)
    | c, rest =>
      match BareLink.web r.previous (c :: rest) with
      | some after => (r.pushElement (c :: rest) after (Piece.addressElement r.line), after)
      | none => (r.pushChars [c], rest)

/-- Goes over a text. Each step goes over one character at least, so that as many steps as there are characters
are enough. -/
def run (refs : References) : Nat → Reader → List Char → Reader
  | fuel + 1, r, c :: rest =>
    let (r, rest) := step refs r c rest
    run refs fuel r rest
  | _, r, _ => r

/-- The elements of a text that starts on a line. Blanks at its start belong to it if `keepsStart` says so. -/
def read (refs : References) (line : Nat) (keepsStart : Bool) (s : List Char) : List Element :=
  let r := run refs s.length { line } s
  Piece.finish false (!keepsStart) true (Emphasis.resolve false r.flatten.reverse)

end Inline

end LineLimit.Markdown

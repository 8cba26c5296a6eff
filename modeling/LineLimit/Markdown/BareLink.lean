import LineLimit.Text.Ascii
import LineLimit.Unicode.Blank
import LineLimit.Unicode.Punctuation
/-!
Addresses that stand in text as they are. A web address starts with `www.` or with a scheme; it reaches as far
as there is no blank, and punctuation at its end is left out. A mail address is found at its at sign.
-/

namespace LineLimit.Markdown.BareLink

/-- Whether a character may stand in a host: neither a blank nor punctuation. -/
def isPlain (c : Char) : Bool := !Unicode.isBlank c && !Unicode.isPunctuation c

/-- Marks that are left out at the end of an address. -/
def trailing : List Char := ['!', '"', '\'', ')', '*', ',', '.', ':', ';', '?', '_', '~']

def stops : List Char := ['&', '<', ']'] ++ trailing

inductive TrailPlace
  | marks
  | afterAmpersand
  | inReference
  | afterBracket
  deriving DecidableEq, Repr

/-- Whether nothing but punctuation comes before the end of an address. A reference to a character counts as
punctuation, and a bracket does where a target may follow it. -/
def isTrail (place : TrailPlace) : List Char → Bool
  | [] => place == .marks || place == .afterBracket
  | c :: rest =>
    match place with
    | .afterAmpersand => c.isAlpha && isTrail .inReference rest
    | .inReference => if c = ';' then isTrail .marks rest else c.isAlpha && isTrail .inReference rest
    | place =>
      if place == .afterBracket && ['\t', '\n', ' ', '(', '['].contains c then true
      else if c = '&' then isTrail .afterAmpersand rest
      else if c = ']' then isTrail .afterBracket rest
      else if trailing.contains c then isTrail .marks rest
      else c = '<' || Unicode.isBlank c

/-- The text after the path of an address, in which some parentheses have been opened and closed. -/
def path (opened closed : Nat) : List Char → List Char
  | [] => []
  | c :: rest =>
    if c = '(' then path (opened + 1) closed rest
    else if stops.contains c then
      if isTrail .marks (c :: rest) && !(c = ')' && decide (closed < opened)) then c :: rest
      else path opened (if c = ')' then closed + 1 else closed) rest
    else if Unicode.isBlank c then c :: rest
    else path opened closed rest

/-- What has been read of a host: whether it holds a letter, and whether an underscore stands in its last part
and in the part before that. -/
structure Host where
  plain : Bool := false
  last : Bool := false
  previous : Bool := false

/-- The text after an address, from its host on. The last two parts of a host hold no underscores. -/
def address (h : Host) : List Char → Option (List Char)
  | [] => if h.plain && !h.last && !h.previous then some [] else none
  | c :: rest =>
    let finish := if h.plain && !h.last && !h.previous then some (path 0 0 (c :: rest)) else none
    if c = '.' || c = '_' then
      if isTrail .marks (c :: rest) then finish
      else if c = '_' then address { h with last := true } rest
      else address { h with last := false, previous := h.last } rest
    else if c = '-' then address h rest
    else if isPlain c then address { h with plain := true } rest
    else finish

/-- Whether a text begins with some letters, in any case. -/
def startsWith (letters : List Char) (s : List Char) : Bool :=
  letters.isPrefixOf ((s.take letters.length).map Char.toLower)

/-- The text after an address without a scheme, with the character before it. -/
def hostAddress (previous : Option Char) (s : List Char) : Option (List Char) :=
  if previous.all (['\t', '\n', ' ', '(', '*', '_', '[', ']', '~'].contains ·) &&
      startsWith ['w', 'w', 'w', '.'] s && decide (4 < s.length) then
    address {} s
  else none

def schemeAddress (previous : Option Char) (s : List Char) : Option (List Char) :=
  let start := if startsWith "https://".toList s then 8
    else if startsWith "http://".toList s then 7
    else 0
  let rest := s.drop start
  if 0 < start && !previous.any Char.isAlpha && rest.head?.any isPlain then address {} rest else none

def web (previous : Option Char) (s : List Char) : Option (List Char) :=
  if s.head?.any fun c => c = 'h' || c = 'H' || c = 'w' || c = 'W' then
    schemeAddress previous s <|> hostAddress previous s
  else none

def isMailChar (c : Char) : Bool := c.isAlphanum || c = '+' || c = '-' || c = '.' || c = '_'

/-- A mail address that has been found: how many characters before its at sign and after it belong to it. -/
structure Mail where
  before : Nat
  after : Nat
  deriving DecidableEq, Repr

/-- The schemes that may come before a mail address. The second one allows slashes in the domain. -/
def mailScheme : String := "mailto"

def chatScheme : String := "xmpp"

/-- The scheme at the end of a text, of which the last character comes first, or nothing. -/
def schemeBefore (backwards : List Char) : String :=
  match backwards with
  | ':' :: rest =>
    let word := Ascii.lower (String.ofList (rest.takeWhile Char.isAlphanum).reverse)
    if word = mailScheme || word = chatScheme then word else ""
  | _ => ""

/-- The length of the domain at the start of a text. `slash` allows slashes in it. -/
def domainLength (slash : Bool) : List Char → Nat
  | [] => 0
  | c :: rest =>
    if c.isAlphanum || c = '-' || c = '_' || (slash && c = '/') ||
        (c = '.' && rest.head?.any Char.isAlphanum) then
      domainLength slash rest + 1
    else 0

/-- The mail address around an at sign, with the characters before it, the nearest first, and those after. -/
def mail? (backwards after : List Char) : Option Mail :=
  let name := backwards.takeWhile isMailChar
  let rest := backwards.drop name.length
  if name.isEmpty || rest.head? == some '/' then none
  else
    let scheme := schemeBefore rest
    let domain := after.take (domainLength (scheme = chatScheme) after)
    if domain.contains '.' && domain.getLast?.any Char.isAlpha then
      some ⟨name.length + (if scheme.isEmpty then 0 else scheme.length + 1), domain.length⟩
    else none

end LineLimit.Markdown.BareLink

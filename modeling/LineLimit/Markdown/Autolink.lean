import LineLimit.Unicode.Punctuation
/-!
Addresses between angle brackets: a scheme, a colon and the rest of the address, or a mail address.
-/

namespace LineLimit.Markdown.Autolink

/-- The longest scheme and the longest part of a mail domain. -/
def maxScheme : Nat := 32

def maxPart : Nat := 63

def isSchemeChar (c : Char) : Bool := c.isAlphanum || c = '+' || c = '-' || c = '.'

def isMailChar (c : Char) : Bool :=
  c.isAlphanum || "!#$%&*+-./=?^_{|}~".toList.contains c || c = '\'' || c = '\u0060'

/-- The text after the rest of an address and its closing bracket. -/
def addressEnd : List Char → Option (List Char)
  | [] => none
  | c :: rest =>
    if c = '>' then some rest
    else if c.toNat ≤ 32 || c = '<' || c.toNat = 127 then none
    else addressEnd rest

def address (s : List Char) : Option (List Char) :=
  let scheme := s.takeWhile isSchemeChar
  match s.drop scheme.length with
  | ':' :: rest =>
    if scheme.head?.any Char.isAlpha && decide (2 ≤ scheme.length ∧ scheme.length ≤ maxScheme) then
      addressEnd rest
    else none
  | _ => none

/-- The text after a domain and the closing bracket. `size` characters of a part have been read; the part
must not end in a hyphen. -/
def domainEnd (size : Nat) (hyphen : Bool) : List Char → Option (List Char)
  | [] => none
  | c :: rest =>
    if c.isAlphanum || (c = '-' && 0 < size) then
      if size < maxPart then domainEnd (size + 1) (c = '-') rest else none
    else if size = 0 || hyphen then none
    else if c = '.' then domainEnd 0 false rest
    else if c = '>' then some rest
    else none

def mail (s : List Char) : Option (List Char) :=
  let name := s.takeWhile isMailChar
  match s.drop name.length with
  | '@' :: rest => if name.isEmpty then none else domainEnd 0 false rest
  | _ => none

/-- The text after an address whose opening bracket has been read. -/
def read (s : List Char) : Option (List Char) := address s <|> mail s

end LineLimit.Markdown.Autolink

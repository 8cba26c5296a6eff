import LineLimit.Markdown.Gap
import LineLimit.Text.Ascii
/-!
HTML in Markdown. Within text it is a comment, an instruction, a declaration, a section of characters or a tag.
As a block it starts on a line of its own, in one of seven ways that tell where it ends.
-/

namespace LineLimit.Markdown.Html

def after (part : List Char) : List Char → Option (List Char)
  | [] => if part.isEmpty then some [] else none
  | c :: rest =>
    if part.isPrefixOf (c :: rest) then some ((c :: rest).drop part.length) else after part rest

def strip? (part s : List Char) : Option (List Char) := part.isPrefixOf? s

/-- Whether a character may stand in the name of an element after its first letter. -/
def isNameChar (c : Char) : Bool := c.isAlphanum || c = '-'

inductive TagPlace
  /-- After a blank or a value: another attribute or the end of the tag may follow. -/
  | between
  | inName
  | afterName
  | beforeValue
  | inQuotes (mark : Char)
  | afterQuotes
  | inBare
  | beforeEnd
  deriving DecidableEq, Repr

inductive TagStep
  | go (place : TagPlace)
  | finish
  | fail
  deriving DecidableEq, Repr

namespace TagPlace

def isAttributeStart (c : Char) : Bool := c.isAlpha || c = '_' || c = ':'

def isAttributeChar (c : Char) : Bool := c.isAlphanum || c = '_' || c = ':' || c = '.' || c = '-'

def stepBetween (c : Char) : TagStep :=
  if Gap.isGap c then .go between
  else if c = '/' then .go beforeEnd
  else if c = '>' then .finish
  else if isAttributeStart c then .go inName
  else .fail

def stepAfterName (c : Char) : TagStep :=
  if Gap.isGap c then .go afterName else if c = '=' then .go beforeValue else stepBetween c

/-- The step in a value without quotes. In a block such a value ends as a name does, so that another equals
sign may follow it. -/
def stepBare (block : Bool) (c : Char) : TagStep :=
  if Gap.isGap c || c = '/' || c = '>' then if block then stepAfterName c else stepBetween c
  else if c = '"' || c = '\'' || c = '<' || c = '=' || c = '\u0060' then
    if block then stepAfterName c else .fail
  else .go inBare

/-- The step that a character leads to, in a block or within text. -/
def step (block : Bool) (c : Char) : TagPlace → TagStep
  | between => stepBetween c
  | inName => if isAttributeChar c then .go inName else stepAfterName c
  | afterName => stepAfterName c
  | beforeValue =>
    if Gap.isGap c then .go beforeValue
    else if c = '"' || c = '\'' then .go (inQuotes c)
    else if c = '<' || c = '=' || c = '>' || c = '\u0060' then .fail
    else .go inBare
  | inQuotes mark => if c = mark then .go afterQuotes else .go (inQuotes mark)
  | afterQuotes => if Gap.isGap c || c = '/' || c = '>' then stepBetween c else .fail
  | inBare => stepBare block c
  | beforeEnd => if c = '>' then .finish else .fail

end TagPlace

/-- The text after a tag, from a place inside it on. -/
def tagEnd (block : Bool) (place : TagPlace) : List Char → Option (List Char)
  | [] => none
  | c :: rest =>
    match place.step block c with
    | .go place => tagEnd block place rest
    | .finish => some rest
    | .fail => none

/-- The text after an opening or closing tag whose angle bracket has been read. -/
def tag (block : Bool) : List Char → Option (List Char)
  | '/' :: c :: rest =>
    if c.isAlpha then
      match Gap.drop (rest.dropWhile isNameChar) with
      | '>' :: rest => some rest
      | _ => none
    else none
  | c :: rest =>
    if c.isAlpha then
      match rest.dropWhile isNameChar with
      | d :: more =>
        if Gap.isGap d || d = '/' || d = '>' then tagEnd block .between (d :: more) else none
      | [] => none
    else none
  | [] => none

def comment : List Char := ['!', '-', '-']

def characterData : List Char := "![CDATA[".toList

/-- The text after HTML within text, whose angle bracket has been read. The hyphens that open a comment may be
among those that close it. -/
def inline (s : List Char) : Option (List Char) :=
  match strip? comment s, strip? characterData s, s with
  | some rest, _, _ => after ['-', '-', '>'] ('-' :: '-' :: rest)
  | none, some rest, _ => after [']', ']', '>'] rest
  | none, none, '!' :: c :: rest => if c.isAlpha then after ['>'] rest else none
  | none, none, '?' :: rest => after ['?', '>'] rest
  | none, none, s => tag false s

inductive Start
  /-- A tag of an element whose text is not Markdown. -/
  | raw
  | comment
  | instruction
  | declaration
  | characters
  /-- A tag of an element that makes a block. -/
  | block
  /-- Any other tag, alone on its line. -/
  | alone
  deriving DecidableEq, Repr

namespace Start

def rawNames : List String := ["pre", "script", "style", "textarea"]

def blockNames : List String :=
  ["address", "article", "aside", "base", "basefont", "blockquote", "body", "caption", "center", "col",
    "colgroup", "dd", "details", "dialog", "dir", "div", "dl", "dt", "fieldset", "figcaption", "figure",
    "footer", "form", "frame", "frameset", "h1", "h2", "h3", "h4", "h5", "h6", "head", "header", "hr",
    "html", "iframe", "legend", "li", "link", "main", "menu", "menuitem", "nav", "noframes", "ol",
    "optgroup", "option", "p", "param", "search", "section", "summary", "table", "tbody", "td", "tfoot",
    "th", "thead", "title", "tr", "track", "ul"]

/-- Whether the block ends before a blank line. Other blocks end with the line that closes them. -/
def endsAtBlank : Start → Bool
  | block | alone => true
  | _ => false

/-- How a tag starts a block, when its angle bracket has been read. Only a tag of a known element can
interrupt a paragraph. -/
def ofTag (interrupting : Bool) (s : List Char) : Option Start :=
  let isClosing := s.head? == some '/'
  let body := if isClosing then s.drop 1 else s
  let name := body.takeWhile isNameChar
  let rest := body.drop name.length
  let next := rest.head?
  if !name.head?.any Char.isAlpha || !next.all (fun c => Gap.isGap c || c = '/' || c = '>') then none
  else
    let known := Ascii.lower (String.ofList name)
    if !isClosing && next != some '/' && rawNames.contains known then some raw
    else if blockNames.contains known then
      if next != some '/' || (rest.drop 1).head? == some '>' then some block else none
    else if interrupting then none
    else if ((tag true s).map fun rest => rest.all Gap.isBlank).getD false then some alone
    else none

/-- How a line starts a block, and the text in which the block's end is looked for. -/
def ofLine (interrupting : Bool) : List Char → Option (Start × List Char)
  | '<' :: s =>
    match strip? Html.comment s, strip? characterData s, s with
    | some rest, _, _ => some (comment, '-' :: '-' :: rest)
    | none, some rest, _ => some (characters, rest)
    | none, none, '!' :: c :: rest => if c.isAlpha then some (declaration, rest) else none
    | none, none, '?' :: rest => some (instruction, '?' :: rest)
    | none, none, s => (ofTag interrupting s).map (·, s)
  | _ => none

/-- Whether a closing tag of an element whose text is not Markdown stands in a text. -/
def closesRaw : List Char → Bool
  | [] => false
  | '<' :: '/' :: rest =>
    let name := rest.takeWhile Char.isAlpha
    ((rest.drop name.length).head? == some '>' &&
      rawNames.contains (Ascii.lower (String.ofList name))) || closesRaw rest
  | _ :: rest => closesRaw rest

/-- Whether two brackets and an angle bracket stand in a text. Brackets are taken in pairs. -/
def closesCharacters : List Char → Bool
  | [] => false
  | ']' :: ']' :: '>' :: _ => true
  | ']' :: ']' :: rest => closesCharacters rest
  | _ :: rest => closesCharacters rest

/-- Whether a block ends with a line of that text. -/
def closes (s : List Char) : Start → Bool
  | raw => closesRaw s
  | comment => (after ['-', '-', '>'] s).isSome
  | instruction => (after ['?', '>'] s).isSome
  | declaration => s.contains '>'
  | characters => closesCharacters s
  | block | alone => false

end Start

end LineLimit.Markdown.Html

import LineLimit.Markdown.Inline
import LineLimit.Markdown.Layout
import LineLimit.Reader
/-!
The outline of a Markdown document: its blocks as elements, with the elements of their text. Items of one kind
that follow each other make a list.
-/

namespace LineLimit.Markdown

def extensions : List String := ["md", "markdown", "mdown", "mkdn", "mkd"]

namespace Outline

mutual

/-- The labels of the definitions in a block, and those of its footnotes. -/
def labels : Block → List (List Char) × List (List Char)
  | .definition _ label => ([label], [])
  | .container _ c blocks =>
    let (links, notes) := labelsOf blocks
    match c with
    | .note label => (links, label :: notes)
    | _ => (links, notes)
  | _ => ([], [])

def labelsOf : List Block → List (List Char) × List (List Char)
  | [] => ([], [])
  | b :: rest =>
    let (links, notes) := labels b
    let (moreLinks, moreNotes) := labelsOf rest
    (links ++ moreLinks, notes ++ moreNotes)

end

def references (blocks : List Block) : References :=
  let (links, notes) := labelsOf blocks
  ⟨links.map Label.key, notes.map Label.key⟩

def element (kind : Kind) (line : Nat) (children : List Element) : Element :=
  .startingOn line kind none children

/-- The text of a paragraph behind a check box, and where it starts. -/
structure Checked where
  line : Nat
  textLine : Nat
  keepsStart : Bool
  text : List Char

/-- Reads the check box at the start of a text. A blank or a line end follows the box, and then something
else. -/
def checked? (line : Nat) : List Char → Option Checked
  | '[' :: c :: ']' :: rest =>
    if Gap.isGap c || c = 'x' || c = 'X' then
      let start := if c = '\n' then line + 1 else line
      let blanks := rest.takeWhile Gap.isBlank
      match rest.drop blanks.length, blanks with
      | [], _ => none
      | '\n' :: after, blanks =>
        if Piece.minSpaces ≤ blanks.length && blanks.all (· = ' ') then some ⟨line, start, true, rest⟩
        else some ⟨start + 1, start + 1, false, after⟩
      | _, _ :: _ => some ⟨start, start, true, rest.drop 1⟩
      | _, [] => none
    else none
  | _ => none

/-- A paragraph. A check box is not part of it; only the first paragraph of an item can have one. -/
def paragraph (refs : References) (mayBeChecked : Bool) (line : Nat) (text : List Char) : Element :=
  match if mayBeChecked then checked? line text else none with
  | some t => element .paragraph t.line (Inline.read refs t.textLine t.keepsStart t.text)
  | none => element .paragraph line (Inline.read refs line false text)

def row (refs : References) (line : Nat) (cells : List (List Char)) : Element :=
  element .other line (cells.map fun cell => element .other line (Inline.read refs line false cell))

def leaf (refs : References) (mayBeChecked : Bool) : Block → Element
  | .thematicBreak line => element .thematicBreak line []
  | .heading line text => element .heading line (Inline.read refs line false text)
  | .paragraph line text => paragraph refs mayBeChecked line text
  | .code line text => .startingOn line .codeBlock (String.ofList text)
  | .html line => element .html line []
  | .definition line _ => element .definition line []
  | .table line rows => element .table line (rows.map fun (line, cells) => row refs line cells)
  | .container line _ _ => element .other line []

/-- Whether a paragraph after the block may still be the first one of its item. -/
def isPassedOver : Block → Bool
  | .definition .. => true
  | _ => false

/-- Elements in order, lists with the marker of their items. -/
abbrev Marked := Option Char × Element

/-- Puts an item in front of elements: into the list that comes first, if it is of the same kind. -/
def addItem (marker : Char) (item : Element) : List Marked → List Marked
  | (some m, list) :: rest =>
    if m = marker then (some m, { list with location := item.location, children := item :: list.children }) :: rest
    else (some marker, { kind := .list, location := item.location, children := [item] }) :: (some m, list) :: rest
  | rest => (some marker, { kind := .list, location := item.location, children := [item] }) :: rest

/-- The elements of blocks, of which the first may be the first paragraph of an item. -/
def elements (refs : References) (mayBeChecked : Bool) : List Block → List Marked
  | [] => []
  | .container line c blocks :: rest =>
    let more := elements refs false rest
    match c with
    | .quote => (none, element .blockQuote line ((elements refs false blocks).map (·.2))) :: more
    | .note _ => (none, element .footnoteDefinition line ((elements refs false blocks).map (·.2))) :: more
    | .item marker _ _ =>
      addItem marker (element .listItem line ((elements refs true blocks).map (·.2))) more
  | b :: rest => (none, leaf refs mayBeChecked b) :: elements refs (mayBeChecked && isPassedOver b) rest

end Outline

def outline (source : String) : List Element :=
  let blocks := Layout.blocks source
  (Outline.elements (Outline.references blocks) false blocks).map (·.2)

/-- The reader of Markdown. Every text is a document in it. -/
def reader : Reader where
  name := "markdown"
  extensions := extensions
  read source := .ok (.new source (outline source))

end LineLimit.Markdown

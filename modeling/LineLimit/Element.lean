import LineLimit.Text.Line
/-!
The outline of a document: what stands where. An element has a kind, the line on which it starts
where that is known, the literal text of a code block, and the elements inside it.
-/

namespace LineLimit

/-- What an element is. `inline` is inline content that is neither a link nor an image. -/
inductive Kind
  | heading
  | paragraph
  | codeBlock
  | table
  | list
  | listItem
  | blockQuote
  | html
  | thematicBreak
  | definition
  | footnoteDefinition
  | link
  | image
  | inline
  | other
  deriving DecidableEq, Repr

namespace Kind

def all : List Kind :=
  [heading, paragraph, codeBlock, table, list, listItem, blockQuote, html, thematicBreak, definition,
    footnoteDefinition, link, image, inline, other]

def name : Kind → String
  | heading => "heading"
  | paragraph => "paragraph"
  | codeBlock => "code_block"
  | table => "table"
  | list => "list"
  | listItem => "list_item"
  | blockQuote => "block_quote"
  | html => "html"
  | thematicBreak => "thematic_break"
  | definition => "definition"
  | footnoteDefinition => "footnote_definition"
  | link => "link"
  | image => "image"
  | inline => "inline"
  | other => "other"

def ofName? (s : String) : Option Kind := all.find? (·.name == s)

theorem ofName?_name (k : Kind) : ofName? k.name = some k := by
  cases k <;> decide

end Kind

/-- An element of a document. `value` is the literal text of a code block. -/
structure Element where
  kind : Kind
  location : Option UInt32 := none
  value : Option String := none
  children : List Element := []
  deriving Repr

namespace Element

/-- The number of a line as a word, none for a number that is too large for one. -/
def lineWord? (line : Nat) : Option UInt32 := if line < UInt32.size then some (.ofNat line) else none

def startingOn (line : Nat) (kind : Kind) (value : Option String := none) (children : List Element := []) :
    Element :=
  { kind, location := lineWord? line, value, children }

/-- The number of lines of the literal text, none without one. -/
def valueLines (e : Element) : UInt32 :=
  match e.value with
  | some v => UInt32.ofNat (Line.split v.toList).length
  | none => 0

/-- The trees that are still to be visited, counted by their elements. -/
def pending : List Element → Nat
  | [] => 0
  | ⟨_, _, _, children⟩ :: rest => 1 + pending children + pending rest

theorem pending_append (xs ys : List Element) : pending (xs ++ ys) = pending xs + pending ys := by
  induction xs with
  | nil => simp [pending]
  | cons x xs ih =>
    obtain ⟨k, l, v, children⟩ := x
    simp only [List.cons_append, pending, ih]
    omega

/-- All elements of the trees that are of the kind. The first tree is taken apart into its element and
its children, which are visited before the other trees. -/
def findIn (k : Kind) : List Element → List Element
  | [] => []
  | e :: rest =>
    let found := findIn k (e.children ++ rest)
    if e.kind = k then e :: found else found
  termination_by trees => pending trees
  decreasing_by
    obtain ⟨k, l, v, children⟩ := e
    simp only [pending, pending_append]
    omega

end Element

end LineLimit

import LineLimit.Markdown.Container
import LineLimit.Markdown.Definition
/-!
Blocks: what a document consists of before the text in it has been read. Every block knows the line on which it
starts, and text keeps line feeds between its lines.
-/

namespace LineLimit.Markdown

inductive Block
  | thematicBreak (line : Nat)
  | heading (line : Nat) (text : List Char)
  | paragraph (line : Nat) (text : List Char)
  | code (line : Nat) (text : List Char)
  | html (line : Nat)
  | definition (line : Nat) (label : List Char)
  /-- The rows of a table, with their lines and the texts of their cells. -/
  | table (line : Nat) (rows : List (Nat × List (List Char)))
  | container (line : Nat) (c : Container) (blocks : List Block)

/-- A line of what may become a paragraph: text, or the line under a heading if there is one before it. -/
inductive ProseLine
  /-- Text. `head` is the number of its cells, if it may be the first row of a table, and `bare` tells that
  no part of the line belongs to a container. -/
  | text (line : Nat) (text : List Char) (head : Option Nat) (bare : Bool)
  | underline (line : Nat)

namespace ProseLine

/-- Lines of text in a row: the first line's number, whether it is bare, and the text. -/
structure Run where
  line : Nat
  bare : Bool
  text : List Char

/-- Parts of prose: runs of text, each with the line under it if there is one, and lines under nothing. -/
inductive Part
  | run (r : Run) (underlined : Option Nat)
  | underline (line : Nat)

def addLine (l : ProseLine) (parts : List Part) : List Part :=
  match l, parts with
  | text line s _ bare, .run r u :: rest =>
    .run ⟨line, bare, s ++ '\n' :: r.text⟩ u :: rest
  | text line s _ bare, .underline n :: rest => .run ⟨line, bare, s⟩ (some n) :: rest
  | text line s _ bare, [] => [.run ⟨line, bare, s⟩ none]
  | underline n, parts => .underline n :: parts

def parts (ls : List ProseLine) : List Part := ls.foldr addLine []

/-- The line of what is left of a text that starts on a line. -/
def lineOf (line : Nat) (s rest : List Char) : Nat :=
  line + (s.take (s.length - rest.length)).count '\n'

/-- The definitions at the start of a run as blocks, and the text after them with its line, if there is any. -/
def readRun (r : Run) : List Block × Option (Nat × List Char) :=
  let (defs, rest) := Definition.readAll r.text
  let blocks := defs.map fun (before, label) => Block.definition (lineOf r.line r.text before) label
  (blocks, if rest.isEmpty then none else some (lineOf r.line r.text rest, rest))

def underlineText : List Char := ['=']

/-- The blocks that parts of prose make. Text over a line is a heading. A line under nothing is a paragraph, to
which a bare run that follows belongs if it starts with text; `orphan` is such a line. -/
def blocks (orphan : Option Nat) : List Part → List Block
  | [] => orphan.toList.map (Block.paragraph · underlineText)
  | .underline n :: rest => orphan.toList.map (Block.paragraph · underlineText) ++ blocks (some n) rest
  | .run r underlined :: rest =>
    let (defs, found) := readRun r
    let (before, found) : List Block × Option (Nat × List Char) :=
      match orphan, defs, found with
      | some n, [], some (_, s) =>
        if r.bare then ([], some (n, underlineText ++ '\n' :: s)) else ([.paragraph n underlineText], found)
      | some n, _, _ => ([.paragraph n underlineText], found)
      | none, _, _ => ([], found)
    before ++ defs ++
      match found, underlined with
      | some (line, s), some _ => .heading line s :: blocks none rest
      | some (line, s), none => .paragraph line s :: blocks none rest
      | none, u => blocks u rest

end ProseLine

end LineLimit.Markdown

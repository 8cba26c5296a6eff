import LineLimit.Markdown.Label
import LineLimit.Markdown.Target
/-!
Definitions of links: a label, a colon, a destination, and maybe a title. They stand at the start of text that
would otherwise be a paragraph, and each ends with a line.
-/

namespace LineLimit.Markdown.Definition

/-- The text after a title that ends its line, when a gap separates it from the destination. -/
def titleLine? (s : List Char) : Option (List Char) := do
  guard (s.head?.any Gap.isGap)
  Gap.endLine? (← Target.title (Gap.drop s))

/-- The label of a definition and the text after the definition's last line. -/
def read (s : List Char) : Option (List Char × List Char) :=
  match Gap.dropBlanks s with
  | '[' :: rest => do
    let (label, rest) ← Label.read rest
    match rest with
    | ':' :: rest =>
      let rest ← Target.destination rest.length (Gap.drop rest)
      let rest ← titleLine? rest <|> Gap.endLine? rest
      some (label, rest)
    | _ => none
  | _ => none

/-- The definitions at the start of a text, each with the text that was left before it, and the text after
them. -/
def readAll (s : List Char) : List (List Char × List Char) × List Char :=
  match read s with
  | some (label, rest) =>
    if rest.length < s.length then
      let (more, after) := readAll rest
      ((s, label) :: more, after)
    else ([], s)
  | none => ([], s)
  termination_by s.length

end LineLimit.Markdown.Definition

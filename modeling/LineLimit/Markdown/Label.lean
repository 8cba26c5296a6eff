import LineLimit.Document
import LineLimit.Markdown.Gap
import LineLimit.Unicode.Fold
/-!
Labels: the names between square brackets by which references find their definitions. Labels are the same
when they differ in case or in the length of their gaps only.
-/

namespace LineLimit.Markdown.Label

/-- The longest label, in bytes without line feeds. -/
def maxSize : Nat := 999

/-- The characters up to a closing bracket and the text after that. A backslash makes a bracket or another
backslash part of the label; no other opening bracket may stand there. -/
def scan : List Char → Option (List Char × List Char)
  | [] => none
  | '[' :: _ => none
  | ']' :: rest => some ([], rest)
  | '\\' :: c :: rest =>
    if c = '[' || c = ']' || c = '\\' then (scan rest).map fun (s, after) => ('\\' :: c :: s, after)
    else (scan (c :: rest)).map fun (s, after) => ('\\' :: s, after)
  | c :: rest => (scan rest).map fun (s, after) => (c :: s, after)

/-- A label and the text after its closing bracket, when the opening one stands just before. A label holds
something other than gaps. -/
def read (s : List Char) : Option (List Char × List Char) :=
  (scan s).filter fun (label, _) =>
    !label.all Gap.isGap && decide (byteCount (label.filter (· ≠ '\n')) ≤ maxSize)

/-- Gaps in the middle become a single space; those at the ends are dropped. -/
def collapse (s : List Char) : List Char :=
  go (Gap.drop s)
where
  go : List Char → List Char
    | [] => []
    | c :: rest =>
      if Gap.isGap c then
        match rest with
        | [] => []
        | d :: _ => if Gap.isGap d then go rest else ' ' :: go rest
      else c :: go rest

/-- The form that labels have in common when they are the same. -/
def key (label : List Char) : List Char := Unicode.fold (collapse label)

end LineLimit.Markdown.Label

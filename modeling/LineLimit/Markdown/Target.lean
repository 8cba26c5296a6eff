import LineLimit.Markdown.Gap
/-!
Where a link leads: a destination, which may be in angle brackets, and a title in quotes or parentheses.
Each reader gives the text after what it reads.
-/

namespace LineLimit.Markdown.Target

/-- The text after a destination in angle brackets, whose opening one has been read. -/
def angled : List Char → Option (List Char)
  | [] => none
  | '>' :: rest => some rest
  | '\\' :: c :: rest => if c = '<' || c = '>' || c = '\\' then angled rest else angled (c :: rest)
  | c :: rest => if c = '<' || c = '\n' then none else angled rest

/-- The text after a destination without brackets. Parentheses in it are balanced, at most `limit` deep; it
ends before a gap or a closing parenthesis too many. -/
def bare (limit : Nat) (depth : Nat) : List Char → Option (List Char)
  | [] => if depth = 0 then some [] else none
  | '\\' :: c :: rest =>
    if c = '(' || c = ')' || c = '\\' then bare limit depth rest else bare limit depth (c :: rest)
  | c :: rest =>
    if depth = 0 && (Gap.isGap c || c = ')') then some (c :: rest)
    else if c = '(' then if depth < limit then bare limit (depth + 1) rest else none
    else if c = ')' then bare limit (depth - 1) rest
    else if Gap.isControl c || c = ' ' then none
    else bare limit depth rest

/-- The text after a destination. One without brackets has at least one character. -/
def destination (limit : Nat) : List Char → Option (List Char)
  | [] => none
  | '<' :: rest => angled rest
  | c :: rest =>
    if Gap.isControl c || c = ' ' || c = ')' then none else bare limit 0 (c :: rest)

def titleEnd (close : Char) : List Char → Option (List Char)
  | [] => none
  | '\\' :: c :: rest => if c = close || c = '\\' then titleEnd close rest else titleEnd close (c :: rest)
  | c :: rest => if c = close then some rest else titleEnd close rest

def title : List Char → Option (List Char)
  | '"' :: rest => titleEnd '"' rest
  | '\'' :: rest => titleEnd '\'' rest
  | '(' :: rest => titleEnd ')' rest
  | _ => none

/-- How deep parentheses in the destination of a link may be nested. -/
def maxDepth : Nat := 32

/-- The text after the closing parenthesis, when nothing but a gap comes before that. -/
def closing (s : List Char) : Option (List Char) :=
  match Gap.drop s with
  | ')' :: rest => some rest
  | _ => none

/-- The text after the target of a link in parentheses, whose opening one has been read. The destination
may be missing, and the title as well. -/
def inParentheses (s : List Char) : Option (List Char) :=
  match closing s with
  | some rest => some rest
  | none => do
    let rest ← destination maxDepth (Gap.drop s)
    match closing rest with
    | some rest => some rest
    | none => if rest.head?.any Gap.isGap then closing (← title (Gap.drop rest)) else none

end LineLimit.Markdown.Target

/-!
The parts of a glob, and how a glob is read. `*` and `?` also match a slash. Two stars cross directories when
they are a whole component; elsewhere they are two single stars. Alternatives may be nested.
-/

namespace LineLimit.Glob

inductive Token
  | literal (c : Char)
  /-- One byte. -/
  | one
  /-- Any bytes. -/
  | many
  /-- One byte of a set, or one outside it. -/
  | set (negated : Bool) (ranges : List (Char × Char))
  /-- Directories at the start of the path, or none. -/
  | leadingDirs
  /-- A slash and everything after it. -/
  | contents
  /-- The slash between two components, or a slash, directories and a slash. -/
  | innerDirs
  | oneOf (alternatives : List (List Token))
  deriving Repr, Inhabited

inductive Fault
  | unclosedSet
  | descendingRange (first last : Char)
  | unclosedAlternatives
  | unopenedAlternatives
  | danglingEscape
  deriving DecidableEq, Repr

def Fault.message : Fault → String
  | unclosedSet => "unclosed character class; missing ']'"
  | descendingRange first last => s!"invalid range; '{first}' > '{last}'"
  | unclosedAlternatives =>
    "unclosed alternate group; missing '\x7d' (maybe escape '\x7b' with '[\x7b]'?)"
  | unopenedAlternatives =>
    "unopened alternate group; missing '\x7b' (maybe escape '\x7d' with '[\x7d]'?)"
  | danglingEscape => "dangling '\\'"

/-- A set while it is read: its ranges, the last one first, and whether a hyphen has been read after the
last one. -/
structure SetDraft where
  ranges : List (Char × Char) := []
  hyphen : Bool := false

def SetDraft.close (d : SetDraft) (last : Char) : Except Fault SetDraft :=
  match d.ranges with
  | (first, _) :: rest =>
    if last < first then .error (.descendingRange first last) else .ok ⟨(first, last) :: rest, false⟩
  | [] => .ok ⟨[(last, last)], false⟩

/-- The ranges of the set, where a hyphen at the end stands for itself. -/
def SetDraft.finish (d : SetDraft) : List (Char × Char) :=
  ((if d.hyphen then [('-', '-')] else []) ++ d.ranges).reverse

/-- Reads a set up to its closing bracket. As the first character a bracket or a hyphen stands for itself. -/
def readSet (first : Bool) (d : SetDraft) : List Char → Except Fault (List (Char × Char) × List Char)
  | [] => .error .unclosedSet
  | c :: rest =>
    if c = ']' ∧ !first then .ok (d.finish, rest)
    else if c = '-' ∧ !first ∧ !d.hyphen then readSet false { d with hyphen := true } rest
    else if d.hyphen ∧ c ≠ ']' then
      match d.close c with
      | .ok d => readSet false d rest
      | .error f => .error f
    else readSet false { d with ranges := (c, c) :: d.ranges } rest

/-- A group of alternatives while it is read: those that are complete, and the current one, all with the last
part first. The outermost group is the glob itself. -/
structure Group where
  complete : List (List Token) := []
  current : List Token := []

/-- What has been read of a glob: the groups that are open, the innermost first, and the outermost one. -/
structure Draft where
  inner : List Group := []
  outer : Group := {}

namespace Draft

def modify (d : Draft) (f : Group → Group) : Draft :=
  match d.inner with
  | g :: rest => { d with inner := f g :: rest }
  | [] => { d with outer := f d.outer }

def push (d : Draft) (t : Token) : Draft := d.modify fun g => { g with current := t :: g.current }

def current (d : Draft) : List Token :=
  match d.inner with
  | g :: _ => g.current
  | [] => d.outer.current

def openGroup (d : Draft) : Draft := { d with inner := {} :: d.inner }

/-- A comma starts an alternative, and outside of groups stands for itself. -/
def comma (d : Draft) : Draft :=
  if d.inner.isEmpty then d.push (.literal ',')
  else d.modify fun g => ⟨g.current.reverse :: g.complete, []⟩

def closeGroup (d : Draft) : Except Fault Draft :=
  match d.inner with
  | [] => .error .unopenedAlternatives
  | g :: rest =>
    .ok ({ d with inner := rest }.push (.oneOf (g.current.reverse :: g.complete).reverse))

/-- Two stars that cross no directories. -/
def pushTwoStars (d : Draft) : Draft := (d.push .many).push .many

/-- Puts directories in place of the slash before two stars. Where directories stand already they stay. -/
def crossDirs (d : Draft) (t : Token) : Draft :=
  d.modify fun g =>
    match g.current with
    | .leadingDirs :: _ => g
    | .contents :: _ => g
    | _ :: rest => { g with current := t :: rest }
    | [] => { g with current := [t] }

/-- Two stars, with the character before them and the text after them. A slash after them may belong to
them; what is left of the text is returned, and whether the slash was taken. -/
def doubleStar (d : Draft) (previous : Option Char) (after : List Char) : Draft × Bool :=
  let inGroup := !d.inner.isEmpty
  if d.current.isEmpty then
    match after with
    | [] => (d.push .leadingDirs, false)
    | c :: _ => if c = '/' then (d.push .leadingDirs, true) else (d.pushTwoStars, false)
  else if previous ≠ some '/' then (d.pushTwoStars, false)
  else
    match after with
    | [] => (d.crossDirs .contents, false)
    | c :: _ =>
      if c = '/' then (d.crossDirs .innerDirs, true)
      else if inGroup ∧ (c = ',' ∨ c = '\x7d') then (d.crossDirs .contents, false)
      else (d.pushTwoStars, false)

end Draft

/-- Reads the rest of a glob, after the character `previous`. Every character uses up fuel. -/
def readAll : Nat → Option Char → Draft → List Char → Except Fault Draft
  | 0, _, d, _ => .ok d
  | _, _, d, [] => .ok d
  | fuel + 1, previous, d, c :: rest =>
    if c = '?' then readAll fuel (some c) (d.push .one) rest
    else if c = '*' then
      match rest with
      | '*' :: after =>
        let (d, slash) := d.doubleStar previous after
        if slash then readAll fuel (some '/') d after.tail else readAll fuel (some '*') d after
      | _ => readAll fuel (some c) (d.push .many) rest
    else if c = '[' then
      let (negated, body) := match rest with
        | '!' :: body => (true, body)
        | '^' :: body => (true, body)
        | body => (false, body)
      match readSet true {} body with
      | .error f => .error f
      | .ok (ranges, rest) => readAll fuel (some ']') (d.push (.set negated ranges)) rest
    else if c = '\x7b' then readAll fuel (some c) d.openGroup rest
    else if c = '\x7d' then
      match d.closeGroup with
      | .error f => .error f
      | .ok d => readAll fuel (some c) d rest
    else if c = ',' then readAll fuel (some c) d.comma rest
    else if c = '\\' then
      match rest with
      | [] => .error .danglingEscape
      | e :: rest => readAll fuel (some e) (d.push (.literal e)) rest
    else readAll fuel (some c) (d.push (.literal c)) rest

def readTokens (s : List Char) : Except Fault (List Token) := do
  let d ← readAll s.length none {} s
  if d.inner.isEmpty then return d.outer.current.reverse else throw .unclosedAlternatives

end LineLimit.Glob

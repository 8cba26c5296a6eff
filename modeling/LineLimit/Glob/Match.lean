import LineLimit.Glob.Token
/-!
Which paths a glob matches. Paths are compared byte by byte and as a whole. A part of a glob is given by the
rests that it can leave of a path (`Token.rests`); a glob matches when its parts can leave nothing.
-/

namespace LineLimit.Glob

def bytes (c : Char) : List UInt8 := c.toString.toUTF8.toList

/-- The bytes of a set, as ranges. A character of several bytes adds each of them; a range joins the last
byte of its first character to the first byte of its last one. -/
def byteRanges (ranges : List (Char × Char)) : List (UInt8 × UInt8) :=
  ranges.flatMap fun (first, last) =>
    let singles (bs : List UInt8) := bs.map fun b => (b, b)
    if first = last then singles (bytes first)
    else
      match (bytes first).getLast?, (bytes last).head? with
      | some low, some high => singles (bytes first).dropLast ++ (low, high) :: singles (bytes last).tail
      | _, _ => []

def inSet (negated : Bool) (ranges : List (Char × Char)) (b : UInt8) : Bool :=
  (byteRanges ranges).any (fun (low, high) => decide (low ≤ b ∧ b ≤ high)) != negated

def slash : UInt8 := 47

def afterSlashes : List UInt8 → List (List UInt8)
  | [] => []
  | b :: rest => if b = slash then rest :: afterSlashes rest else afterSlashes rest

/-- The ends of a path, the whole path first and nothing last. -/
def suffixes : List UInt8 → List (List UInt8)
  | [] => [[]]
  | b :: rest => (b :: rest) :: suffixes rest

mutual

/-- Whether parts of a glob stand for nothing at all. -/
def isVoid : List Token → Bool
  | [] => true
  | t :: rest => isVoidToken t && isVoid rest

def isVoidToken : Token → Bool
  | .oneOf alternatives => areVoid alternatives
  | _ => false

def areVoid : List (List Token) → Bool
  | [] => true
  | a :: rest => isVoid a && areVoid rest

end

mutual

/-- The rests that one part can leave of a path. Alternatives that stand for nothing do not count. -/
def Token.rests : Token → List UInt8 → List (List UInt8)
  | .literal c, s => ((bytes c).isPrefixOf? s).toList
  | .one, s => match s with
    | _ :: rest => [rest]
    | [] => []
  | .many, s => suffixes s
  | .set negated ranges, s => match s with
    | b :: rest => if inSet negated ranges b then [rest] else []
    | [] => []
  | .leadingDirs, s => s :: afterSlashes s
  | .contents, s => match s with
    | b :: rest => if b = slash then suffixes rest else []
    | [] => []
  | .innerDirs, s => match s with
    | b :: rest => if b = slash then rest :: afterSlashes rest else []
    | [] => []
  | .oneOf alternatives, s => if areVoid alternatives then [s] else restsOfAny alternatives s

/-- The rests that some parts in a row can leave of any of some paths, each rest once. -/
def restsOfAll : List Token → List (List UInt8) → List (List UInt8)
  | [], starts => starts
  | t :: rest, starts => restsOfAll rest (starts.flatMap fun s => t.rests s).eraseDups

def restsOfAny : List (List Token) → List UInt8 → List (List UInt8)
  | [], _ => []
  | a :: rest, s => (if isVoid a then [] else restsOfAll a [s]) ++ restsOfAny rest s

end

def literals? : List Token → Option (List Char)
  | [] => some []
  | .literal c :: rest => (literals? rest).map (c :: ·)
  | _ => none

/-- Whether a glob that ends in a dot is compared with the end of the path as it stands. Other such globs are
compared with the path's name or extension, and a path that ends in a dot has neither. -/
def comparesEnd (ts : List Token) : Bool :=
  let isLong (rest : List Token) : Bool := match literals? rest with
    | some cs => cs != ['.']
    | none => false
  match ts with
  | .leadingDirs :: .many :: rest => isLong rest
  | .leadingDirs :: rest => match literals? rest with
    | some cs => cs.contains '/'
    | none => false
  | .many :: rest => isLong rest
  | _ => (literals? ts).isSome

def isLive (ts : List Token) : Bool :=
  match ts.getLast? with
  | some (.literal '.') => comparesEnd ts
  | _ => true

/-- Whether the parts of a glob match a path as a whole. Two stars alone match every path. -/
def matchesBytes (ts : List Token) (s : List UInt8) : Bool :=
  match ts with
  | [.leadingDirs] => true
  | _ => isLive ts && (restsOfAll ts [s]).contains []

end LineLimit.Glob

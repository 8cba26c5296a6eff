import LineLimit.Markdown.Piece
import LineLimit.Unicode.Punctuation
/-!
Emphasis: marks in a row open it or close it, depending on what stands around them. Marks that close take the
nearest marks that open, of the same kind; what lies between becomes the emphasis, and marks in there that
have found no partner are text.
-/

namespace LineLimit.Markdown.Emphasis

/-- What stands beside marks. The start and the end of a text count as blank. -/
inductive Side
  | blank
  | punctuation
  | plain
  deriving DecidableEq, Repr

def Side.ofChar? : Option Char → Side
  | none => .blank
  | some c =>
    if Unicode.isBlank c then .blank else if Unicode.isPunctuation c then .punctuation else .plain

/-- The marks that make emphasis; the last one strikes text out. -/
def marks : List Char := ['*', '_', '~']

/-- Whether marks beside a character may act on it: another kind of marks is no obstacle to emphasis. -/
def acts (mark : Char) (near far : Option Char) : Bool :=
  let side := Side.ofChar? near
  side == .plain || (side == .punctuation && Side.ofChar? far != .plain) ||
    (mark != '~' && near.any marks.contains)

/-- The piece for marks in a row, with the characters before and after them. Underscores do not work inside
words. -/
def piece (line : Nat) (mark : Char) (size : Nat) (before after : Option Char) : Piece :=
  let opens := acts mark after before
  let closes := acts mark before after
  let canOpen := opens && (mark != '_' || Side.ofChar? before != .plain || !closes)
  let canClose := closes && (mark != '_' || Side.ofChar? after != .plain || !opens)
  ⟨line, .marks mark size canOpen canClose⟩

/-- Marks that may still open emphasis, and the pieces after them, the last one first. -/
structure Opener where
  line : Nat
  mark : Char
  size : Nat
  closes : Bool
  after : List Piece

namespace Opener

def flatten (o : Opener) : List Piece :=
  o.after ++ Piece.chars o.line (List.replicate o.size o.mark)

/-- Whether closing marks can take these. Sizes that add up to a multiple of three go together only if the
marks do nothing else, or if both are multiples; marks that strike out have to be as many as their partners. -/
def fits (o : Opener) (mark : Char) (size : Nat) (opens : Bool) : Bool :=
  o.mark == mark &&
    !((o.closes || opens) && size % 3 != 0 && (o.size + size) % 3 == 0) &&
    (mark != '~' || (size == o.size && decide (size ≤ 2)))

end Opener

/-- Pieces that have been passed: those before any opening marks, the last one first, and the opening marks,
the last ones first. -/
structure Passed where
  base : List Piece := []
  openers : List Opener := []

namespace Passed

def push (s : Passed) (p : Piece) : Passed :=
  match s.openers with
  | [] => { s with base := p :: s.base }
  | o :: rest => { s with openers := { o with after := p :: o.after } :: rest }

def pushAll (s : Passed) (ps : List Piece) : Passed := ps.foldl push s

/-- Finds the nearest opener that fits. Gives the openers after it, itself, and those before it. -/
def split? (fits : Opener → Bool) : List Opener → Option (List Opener × Opener × List Opener)
  | [] => none
  | o :: rest =>
    if fits o then some ([], o, rest)
    else (split? fits rest).map fun (above, found, below) => (o :: above, found, below)

/-- All pieces, the last one first; opening marks without a partner are text. -/
def flatten (s : Passed) : List Piece := s.openers.foldr (fun o ps => o.flatten ++ ps) s.base

/-- Passes closing marks: as long as some are left and an opener fits, they take one mark each from both, or
two if both have them. What is left may open emphasis later, or is text. -/
def close (inLink : Bool) (s : Passed) (line : Nat) (mark : Char) (size : Nat) (opens : Bool) :
    Passed :=
  match size with
  | 0 => s
  | size + 1 =>
    match split? (·.fits mark (size + 1) opens) s.openers with
    | some (above, o, below) =>
      let taken := if 1 < o.size && 0 < size then 2 else 1
      let inside := above.foldr (fun x ps => x.flatten ++ ps) o.after
      let e : Element :=
        .startingOn o.line .inline none (Piece.finish inLink false false inside.reverse)
      let s : Passed :=
        if o.size ≤ taken then { s with openers := below }
        else { s with openers := { o with size := o.size - taken, after := [] } :: below }
      close inLink (s.push ⟨o.line, .element e⟩) line mark (size + 1 - taken) opens
    | none =>
      if opens then { s with openers := ⟨line, mark, size + 1, true, []⟩ :: s.openers }
      else s.pushAll (Piece.chars line (List.replicate (size + 1) mark))
  termination_by size
  decreasing_by grind

def step (inLink : Bool) (s : Passed) (p : Piece) : Passed :=
  match p.body with
  | .marks mark size opens closes =>
    if closes then s.close inLink p.line mark size opens
    else if opens then { s with openers := ⟨p.line, mark, size, false, []⟩ :: s.openers }
    else s.pushAll (Piece.chars p.line (List.replicate size mark))
  | _ => s.push p

end Passed

def resolve (inLink : Bool) (ps : List Piece) : List Piece :=
  (ps.foldl (Passed.step inLink) {}).flatten.reverse

end LineLimit.Markdown.Emphasis

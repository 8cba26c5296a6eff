/-!
Finite binary64 numbers, kept exactly as sign, whole mantissa and power of two. Arithmetic rounds once, to
the nearest number and on a tie to the even mantissa. A number is written with the fewest digits that
read back as it.
-/

namespace LineLimit

/-- The number `± mantissa * 2 ^ exponent`. The functions below make mantissas under `2 ^ 53` only, as
large as the exponent `-1074` allows. -/
structure Binary64 where
  negative : Bool
  mantissa : Nat
  exponent : Int
  deriving DecidableEq, Repr

namespace Binary64

def zero : Binary64 := ⟨false, 0, -1074⟩

def scale (num den : Nat) (e : Int) : Nat × Nat :=
  if 0 ≤ e then (num * Nat.pow 2 e.toNat, den) else (num, den * Nat.pow 2 (-e).toNat)

/-- The whole number nearest to `num / den`, the even one of two. -/
def nearest (num den : Nat) : Nat :=
  let q := num / den
  let twice := 2 * (num % den)
  if twice < den then q
  else if den < twice then q + 1
  else if q % 2 = 0 then q else q + 1

/-- The number nearest to the positive fraction `num / den`, none if it is too large. -/
def ofRatio? (negative : Bool) (num den : Nat) : Option Binary64 :=
  if num = 0 then some { zero with negative }
  else
    let size : Int := (num.log2 : Int) - (den.log2 : Int)
    let (n, d) := scale num den (-size)
    let e := max (-1074) (if d ≤ n then size - 52 else size - 53)
    let (n, d) := scale num den (-e)
    let m := nearest n d
    let (m, e) := if m = Nat.pow 2 53 then (Nat.pow 2 52, e + 1) else (m, e)
    if 971 < e then none else some ⟨negative, m, e⟩

def ratio (x : Binary64) : Nat × Nat := scale x.mantissa 1 x.exponent

def ofNat? (n : Nat) : Option Binary64 := ofRatio? false n 1

/-- The product, with the sign of the first factor. -/
def mul? (x y : Binary64) : Option Binary64 :=
  let (a, b) := x.ratio
  let (c, d) := y.ratio
  ofRatio? x.negative (a * c) (b * d)

/-- The quotient, with the sign of the dividend. -/
def div? (x y : Binary64) : Option Binary64 :=
  let (a, b) := x.ratio
  let (c, d) := y.ratio
  ofRatio? x.negative (a * d) (b * c)

def powerOfTen? (n : Nat) : Option Binary64 := ofNat? (Nat.pow 10 n)

def topPower : Nat := 308

/-- Moves the decimal point of a number by `exponent` places. The number is divided by the largest power of ten
as often as the place is still too far to the left, and rounded each time. -/
def shift? (fuel : Nat) (x : Binary64) (exponent : Int) : Option Binary64 :=
  if exponent.natAbs ≤ topPower then
    (powerOfTen? exponent.natAbs).bind fun p => if 0 ≤ exponent then x.mul? p else x.div? p
  else if x.mantissa = 0 then some x
  else if 0 ≤ exponent then none
  else
    match fuel with
    | 0 => some { x with mantissa := 0, exponent := -1074 }
    | fuel + 1 =>
      (powerOfTen? topPower).bind fun p => (x.div? p).bind fun y => shift? fuel y (exponent + topPower)

/-- The number read from a decimal `± significand * 10 ^ exponent`: the significand is rounded, then
its decimal point is moved. Three moves by the largest power reach zero. -/
def ofDecimal? (negative : Bool) (significand : Nat) (exponent : Int) : Option Binary64 :=
  (ofNat? significand).bind fun x => (shift? 4 x exponent).map ({ · with negative })

def digits (n : Nat) : List Char := Nat.toDigits 10 n

/-- The least `k` such that the fraction is below `10 ^ k`. -/
def decimalSize (num den : Nat) : Int :=
  if den ≤ num then (digits (num / den)).length
  else
    let places := (List.range 400).find? fun k => decide (den ≤ num * Nat.pow 10 (k + 1))
    .neg (places.getD 400)

/-- Whether a decimal `n * 10 ^ e` is nearer to the number `x` than to its neighbours. A decimal in the middle
between two numbers belongs to the one with the even mantissa. -/
def readsBack (x : Binary64) (n : Nat) (e : Int) : Bool :=
  let lowHalf : Nat × Int :=
    if x.mantissa = Nat.pow 2 52 ∧ -1074 < x.exponent then (4 * x.mantissa - 1, x.exponent - 2)
    else (2 * x.mantissa - 1, x.exponent - 1)
  let (ln, ld) := scale lowHalf.1 1 lowHalf.2
  let (hn, hd) := scale (2 * x.mantissa + 1) 1 (x.exponent - 1)
  let (vn, vd) := if 0 ≤ e then (n * Nat.pow 10 e.toNat, 1) else (n, Nat.pow 10 (-e).toNat)
  let below := ln * vd
  let above := hn * vd
  if x.mantissa % 2 = 0 then decide (below ≤ vn * ld ∧ vn * hd ≤ above)
  else decide (below < vn * ld ∧ vn * hd < above)

/-- The decimal with `count` digits, next to the number, that reads back as it: a digit string and the power of ten. -/
def decimalOf? (x : Binary64) (count : Nat) : Option (Nat × Int) :=
  let (num, den) := x.ratio
  let e := decimalSize num den - count
  let (n, d) := if 0 ≤ e then (num, den * Nat.pow 10 e.toNat) else (num * Nat.pow 10 (-e).toNat, den)
  let low := n / d
  let first := nearest n d
  let second := if first = low then low + 1 else low
  if readsBack x first e then some (first, e)
  else if readsBack x second e then some (second, e)
  else none

/-- The shortest decimal that reads back as the number. Seventeen digits always do. -/
def shortest (x : Binary64) : Nat × Int :=
  ((List.range 17).findSome? fun k => decimalOf? x (k + 1)).getD (0, 0)

def trimZeros (fuel n : Nat) (e : Int) : Nat × Int :=
  match fuel with
  | 0 => (n, e)
  | fuel + 1 => if n % 10 = 0 then trimZeros fuel (n / 10) (e + 1) else (n, e)

/-- Writes a decimal `n * 10 ^ e`. Numbers from 0.00001 up to below `10 ^ 16` are written out and have a point
and a digit after it; others have one digit before the point and a signed power of ten. -/
def writeDecimal (n : Nat) (e : Int) : String :=
  let (n, e) := trimZeros 20 n e
  let ds := digits n
  let size : Int := ds.length + e
  if 0 ≤ e ∧ size ≤ 16 then String.ofList (ds ++ List.replicate e.toNat '0') ++ ".0"
  else if 0 < size ∧ size ≤ 16 then
    String.ofList (ds.take size.toNat) ++ "." ++ String.ofList (ds.drop size.toNat)
  else if -5 < size ∧ size ≤ 0 then
    "0." ++ String.ofList (List.replicate (-size).toNat '0' ++ ds)
  else
    let exponent := size - 1
    let sign := if exponent < 0 then "-" else "+"
    let fraction := if ds.length ≤ 1 then "" else "." ++ String.ofList (ds.drop 1)
    String.ofList (ds.take 1) ++ fraction ++ "e" ++ sign ++ toString exponent.natAbs

/-- The text of a number: the fewest digits that read back as it. -/
def write (x : Binary64) : String :=
  let sign := if x.negative then "-" else ""
  if x.mantissa = 0 then sign ++ "0.0"
  else
    let (n, e) := shortest x
    sign ++ writeDecimal n e

end Binary64

end LineLimit

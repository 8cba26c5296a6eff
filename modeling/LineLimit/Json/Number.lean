import LineLimit.Json.Value
/-!
The value of a number's text. A whole number that fits 64 bits, signed or unsigned, stays whole; any other
becomes a binary64 number, as long as it is not too large for one. Of many digits the first count, as far as
they fit 64 bits.
-/

namespace LineLimit.Json.Number

def top : Nat := UInt64.size - 1

def digitValue (c : Char) : Nat := c.toNat - '0'.toNat

def decimal (ds : List Char) : Nat := ds.foldl (fun n d => 10 * n + digitValue d) 0

def hexDigit? (c : Char) : Option Nat :=
  if c.isDigit then some (c.toNat - '0'.toNat)
  else if 'a' ≤ c ∧ c ≤ 'f' then some (c.toNat - 'a'.toNat + 10)
  else if 'A' ≤ c ∧ c ≤ 'F' then some (c.toNat - 'A'.toNat + 10)
  else none

def hexadecimal (ds : List Char) : Nat := ds.foldl (fun n d => 16 * n + (hexDigit? d).getD 0) 0

/-- Appends digits to a significand until one does not fit, and counts the digits that are left. -/
def extend (n : Nat) : List Char → Nat × Nat
  | [] => (n, 0)
  | d :: rest =>
    let m := 10 * n + digitValue d
    if m ≤ top then extend m rest else (n, rest.length + 1)

/-- The parts of a number's text: its digits before and after the point, and the power of ten. -/
structure Parts where
  negative : Bool
  whole : List Char
  fraction : Option (List Char)
  exponent : Option Int

/-- The value of a number given by its parts, none if it is too large. -/
def Parts.value? (p : Parts) : Option Json :=
  let n := decimal p.whole
  let isWhole := p.fraction.isNone && p.exponent.isNone
  if isWhole && !p.negative && n ≤ top then some (.int n)
  else if isWhole && p.negative && 0 < n && n ≤ Nat.pow 2 63 then some (.int (.neg n))
  else
    let (significand, left) := extend 0 p.whole
    let ds := p.fraction.getD []
    let (significand, unread) := extend significand ds
    let exponent : Int := left - (ds.length - unread : Nat) + p.exponent.getD 0
    (Binary64.ofDecimal? p.negative significand exponent).map .float

/-- The value of a hexadecimal number, none if it needs more than 63 bits. -/
def hexValue? (negative : Bool) (ds : List Char) : Option Json :=
  let n := hexadecimal ds
  if n < Nat.pow 2 63 then some (.int (if negative then .neg n else n)) else none

end LineLimit.Json.Number

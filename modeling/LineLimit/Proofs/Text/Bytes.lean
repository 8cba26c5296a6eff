import LineLimit.Document
import Mathlib
/-!
The bytes of a text. They are those of its characters in a row, so two texts with the same bytes are the same. In bytes,
texts are ordered as they are by their characters.
-/

namespace LineLimit.Utf8

def encode (s : List Char) : List UInt8 := s.flatMap String.utf8EncodeChar

@[simp] theorem encode_nil : encode [] = [] := rfl

@[simp] theorem encode_cons (c : Char) (s : List Char) : encode (c :: s) = String.utf8EncodeChar c ++ encode s := rfl

@[simp] theorem encode_append (s t : List Char) : encode (s ++ t) = encode s ++ encode t := List.flatMap_append

theorem length_encode (s : List Char) : (encode s).length = byteCount s := by
  induction s with
  | nil => rfl
  | cons c s ih =>
      rw [encode_cons, List.length_append, String.length_utf8EncodeChar, ih]
      rfl

theorem toList_loop (b : ByteArray) (i : Nat) (read : List UInt8) :
    ByteArray.toList.loop b i read = read.reverse ++ b.data.toList.drop i := by
  fun_induction ByteArray.toList.loop b i read with
  | case1 i read hi ih =>
      have hbyte : b.data.toList.drop i = b.get! i :: b.data.toList.drop (i + 1) := by
        have hi' : i < b.data.toList.length := by rwa [Array.length_toList]
        rw [List.drop_eq_getElem_cons hi', ByteArray.get!, Array.getElem_toList, getElem!_pos b.data i hi]
      rw [ih, hbyte, List.reverse_cons, List.append_assoc, List.singleton_append]
  | case2 i read hi =>
      have hend : b.data.toList.length ≤ i := by
        rw [Array.length_toList]
        exact Nat.le_of_not_lt hi
      rw [List.drop_eq_nil_of_le hend, List.append_nil]

theorem toList_eq (b : ByteArray) : b.toList = b.data.toList := by
  rw [ByteArray.toList, toList_loop, List.reverse_nil, List.nil_append, List.drop_zero]

theorem toList_toUTF8 (s : String) : s.toUTF8.toList = encode s.toList := by
  rw [toList_eq, String.toUTF8_eq_toByteArray, ← String.utf8Encode_toList, List.utf8Encode]
  exact List.toList_data_toByteArray

theorem toList_toUTF8_inj {s t : String} (h : s.toUTF8.toList = t.toUTF8.toList) : s = t := by
  rw [toList_eq, toList_eq, Array.toList_inj] at h
  exact String.toByteArray_inj.mp (ByteArray.ext h)

theorem toNat_lt (c : Char) : c.val.toNat < 1114112 := by
  have hvalid := c.valid
  simp only [UInt32.isValidChar, Nat.isValidChar] at hvalid
  omega

theorem ofNat_inj {a b : Nat} (ha : a < 256) (hb : b < 256) : UInt8.ofNat a = UInt8.ofNat b ↔ a = b := by
  rw [← UInt8.toNat_inj, UInt8.toNat_ofNat_of_lt' ha, UInt8.toNat_ofNat_of_lt' hb]

/-- A low byte stands for the character of its number and occurs in no other one. -/
theorem ofNat_not_mem_utf8EncodeChar {c : Char} {n : Nat} (hn : n < 128) (hc : c.val.toNat ≠ n) :
    UInt8.ofNat n ∉ String.utf8EncodeChar c := by
  have hlt := toNat_lt c
  simp only [String.utf8EncodeChar]
  generalize c.val.toNat = v at hc hlt
  split_ifs
  all_goals
    simp (disch := omega) only [List.mem_cons, List.not_mem_nil, ofNat_inj, or_false]
    omega

/-- A number in bytes: `k` digits of six bits after a first byte, which holds what is left of the number on top of
`base`. -/
def digits (base : Nat) : Nat → Nat → List UInt8
  | 0, v => [.ofNat (base + v)]
  | k + 1, v => digits base k (v / 64) ++ [.ofNat (128 + v % 64)]

theorem ofNat_lt_ofNat {a b : Nat} (h : a < b) (hb : b < 256) : UInt8.ofNat a < UInt8.ofNat b := by
  rw [UInt8.lt_iff_toNat_lt, UInt8.toNat_ofNat_of_lt' (Nat.lt_trans h hb), UInt8.toNat_ofNat_of_lt' hb]
  exact h

/-- The induction is on the digits: numbers differ above the last one, or in the last one alone. -/
theorem digits_append_lt {base k m n : Nat} (h : m < n) (hn : base + n / 64 ^ k < 256) (x y : List UInt8) :
    digits base k m ++ x < digits base k n ++ y := by
  induction k generalizing m n x y with
  | zero =>
      rw [Nat.pow_zero, Nat.div_one] at hn
      exact List.cons_lt_cons_iff.mpr (.inl (ofNat_lt_ofNat (Nat.add_lt_add_left h base) hn))
  | succ k ih =>
      rw [digits, digits, List.append_assoc, List.append_assoc]
      by_cases hdiv : m / 64 < n / 64
      · apply ih hdiv
        rwa [Nat.div_div_eq_div_mul, ← Nat.pow_succ']
      · have hsame : m / 64 = n / 64 := by omega
        rw [hsame]
        apply List.append_left_lt
        exact List.cons_lt_cons_iff.mpr (.inl (ofNat_lt_ofNat (by omega) (by omega)))

theorem exists_digits_eq_cons (base k v : Nat) : ∃ rest, digits base k v = .ofNat (base + v / 64 ^ k) :: rest := by
  induction k generalizing v with
  | zero => exact ⟨[], by rw [digits, Nat.pow_zero, Nat.div_one]⟩
  | succ k ih =>
      obtain ⟨rest, hrest⟩ := ih (v / 64)
      refine ⟨rest ++ [.ofNat (128 + v % 64)], ?_⟩
      rw [digits, hrest, Nat.div_div_eq_div_mul, ← Nat.pow_succ']
      rfl

/-- The first byte of a number of more digits is higher. -/
theorem digits_append_lt_of_lead {base base' k k' m n : Nat} (h : base + m / 64 ^ k < base' + n / 64 ^ k')
    (hn : base' + n / 64 ^ k' < 256) (x y : List UInt8) : digits base k m ++ x < digits base' k' n ++ y := by
  obtain ⟨u, hu⟩ := exists_digits_eq_cons base k m
  obtain ⟨v, hv⟩ := exists_digits_eq_cons base' k' n
  rw [hu, hv, List.cons_append, List.cons_append]
  exact List.cons_lt_cons_iff.mpr (.inl (ofNat_lt_ofNat h hn))

/-- The number of bytes after the first one of a character of that number. -/
def tails (v : Nat) : Nat := if v ≤ 127 then 0 else if v ≤ 2047 then 1 else if v ≤ 65535 then 2 else 3

/-- What the first byte of a character with so many further bytes is counted from. -/
def base : Nat → Nat
  | 0 => 0
  | 1 => 192
  | 2 => 224
  | _ => 240

theorem lead_lt_of_tails_ne {m n : Nat} (h : m < n) (htails : tails m ≠ tails n) :
    base (tails m) + m / 64 ^ tails m < base (tails n) + n / 64 ^ tails n := by
  unfold tails at htails ⊢
  split_ifs at htails ⊢
  all_goals
    simp only [base, Nat.reducePow]
    omega

theorem lead_lt {v : Nat} (hv : v < 1114112) : base (tails v) + v / 64 ^ tails v < 256 := by
  unfold tails
  split_ifs
  all_goals
    simp only [base, Nat.reducePow]
    omega

theorem utf8EncodeChar_eq_digits (c : Char) :
    String.utf8EncodeChar c = digits (base (tails c.val.toNat)) (tails c.val.toNat) c.val.toNat := by
  have hc := toNat_lt c
  simp only [String.utf8EncodeChar, tails]
  generalize c.val.toNat = v at hc
  split_ifs
  all_goals
    simp (disch := omega) only [digits, base, List.cons_append, List.nil_append, Nat.div_div_eq_div_mul, Nat.reduceMul,
      Nat.add_comm, Nat.add_zero, Nat.mod_eq_of_lt]

/-- Of two characters the lower one has the lower bytes, whatever comes after them. -/
theorem utf8EncodeChar_append_lt {c d : Char} (h : c < d) (x y : List UInt8) :
    String.utf8EncodeChar c ++ x < String.utf8EncodeChar d ++ y := by
  have hcd : c.val.toNat < d.val.toNat := h
  have hd := lead_lt (toNat_lt d)
  rw [utf8EncodeChar_eq_digits, utf8EncodeChar_eq_digits]
  by_cases htails : tails c.val.toNat = tails d.val.toNat
  · rw [htails]
    exact digits_append_lt hcd hd x y
  · exact digits_append_lt_of_lead (lead_lt_of_tails_ne hcd htails) hd x y

theorem encode_lt_of_lt {s t : List Char} (h : s < t) : encode s < encode t := by
  induction h with
  | @nil d t =>
      rw [encode_nil, encode_cons]
      cases hd : String.utf8EncodeChar d with
      | nil => exact absurd hd String.utf8EncodeChar_ne_nil
      | cons b rest => exact List.nil_lt_cons _ _
  | rel h => exact utf8EncodeChar_append_lt h _ _
  | cons h ih => exact List.append_left_lt ih

theorem lt_iff_bytes {s t : String} : s < t ↔ s.toUTF8.toList < t.toUTF8.toList := by
  rw [String.lt_iff, toList_toUTF8, toList_toUTF8]
  constructor
  · exact encode_lt_of_lt
  · intro h
    rcases Std.lt_trichotomy s.toList t.toList with hlt | heq | hgt
    · exact hlt
    · rw [heq] at h
      exact absurd h (List.lt_irrefl _)
    · exact absurd (encode_lt_of_lt hgt) (List.lt_asymm h)

end LineLimit.Utf8

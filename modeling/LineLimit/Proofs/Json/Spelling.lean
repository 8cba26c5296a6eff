import LineLimit.Json.Print
import LineLimit.Json.Relaxed.Lexeme
import Mathlib.Algebra.Ring.Int.Defs
import Mathlib.Data.List.Forall2
import Mathlib.Data.List.TakeDrop
import Mathlib.Data.List.TakeWhile
/-!
The lexemes of printed values. A printed text ends where its last lexeme ends or goes on with a comma or a new line, so it
can be taken apart without looking at what it stands in.
-/

namespace LineLimit.Json.Relaxed

/-- A text that starts neither with a blank nor with a comment. -/
def Begins (s : List Char) : Prop := ∃ c rest, s = c :: rest ∧ Unicode.isBlank c = false ∧ c ≠ '/'

/-- A text that consists of some lexemes, with blanks before and after them. -/
inductive Spells : List Char → List Lexeme → Prop
  | blanks {s : List Char} (h : ∀ c ∈ s, Unicode.isBlank c = true) : Spells s []
  | lexeme {gap body rest : List Char} {l : Lexeme} {ls : List Lexeme} (hgap : ∀ c ∈ gap, Unicode.isBlank c = true)
      (hbegins : Begins body) (hscan : scanLexeme (body ++ rest) = .ok (l, rest)) (hrest : Spells rest ls) :
      Spells (gap ++ (body ++ rest)) (l :: ls)

variable {s body rest : List Char} {l : Lexeme} {ls more : List Lexeme}

theorem skip_of_begins {gap : List Char} (hgap : ∀ c ∈ gap, Unicode.isBlank c = true) (h : Begins s) (fuel : Nat) :
    skip (fuel + 1) (gap ++ s) = .ok s := by
  obtain ⟨c, rest, rfl, hblank, hslash⟩ := h
  have hdrop : (gap ++ c :: rest).dropWhile Unicode.isBlank = c :: rest := by
    rw [List.dropWhile_append_of_pos hgap, List.dropWhile_cons_of_neg (by rw [hblank]; decide)]
  rw [skip, hdrop]
  split
  · simp_all
  · simp_all
  · rfl

theorem skip_of_blanks (h : ∀ c ∈ s, Unicode.isBlank c = true) (fuel : Nat) : skip (fuel + 1) s = .ok [] := by
  rw [skip, List.dropWhile_eq_nil_iff.mpr h]

/-- The lexemes of a text are found with fuel for more characters than it has. -/
theorem tokens_of_spells (h : Spells s ls) {fuel : Nat} (hfuel : s.length < fuel) :
    (tokens fuel s).map (·.content) = ls.map .ok := by
  induction h generalizing fuel with
  | blanks h =>
      cases fuel with
      | zero => omega
      | succ fuel =>
          rw [tokens, skip_of_blanks h]
          rfl
  | @lexeme gap body rest l ls hgap hbegins hscan hrest ih =>
      cases fuel with
      | zero => omega
      | succ fuel =>
          have hbegins' : Begins (body ++ rest) := by
            obtain ⟨c, tail, rfl, hblank, hslash⟩ := hbegins
            exact ⟨c, tail ++ rest, rfl, hblank, hslash⟩
          have hlength : rest.length < fuel := by
            obtain ⟨c, tail, rfl, _⟩ := hbegins
            simp only [List.length_append, List.length_cons] at hfuel
            omega
          rw [tokens, skip_of_begins hgap hbegins']
          obtain ⟨c, tail, hcons, _⟩ := hbegins'
          rw [hcons] at hscan
          simp only [hcons, hscan, List.map_cons, ih hlength]

theorem Spells.gap {gap : List Char} (hgap : ∀ c ∈ gap, Unicode.isBlank c = true) (h : Spells s ls) :
    Spells (gap ++ s) ls := by
  cases h with
  | blanks h =>
      refine .blanks fun c hc => ?_
      rcases List.mem_append.mp hc with hc | hc
      · exact hgap c hc
      · exact h c hc
  | @lexeme gap' body rest l ls hgap' hbegins hscan hrest =>
      rw [← List.append_assoc]
      refine .lexeme (fun c hc => ?_) hbegins hscan hrest
      rcases List.mem_append.mp hc with hc | hc
      · exact hgap c hc
      · exact hgap' c hc

theorem Spells.head (hbegins : Begins body) (hscan : scanLexeme (body ++ rest) = .ok (l, rest)) (h : Spells rest ls) :
    Spells (body ++ rest) (l :: ls) := @lexeme [] body rest l ls nofun hbegins hscan h

/-- What can come after a value: a comma, a new line or nothing. -/
def Breaks (s : List Char) : Prop := s = [] ∨ ∃ rest, s = ',' :: rest ∨ s = '\n' :: rest

/-- A text that consists of some lexemes wherever it stands, as long as a break comes after it. -/
def Spelled (s : List Char) (ls : List Lexeme) : Prop :=
  ∀ rest more, Breaks rest → Spells rest more → Spells (s ++ rest) (ls ++ more)

theorem spelled_of_scan (hbegins : Begins s) (hscan : ∀ rest, Breaks rest → scanLexeme (s ++ rest) = .ok (l, rest)) :
    Spelled s [l] := fun rest _ hbreaks h => .head hbegins (hscan rest hbreaks) h

section Strings

variable {opened done : List Char}

theorem hex4?_control : ∀ {n : Nat}, n < 32 →
    hex4? '0' '0' (Nat.digitChar (n / 16)) (Nat.digitChar (n % 16)) = some n := by
  decide

theorem scanString_simple {e c : Char} (h : simpleEscape? e = some c) (hu : e ≠ 'u') (hquote : e ≠ '\'') :
    scanString '"' opened done ('\\' :: e :: rest) = scanString '"' opened (c :: done) rest := by
  simp [scanString, h, hu, hquote]

theorem scanString_control {c : Char} (hc : c.toNat < 32) :
    scanString '"' opened done ('\\' :: 'u' :: '0' :: '0' :: Nat.digitChar (c.toNat / 16) ::
      Nat.digitChar (c.toNat % 16) :: rest) = scanString '"' opened (c :: done) rest := by
  have hhigh : isHighSurrogate c.toNat = false := by
    simp only [isHighSurrogate, decide_eq_false_iff_not]
    omega
  have hlow : isLowSurrogate c.toNat = false := by
    simp only [isLowSurrogate, decide_eq_false_iff_not]
    omega
  rw [scanString]
  simp only [hex4?_control hc, hhigh, hlow, Bool.false_eq_true, if_false, Char.ofNat_toNat]

theorem scanString_plain {c : Char} (hbackslash : c ≠ '\\') (hquote : c ≠ '"') :
    scanString '"' opened done (c :: rest) = scanString '"' opened (c :: done) rest := by
  simp [scanString, hbackslash, hquote]

theorem scanString_escape (c : Char) :
    scanString '"' opened done (escape c ++ rest) = scanString '"' opened (c :: done) rest := by
  unfold escape
  split_ifs with hquote hbackslash hline hreturn htab hback hfeed hcontrol
  · exact scanString_simple (by rw [hquote]; rfl) (by decide) (by decide)
  · exact scanString_simple (by rw [hbackslash]; rfl) (by decide) (by decide)
  · exact scanString_simple (by rw [hline]; rfl) (by decide) (by decide)
  · exact scanString_simple (by rw [hreturn]; rfl) (by decide) (by decide)
  · exact scanString_simple (by rw [htab]; rfl) (by decide) (by decide)
  · exact scanString_simple (by rw [← Char.ofNat_toNat c, hback]; rfl) (by decide) (by decide)
  · exact scanString_simple (by rw [← Char.ofNat_toNat c, hfeed]; rfl) (by decide) (by decide)
  · exact scanString_control hcontrol
  · exact scanString_plain hbackslash hquote

theorem scanString_flatMap (cs : List Char) :
    scanString '"' opened done (cs.flatMap escape ++ '"' :: rest) = .ok (String.ofList (done.reverse ++ cs), rest) := by
  induction cs generalizing done with
  | nil => simp [scanString]
  | cons c cs ih =>
      rw [List.flatMap_cons, List.append_assoc, scanString_escape, ih, List.reverse_cons, List.append_assoc]
      rfl

theorem scanLexeme_quote (text : String) :
    scanLexeme ((quote text).toList ++ rest) = .ok (.str text, rest) := by
  have htext : (quote text).toList ++ rest = '"' :: (text.toList.flatMap escape ++ '"' :: rest) := by
    simp [quote]
  have hscan : scanString '"' ('"' :: (text.toList.flatMap escape ++ '"' :: rest)) []
      (text.toList.flatMap escape ++ '"' :: rest) = .ok (text, rest) := by
    rw [scanString_flatMap, List.reverse_nil, List.nil_append, String.ofList_toList]
  rw [htext]
  simp [scanLexeme, hscan, Except.map]

/-- A string ends with its closing quote, whatever comes after it. -/
theorem spells_quote (text : String) (h : Spells rest ls) : Spells ((quote text).toList ++ rest) (.str text :: ls) := by
  have hbegins : Begins (quote text).toList := by
    refine ⟨'"', text.toList.flatMap escape ++ ['"'], ?_, by decide, by decide⟩
    simp [quote]
  exact .head hbegins (scanLexeme_quote text) h

end Strings

section Numbers

variable {ds sign : List Char} {n : Nat}

theorem span_of_breaks {p : Char → Bool} (hds : ∀ c ∈ ds, p c = true) (hcomma : p ',' = false) (hline : p '\n' = false)
    (h : Breaks rest) : (ds ++ rest).span p = (ds, rest) := by
  rw [List.span_eq_takeWhile_dropWhile, List.takeWhile_append_of_pos hds, List.dropWhile_append_of_pos hds]
  obtain rfl | ⟨rest, rfl | rfl⟩ := h
  · simp
  · simp [hcomma]
  · simp [hline]

theorem head?_toDigits (hn : n ≠ 0) : (Nat.toDigits 10 n).head? ≠ some '0' := by
  induction n using Nat.strongRecOn with
  | ind n ih =>
      by_cases hlt : n < 10
      · have hdigit : ∀ d < 10, d ≠ 0 → Nat.digitChar d ≠ '0' := by decide
        rw [Nat.toDigits_of_lt_base hlt, List.head?_cons, ne_eq, Option.some.injEq]
        exact hdigit n hlt hn
      · have hdiv : n / 10 ≠ 0 := by omega
        rw [Nat.toDigits_of_base_le (by decide) (by omega), List.head?_append_of_ne_nil _ Nat.toDigits_ne_nil]
        exact ih (n / 10) (by omega) hdiv

theorem isDigit_of_mem {c : Char} (h : c ∈ Nat.toDigits 10 n) : c.isDigit = true :=
  Nat.isDigit_of_mem_toDigits (by decide) (by decide) h

theorem scanWhole_toDigits (h : Breaks rest) :
    scanWhole (Nat.toDigits 10 n ++ rest) = .ok (Nat.toDigits 10 n, rest) := by
  by_cases hn : n = 0
  · subst hn
    rfl
  · have hspan : (Nat.toDigits 10 n ++ rest).span Char.isDigit = (Nat.toDigits 10 n, rest) :=
      span_of_breaks (fun _ => isDigit_of_mem) rfl rfl h
    have hhead := head?_toDigits hn
    obtain ⟨c, cs, hds⟩ := List.exists_cons_of_ne_nil (Nat.toDigits_ne_nil (b := 10) (n := n))
    rw [hds] at hspan hhead ⊢
    rw [List.head?_cons, ne_eq, Option.some.injEq] at hhead
    rw [List.cons_append] at hspan ⊢
    rw [scanWhole]
    · rw [hspan]
    · simpa using hhead

theorem scanFraction_of_breaks (h : Breaks rest) : scanFraction rest = .ok (none, rest) := by
  obtain rfl | ⟨rest, rfl | rfl⟩ := h
  · rfl
  · rfl
  · rfl

theorem scanExponent_of_breaks (h : Breaks rest) : scanExponent rest = .ok (none, rest) := by
  obtain rfl | ⟨rest, rfl | rfl⟩ := h
  · rfl
  · rfl
  · rfl

/-- The lexeme of the digits of a natural number after a sign. -/
def digitsLexeme (sign : List Char) (n : Nat) : Lexeme :=
  numberOf (sign ++ Nat.toDigits 10 n) (Number.Parts.value? ⟨sign = ['-'], Nat.toDigits 10 n, none, none⟩)

theorem scanDecimal_toDigits (h : Breaks rest) :
    scanDecimal sign (Nat.toDigits 10 n ++ rest) = .ok (digitsLexeme sign n, rest) := by
  rw [scanDecimal, scanWhole_toDigits h]
  simp [scanFraction_of_breaks h, scanExponent_of_breaks h, bind, Except.bind, pure, Except.pure, digitsLexeme]

theorem exists_toDigits_eq_cons (n : Nat) : ∃ c cs, Nat.toDigits 10 n = c :: cs ∧ c.isDigit = true := by
  obtain ⟨c, cs, hds⟩ := List.exists_cons_of_ne_nil (Nat.toDigits_ne_nil (b := 10) (n := n))
  exact ⟨c, cs, hds, isDigit_of_mem (hds ▸ List.mem_cons_self)⟩

/-- The digits of a number are not taken for the start of a hexadecimal one. -/
theorem not_hexadecimal {x : Char} {tail : List Char} (h : Breaks rest)
    (heq : Nat.toDigits 10 n ++ rest = '0' :: x :: tail) : ¬ (x = 'x' ∨ x = 'X') := by
  by_cases hn : n = 0
  · subst hn
    have hrest : rest = x :: tail := (List.cons.inj heq).2
    obtain rfl | ⟨rest, rfl | rfl⟩ := h
    · nomatch hrest
    · cases hrest
      decide
    · cases hrest
      decide
  · obtain ⟨c, cs, hds, _⟩ := exists_toDigits_eq_cons n
    have hhead := head?_toDigits hn
    rw [hds] at heq hhead
    rw [(List.cons.inj heq).1] at hhead
    exact absurd rfl hhead

theorem scanSign_toDigits (hsign : sign = [] ∨ sign = ['-']) :
    scanSign (sign ++ (Nat.toDigits 10 n ++ rest)) = (sign, Nat.toDigits 10 n ++ rest) := by
  rcases hsign with rfl | rfl
  · obtain ⟨c, cs, hds, hdigit⟩ := exists_toDigits_eq_cons n
    have hc : isSign c = false := by
      rw [isSign, Bool.or_eq_false_iff, beq_eq_false_iff_ne, beq_eq_false_iff_ne]
      constructor
      · rintro rfl
        exact absurd hdigit (by decide)
      · rintro rfl
        exact absurd hdigit (by decide)
    rw [hds, List.nil_append, List.cons_append, scanSign, hc]
    rfl
  · rfl

theorem scanNumber_toDigits (hsign : sign = [] ∨ sign = ['-']) (h : Breaks rest) :
    scanNumber (sign ++ (Nat.toDigits 10 n ++ rest)) = .ok (digitsLexeme sign n, rest) := by
  rw [scanNumber, scanSign_toDigits hsign]
  dsimp only
  split
  · next x tail heq => rw [if_neg (not_hexadecimal h heq), scanDecimal_toDigits h]
  · exact scanDecimal_toDigits h

theorem decimal_toDigits (n : Nat) : Number.decimal (Nat.toDigits 10 n) = n :=
  Nat.ofDigitChars_toDigits (by decide) (by decide)

theorem digitsLexeme_nil (h : n ≤ Number.top) :
    digitsLexeme [] n = .number (String.ofList (Nat.toDigits 10 n)) (.int n) := by
  simp [digitsLexeme, numberOf, Number.Parts.value?, decimal_toDigits, h]

theorem digitsLexeme_minus (hpos : 0 < n) (h : n ≤ Nat.pow 2 63) :
    digitsLexeme ['-'] n = .number (String.ofList ('-' :: Nat.toDigits 10 n)) (.int (.neg n)) := by
  have hfits : (decide (0 < n) && decide (n ≤ Nat.pow 2 63)) = true := by
    rw [Bool.and_eq_true, decide_eq_true_eq, decide_eq_true_eq]
    exact ⟨hpos, h⟩
  simp only [digitsLexeme, numberOf, Number.Parts.value?, decimal_toDigits, Option.isNone_none, Bool.and_self,
    decide_true, Bool.not_true, Bool.and_false, Bool.false_and, Bool.false_eq_true, if_false, Bool.true_and, hfits, if_true,
    List.singleton_append, Option.getD_some]

theorem scanLexeme_number {c : Char} (hc : (isSign c || c.isDigit) = true) :
    scanLexeme (c :: rest) = scanNumber (c :: rest) := by
  have hmarks : ['\x7b', '\x7d', '[', ']', ',', ':', '"', '\'', '/'].all (fun m => !(isSign m || m.isDigit)) := rfl
  have hne : ∀ m ∈ ['\x7b', '\x7d', '[', ']', ',', ':', '"', '\'', '/'], c ≠ m := by
    rintro m hm rfl
    have hm := List.all_eq_true.mp hmarks c hm
    rw [hc] at hm
    nomatch hm
  simp only [List.forall_mem_cons] at hne
  simp [scanLexeme, hc, hne]

def Fits (n : Int) : Prop := -2 ^ 63 ≤ n ∧ n < 2 ^ 64

theorem begins_toDigits (hsign : sign = [] ∨ sign = ['-']) :
    ∃ c cs, sign ++ Nat.toDigits 10 n = c :: cs ∧ (isSign c || c.isDigit) = true := by
  obtain ⟨c, cs, hds, hdigit⟩ := exists_toDigits_eq_cons n
  rcases hsign with rfl | rfl
  · exact ⟨c, cs, hds, by rw [hdigit, Bool.or_true]⟩
  · exact ⟨'-', c :: cs, by rw [hds]; rfl, rfl⟩

theorem isBlank_number {c : Char} (hc : (isSign c || c.isDigit) = true) : Unicode.isBlank c = false := by
  have hcode : c.toNat = 43 ∨ c.toNat = 45 ∨ 48 ≤ c.toNat ∧ c.toNat ≤ 57 := by
    rcases Bool.or_eq_true_iff.mp hc with hsign | hdigit
    · rcases Bool.or_eq_true_iff.mp hsign with hminus | hplus
      · exact .inr (.inl (by rw [beq_iff_eq.mp hminus]; rfl))
      · exact .inl (by rw [beq_iff_eq.mp hplus]; rfl)
    · exact .inr (.inr (Char.isDigit_iff_toNat.mp hdigit))
  simp [Unicode.isBlank, Unicode.inRanges, Unicode.blankRanges]
  omega

theorem spelled_digits (hsign : sign = [] ∨ sign = ['-']) :
    Spelled (sign ++ Nat.toDigits 10 n) [digitsLexeme sign n] := by
  obtain ⟨c, cs, hcons, hc⟩ := begins_toDigits hsign (n := n)
  have hslash : c ≠ '/' := by
    rintro rfl
    nomatch hc
  refine spelled_of_scan ⟨c, cs, hcons, isBlank_number hc, hslash⟩ fun rest hbreaks => ?_
  rw [hcons, List.cons_append, scanLexeme_number hc, ← List.cons_append, ← hcons, List.append_assoc]
  exact scanNumber_toDigits hsign hbreaks

theorem spelled_int {n : Int} (h : Fits n) : Spelled (toString n).toList [.number (toString n) (.int n)] := by
  obtain ⟨hmin, hmax⟩ := h
  cases n with
  | ofNat m =>
      have htext : (toString (Int.ofNat m)).toList = Nat.toDigits 10 m := Nat.toList_repr
      have hle : m ≤ Number.top := by
        simp only [Number.top, UInt64.size, Int.ofNat_eq_natCast] at hmax ⊢
        omega
      have hspelled := spelled_digits (.inl rfl) (n := m)
      rw [List.nil_append, digitsLexeme_nil hle, ← htext, String.ofList_toList] at hspelled
      exact hspelled
  | negSucc m =>
      have htext : (toString (Int.negSucc m)).toList = '-' :: Nat.toDigits 10 (m + 1) := by
        rw [← Nat.toList_repr]
        exact String.toList_append
      have hle : m + 1 ≤ Nat.pow 2 63 := by
        change m + 1 ≤ 9223372036854775808
        omega
      have hspelled := spelled_digits (.inr rfl) (n := m + 1)
      rw [List.singleton_append, digitsLexeme_minus (Nat.succ_pos m) hle, ← htext, String.ofList_toList] at hspelled
      exact hspelled

end Numbers

theorem scanLexeme_keyword {name : String} (hname : (name, l) ∈ keywords) (h : Breaks rest) :
    scanLexeme (name.toList ++ rest) = .ok (l, rest) := by
  simp only [keywords, List.mem_cons, List.not_mem_nil, or_false, Prod.mk.injEq] at hname
  rcases hname with ⟨rfl, rfl⟩ | ⟨rfl, rfl⟩ | ⟨rfl, rfl⟩ <;> obtain rfl | ⟨rest, rfl | rfl⟩ := h <;> rfl

theorem spelled_keyword {name : String} (hname : (name, l) ∈ keywords) : Spelled name.toList [l] := by
  have hbegins : Begins name.toList := by
    simp only [keywords, List.mem_cons, List.not_mem_nil, or_false, Prod.mk.injEq] at hname
    rcases hname with ⟨rfl, _⟩ | ⟨rfl, _⟩ | ⟨rfl, _⟩
    · exact ⟨'t', _, rfl, by decide, by decide⟩
    · exact ⟨'f', _, rfl, by decide, by decide⟩
    · exact ⟨'n', _, rfl, by decide, by decide⟩
  exact spelled_of_scan hbegins fun _ => scanLexeme_keyword hname

/-- A character that is a lexeme by itself, whatever comes after it. -/
def Mark (c : Char) (l : Lexeme) : Prop := Begins [c] ∧ ∀ rest, scanLexeme (c :: rest) = .ok (l, rest)

theorem Mark.spells {c : Char} (hmark : Mark c l) (h : Spells rest ls) : Spells (c :: rest) (l :: ls) :=
  Spells.head hmark.1 (hmark.2 rest) h

theorem mark_comma : Mark ',' .comma := ⟨⟨',', [], rfl, by decide, by decide⟩, fun _ => rfl⟩

theorem mark_colon : Mark ':' .colon := ⟨⟨':', [], rfl, by decide, by decide⟩, fun _ => rfl⟩

theorem mark_openBracket : Mark '[' .openBracket := ⟨⟨'[', [], rfl, by decide, by decide⟩, fun _ => rfl⟩

theorem mark_closeBracket : Mark ']' .closeBracket := ⟨⟨']', [], rfl, by decide, by decide⟩, fun _ => rfl⟩

theorem mark_openBrace : Mark '\x7b' .openBrace := ⟨⟨'\x7b', [], rfl, by decide, by decide⟩, fun _ => rfl⟩

theorem mark_closeBrace : Mark '\x7d' .closeBrace := ⟨⟨'\x7d', [], rfl, by decide, by decide⟩, fun _ => rfl⟩

end LineLimit.Json.Relaxed

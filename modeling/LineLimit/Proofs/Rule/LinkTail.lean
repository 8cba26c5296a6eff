import LineLimit.Rule.LinkTail
import Mathlib.Data.List.Basic
/-!
The texts that end in a link: some characters, a link with anything between its brackets but line feeds, and marks
where they may follow. The test needs no matching for this. Of all links that a text can end in, one starts at the
first opening bracket of the last line, and taking all marks away loses no link, since none ends in a mark.
-/

namespace LineLimit.LinkTail

/-- A link, with what stands between its brackets. -/
inductive Link
  | inline (text url : List Char)
  | auto (url : List Char)
  deriving DecidableEq, Repr

namespace Link

def chars : Link → List Char
  | inline text url => ['['] ++ text ++ [']', '('] ++ url ++ [')']
  | auto url => ['<'] ++ url ++ ['>']

def inside : Link → List Char
  | inline text url => text ++ url
  | auto url => url

def closer : Link → Char
  | inline _ _ => ')'
  | auto _ => '>'

theorem exists_chars_eq (l : Link) : ∃ init, l.chars = init ++ [l.closer] := by
  cases l with
  | inline text url => exact ⟨_, rfl⟩
  | auto url => exact ⟨_, rfl⟩

theorem getLast?_append_chars (l : Link) (p : List Char) : (p ++ l.chars).getLast? = some l.closer := by
  obtain ⟨init, h⟩ := l.exists_chars_eq
  rw [h, ← List.append_assoc, List.getLast?_concat]

theorem closer_not_mem_punctuation (l : Link) : l.closer ∉ punctuation := by
  cases l with
  | inline text url => exact (by decide : ')' ∉ punctuation)
  | auto url => exact (by decide : '>' ∉ punctuation)

theorem not_mem_chars {l : Link} (h : '\n' ∉ l.inside) : '\n' ∉ l.chars := by
  cases l with
  | inline text url =>
      simp only [inside, List.mem_append, not_or] at h
      simp [chars, h]
  | auto url =>
      simp only [inside] at h
      simp [chars, h]

end Link

/-- What may come after a link at the end of a text: marks when they are allowed, and otherwise nothing. -/
def MayFollow : Bool → List Char → Prop
  | true, q => ∀ c ∈ q, c ∈ punctuation
  | false, q => q = []

theorem MayFollow.mem_punctuation {marks : Bool} {q : List Char} (h : MayFollow marks q) :
    ∀ c ∈ q, c ∈ punctuation := by
  cases marks with
  | true => exact h
  | false =>
      rw [show q = [] from h]
      exact fun c hc => nomatch hc

theorem mayFollow_iff {marks : Bool} {q : List Char} :
    MayFollow marks q ↔ if marks then ∀ c ∈ q, c ∈ punctuation else q = [] := by
  cases marks with
  | true => rfl
  | false => rfl

theorem lastLine_append {t : List Char} (h : '\n' ∉ t) (s : List Char) : lastLine (s ++ t) = lastLine s ++ t := by
  have hrest : ∀ c ∈ t.reverse, decide (c ≠ '\n') = true := by
    intro c hc
    apply decide_eq_true
    rintro rfl
    exact h (List.mem_reverse.mp hc)
  simp only [lastLine, List.reverse_append, List.takeWhile_append_of_pos hrest, List.reverse_reverse]

theorem lf_not_mem_lastLine (s : List Char) : '\n' ∉ lastLine s := by
  intro h
  have hall := List.all_takeWhile (l := s.reverse) (p := fun c => decide (c ≠ '\n'))
  have hlf := List.all_eq_true.mp hall '\n' (List.mem_reverse.mp h)
  exact of_decide_eq_true hlf rfl

theorem exists_eq_append_lastLine (s : List Char) : ∃ before, s = before ++ lastLine s := by
  refine ⟨(s.reverse.dropWhile (· ≠ '\n')).reverse, ?_⟩
  rw [lastLine, ← List.reverse_append, List.takeWhile_append_dropWhile, List.reverse_reverse]

theorem hasJoint_iff {s : List Char} : hasJoint s = true ↔ ∃ a b, s = a ++ ']' :: '(' :: b := by
  fun_induction hasJoint s with
  | case1 rest => exact ⟨fun _ => ⟨[], rest, rfl⟩, fun _ => rfl⟩
  | case2 c rest hc ih =>
      rw [ih]
      constructor
      · rintro ⟨a, b, rfl⟩
        exact ⟨c :: a, b, rfl⟩
      · rintro ⟨a, b, h⟩
        cases a with
        | nil =>
            cases h
            exact absurd rfl (hc b rfl)
        | cons x a =>
            cases h
            exact ⟨a, b, rfl⟩
  | case3 =>
      constructor
      · exact nofun
      · rintro ⟨a, b, h⟩
        exact absurd h.symm (List.append_ne_nil_of_right_ne_nil a (List.cons_ne_nil _ _))

/-- After the first opening bracket there is a joint when there is one after any opening bracket. -/
theorem hasJoint_opener_iff {s : List Char} :
    hasJoint ((s.dropWhile (· ≠ '[')).drop 1) = true ↔ ∃ a t b, s = a ++ '[' :: (t ++ ']' :: '(' :: b) := by
  induction s with
  | nil =>
      constructor
      · exact nofun
      · rintro ⟨a, t, b, h⟩
        exact absurd h.symm (List.append_ne_nil_of_right_ne_nil a (List.cons_ne_nil _ _))
  | cons c s ih =>
      by_cases hc : c = '['
      · subst hc
        change hasJoint s = true ↔ _
        rw [hasJoint_iff]
        constructor
        · rintro ⟨t, b, rfl⟩
          exact ⟨[], t, b, rfl⟩
        · rintro ⟨a, t, b, h⟩
          cases a with
          | nil =>
              cases h
              exact ⟨t, b, rfl⟩
          | cons x a =>
              rw [List.cons_append] at h
              cases h
              exact ⟨a ++ '[' :: t, b, by rw [List.append_assoc, List.cons_append]⟩
      · rw [List.dropWhile_cons_of_pos (by simpa using hc), ih]
        constructor
        · rintro ⟨a, t, b, rfl⟩
          exact ⟨c :: a, t, b, rfl⟩
        · rintro ⟨a, t, b, h⟩
          cases a with
          | nil =>
              cases h
              exact absurd rfl hc
          | cons x a =>
              rw [List.cons_append] at h
              cases h
              exact ⟨a, t, b, rfl⟩

/-- A text that ends in `x` has something after each other character. -/
theorem exists_concat_of_getLast? {a b : List Char} {x y : Char} (h : (a ++ y :: b).getLast? = some x)
    (hne : y ≠ x) : ∃ u, b = u ++ [x] := by
  rcases List.eq_nil_or_concat' b with rfl | ⟨u, c, rfl⟩
  · rw [List.getLast?_concat] at h
    exact absurd (Option.some.inj h) hne
  · rw [← List.cons_append, ← List.append_assoc, List.getLast?_concat] at h
    rw [Option.some.inj h]
    exact ⟨u, rfl⟩

/-- The last line ends in a link with the bracket that closes it, when an opening bracket can be found for it. -/
theorem exists_link_of_endsExactly {s : List Char} (h : endsExactly s = true) :
    ∃ p l, s = p ++ Link.chars l ∧ '\n' ∉ l.inside := by
  obtain ⟨before, hs⟩ := exists_eq_append_lastLine s
  have hlf := lf_not_mem_lastLine s
  generalize hline : lastLine s = line at hs hlf
  simp only [endsExactly, hline] at h
  split at h
  · next hlast =>
      obtain ⟨a, t, b, rfl⟩ := hasJoint_opener_iff.mp h
      have hjoint : a ++ '[' :: (t ++ ']' :: '(' :: b) = (a ++ '[' :: (t ++ [']'])) ++ '(' :: b := by simp
      rw [hjoint] at hlast
      obtain ⟨u, rfl⟩ := exists_concat_of_getLast? hlast (by decide)
      refine ⟨before ++ a, .inline t u, by simp [hs, Link.chars], ?_⟩
      simp only [Link.inside, List.mem_append, List.mem_cons, not_or] at hlf ⊢
      exact ⟨hlf.2.2.1, hlf.2.2.2.2.2.1⟩
  · next hlast =>
      obtain ⟨a, b, rfl⟩ := List.append_of_mem (List.contains_iff_mem.mp h)
      obtain ⟨u, rfl⟩ := exists_concat_of_getLast? hlast (by decide)
      refine ⟨before ++ a, .auto u, by simp [hs, Link.chars], ?_⟩
      simp only [Link.inside, List.mem_append, List.mem_cons, not_or] at hlf ⊢
      exact hlf.2.2.1
  · exact nomatch h

theorem endsExactly_append_chars {l : Link} (h : '\n' ∉ l.inside) (p : List Char) :
    endsExactly (p ++ l.chars) = true := by
  have hline : lastLine (p ++ l.chars) = lastLine p ++ l.chars := lastLine_append (Link.not_mem_chars h) p
  have hlast := l.getLast?_append_chars (lastLine p)
  cases l with
  | inline t u =>
      simp only [endsExactly, hline, hlast, Link.closer]
      exact hasJoint_opener_iff.mpr ⟨lastLine p, t, u ++ [')'], by simp [Link.chars]⟩
  | auto u =>
      simp only [endsExactly, hline, hlast, Link.closer]
      simp [Link.chars]

theorem endsExactly_iff {s : List Char} :
    endsExactly s = true ↔ ∃ p l, s = p ++ Link.chars l ∧ '\n' ∉ l.inside := by
  constructor
  · exact exists_link_of_endsExactly
  · rintro ⟨p, l, rfl, hl⟩
    exact endsExactly_append_chars hl p

/-- The text without the longest run of marks at its end. -/
structure Trimmed (s kept : List Char) : Prop where
  run : ∃ q, s = kept ++ q ∧ ∀ c ∈ q, c ∈ punctuation
  last : ∀ c ∈ kept.getLast?, c ∉ punctuation

theorem trimMarks_concat {c : Char} (h : c ∉ punctuation) (s : List Char) : trimMarks (s ++ [c]) = s ++ [c] := by
  have hc : punctuation.contains c = false := by
    simpa using h
  simp only [trimMarks, List.reverse_append, List.reverse_singleton, List.singleton_append,
    List.dropWhile_cons, hc, Bool.false_eq_true, if_false]
  simp

theorem trimMarks_append {q : List Char} (h : ∀ c ∈ q, c ∈ punctuation) (s : List Char) :
    trimMarks (s ++ q) = trimMarks s := by
  have hq : ∀ c ∈ q.reverse, punctuation.contains c = true := by
    intro c hc
    exact List.contains_iff_mem.mpr (h c (List.mem_reverse.mp hc))
  simp only [trimMarks, List.reverse_append, List.dropWhile_append_of_pos hq]

theorem trimMarks_append_chars (l : Link) (p : List Char) : trimMarks (p ++ l.chars) = p ++ l.chars := by
  obtain ⟨init, h⟩ := l.exists_chars_eq
  rw [h, ← List.append_assoc]
  exact trimMarks_concat l.closer_not_mem_punctuation (p ++ init)

theorem trimmed_trimMarks (s : List Char) : Trimmed s (trimMarks s) where
  run := by
    refine ⟨(s.reverse.takeWhile (punctuation.contains ·)).reverse, ?_, ?_⟩
    · rw [trimMarks, ← List.reverse_append, List.takeWhile_append_dropWhile, List.reverse_reverse]
    · intro c hc
      have hall := List.all_takeWhile (l := s.reverse) (p := (punctuation.contains ·))
      exact List.contains_iff_mem.mp (List.all_eq_true.mp hall c (List.mem_reverse.mp hc))
  last := by
    intro c hc hmark
    rw [trimMarks, List.getLast?_reverse] at hc
    have hstop := List.head?_dropWhile_not (punctuation.contains ·) s.reverse
    rw [hc] at hstop
    simp [hmark] at hstop

theorem Trimmed.eq_trimMarks {s kept : List Char} (h : Trimmed s kept) : kept = trimMarks s := by
  obtain ⟨q, rfl, hq⟩ := h.run
  rw [trimMarks_append hq]
  rcases List.eq_nil_or_concat' kept with rfl | ⟨init, c, rfl⟩
  · rfl
  · exact (trimMarks_concat (h.last c List.getLast?_concat) init).symm

def EndsInLink (marks : Bool) (s : List Char) : Prop :=
  ∃ p l q, s = p ++ Link.chars l ++ q ∧ '\n' ∉ l.inside ∧ MayFollow marks q

/-- Taking all marks away loses no link, since none ends in a mark. -/
theorem ends_iff {s : List Char} {marks : Bool} : ends s marks = true ↔ EndsInLink marks s := by
  cases marks with
  | true =>
      change endsExactly (trimMarks s) = true ↔ _
      rw [endsExactly_iff]
      constructor
      · rintro ⟨p, l, hp, hl⟩
        obtain ⟨q, hs, hq⟩ := (trimmed_trimMarks s).run
        rw [hp] at hs
        exact ⟨p, l, q, hs, hl, hq⟩
      · rintro ⟨p, l, q, rfl, hl, hq⟩
        rw [trimMarks_append hq, trimMarks_append_chars]
        exact ⟨p, l, rfl, hl⟩
  | false =>
      change endsExactly s = true ↔ _
      rw [endsExactly_iff]
      constructor
      · rintro ⟨p, l, rfl, hl⟩
        exact ⟨p, l, [], (List.append_nil _).symm, hl, rfl⟩
      · rintro ⟨p, l, q, rfl, hl, rfl⟩
        exact ⟨p, l, List.append_nil _, hl⟩

/-- Where marks may follow, a text ends in a link when it does so without its marks. -/
theorem Trimmed.endsInLink_iff {s kept : List Char} (h : Trimmed s kept) : EndsInLink true s ↔ EndsInLink false kept := by
  constructor
  · rintro ⟨p, l, q, rfl, hl, hq⟩
    -- the link ends in a bracket, so the run of marks is what comes after it and no more
    have hkept : kept = p ++ l.chars := by
      rw [h.eq_trimMarks, trimMarks_append hq, trimMarks_append_chars]
    exact ⟨p, l, [], by rw [hkept, List.append_nil], hl, rfl⟩
  · rintro ⟨p, l, q, rfl, hl, rfl⟩
    obtain ⟨run, hs, hrun⟩ := h.run
    rw [List.append_nil] at hs
    exact ⟨p, l, run, hs, hl, hrun⟩

theorem EndsInLink.mono {marks more : Bool} {s : List Char} (hm : marks = true → more = true)
    (h : EndsInLink marks s) : EndsInLink more s := by
  obtain ⟨p, l, q, hs, hl, hq⟩ := h
  refine ⟨p, l, q, hs, hl, ?_⟩
  cases more with
  | true => exact hq.mem_punctuation
  | false =>
      cases marks with
      | true => exact nomatch hm rfl
      | false => exact hq

/-- A line that ends in a link still does when marks may follow. -/
theorem ends_mono {s : List Char} {marks more : Bool} (hm : marks = true → more = true)
    (h : ends s marks = true) : ends s more = true :=
  ends_iff.mpr ((ends_iff.mp h).mono hm)

end LineLimit.LinkTail

/-!
Patterns for parts of a text. A pattern is looked for anywhere in a text, and it is found when some part of the text
has the form that it describes. It may ask that the text ends after the part, so that the form of a part depends on
the characters after it.
-/

namespace LineLimit

/-- The forms that a part of a text can be asked to have. -/
inductive Pattern
  | oneOf (chars : List Char)
  | noneOf (chars : List Char)
  | many (p : Pattern)
  | seq (p q : Pattern)
  | either (p q : Pattern)
  | textEnd
  deriving DecidableEq, Repr

namespace Pattern

/-- The part has the form, when the text goes on with `after`. -/
inductive Matches : Pattern → List Char → List Char → Prop
  | oneOf {chars c after} : c ∈ chars → Matches (.oneOf chars) [c] after
  | noneOf {chars c after} : c ∉ chars → Matches (.noneOf chars) [c] after
  | stop {p after} : Matches (.many p) [] after
  | more {p s t after} : Matches p s (t ++ after) → Matches (.many p) t after → Matches (.many p) (s ++ t) after
  | seq {p q s t after} : Matches p s (t ++ after) → Matches q t after → Matches (.seq p q) (s ++ t) after
  | left {p q s after} : Matches p s after → Matches (.either p q) s after
  | right {p q s after} : Matches q s after → Matches (.either p q) s after
  | textEnd : Matches .textEnd [] []

def FoundIn (p : Pattern) (s : List Char) : Prop :=
  ∃ before part after, s = before ++ (part ++ after) ∧ Matches p part after

variable {p q : Pattern} {chars part after : List Char}

theorem matches_oneOf_iff : Matches (.oneOf chars) part after ↔ ∃ c, c ∈ chars ∧ part = [c] := by
  constructor
  · intro h
    cases h with
    | @oneOf _ c _ hc => exact ⟨c, hc, rfl⟩
  · rintro ⟨c, hc, rfl⟩
    exact .oneOf hc

theorem matches_noneOf_iff : Matches (.noneOf chars) part after ↔ ∃ c, c ∉ chars ∧ part = [c] := by
  constructor
  · intro h
    cases h with
    | @noneOf _ c _ hc => exact ⟨c, hc, rfl⟩
  · rintro ⟨c, hc, rfl⟩
    exact .noneOf hc

theorem matches_seq_iff :
    Matches (.seq p q) part after ↔ ∃ s t, part = s ++ t ∧ Matches p s (t ++ after) ∧ Matches q t after := by
  constructor
  · intro h
    cases h with
    | @seq _ _ s t _ hp hq => exact ⟨s, t, rfl, hp, hq⟩
  · rintro ⟨s, t, rfl, hp, hq⟩
    exact .seq hp hq

theorem matches_either_iff : Matches (.either p q) part after ↔ Matches p part after ∨ Matches q part after := by
  constructor
  · intro h
    cases h with
    | left hp => exact .inl hp
    | right hq => exact .inr hq
  · rintro (hp | hq)
    · exact .left hp
    · exact .right hq

theorem matches_textEnd_iff : Matches .textEnd part after ↔ part = [] ∧ after = [] := by
  constructor
  · intro h
    cases h with
    | textEnd => exact ⟨rfl, rfl⟩
  · rintro ⟨rfl, rfl⟩
    exact .textEnd

/-- Where a pattern describes single characters, its repetitions describe the texts of such characters. -/
theorem matches_many_iff {allowed : Char → Prop}
    (hp : ∀ part after, Matches p part after ↔ ∃ c, allowed c ∧ part = [c]) :
    Matches (.many p) part after ↔ ∀ c ∈ part, allowed c := by
  constructor
  · intro h
    generalize hr : Pattern.many p = r at h
    induction h with
    | stop => exact fun c hc => nomatch hc
    | @more p' s t after hs ht _ ih =>
        cases hr
        obtain ⟨c, hc, rfl⟩ := (hp s _).mp hs
        exact List.forall_mem_cons.mpr ⟨hc, ih rfl⟩
    | oneOf | noneOf | seq | left | right | textEnd => exact nomatch hr
  · intro h
    induction part with
    | nil => exact .stop
    | cons c rest ih =>
        obtain ⟨hc, hrest⟩ := List.forall_mem_cons.mp h
        exact .more (s := [c]) ((hp [c] _).mpr ⟨c, hc, rfl⟩) (ih hrest)

theorem matches_char_iff {c : Char} : Matches (.oneOf [c]) part after ↔ part = [c] := by
  rw [matches_oneOf_iff]
  simp only [List.mem_singleton, exists_eq_left]

theorem matches_char_seq_iff {c : Char} :
    Matches (.seq (.oneOf [c]) q) part after ↔ ∃ rest, part = c :: rest ∧ Matches q rest after := by
  rw [matches_seq_iff]
  constructor
  · rintro ⟨s, t, rfl, hs, ht⟩
    rw [matches_char_iff.mp hs]
    exact ⟨t, rfl, ht⟩
  · rintro ⟨rest, rfl, hrest⟩
    exact ⟨[c], rest, rfl, matches_char_iff.mpr rfl, hrest⟩

theorem matches_noneOf_seq_iff {c : Char} :
    Matches (.seq (.many (.noneOf [c])) q) part after ↔ ∃ s rest, part = s ++ rest ∧ c ∉ s ∧ Matches q rest after := by
  have hfree : ∀ s : List Char, (∀ x ∈ s, x ∉ [c]) ↔ c ∉ s := by
    intro s
    simp only [List.mem_singleton]
    constructor
    · intro h hc
      exact h c hc rfl
    · rintro h x hx rfl
      exact h hx
  rw [matches_seq_iff]
  simp only [matches_many_iff fun _ _ => matches_noneOf_iff, hfree]

/-- What has to stand at the end of a text is found where the text ends. -/
theorem foundIn_textEnd_iff {s : List Char} :
    FoundIn (.seq p .textEnd) s ↔ ∃ before part, s = before ++ part ∧ Matches p part [] := by
  constructor
  · rintro ⟨before, part, after, rfl, h⟩
    obtain ⟨u, v, rfl, hu, hv⟩ := matches_seq_iff.mp h
    obtain ⟨rfl, rfl⟩ := matches_textEnd_iff.mp hv
    exact ⟨before, u, by simp only [List.append_nil], hu⟩
  · rintro ⟨before, part, rfl, h⟩
    refine ⟨before, part, [], by rw [List.append_nil], ?_⟩
    exact matches_seq_iff.mpr ⟨part, [], by rw [List.append_nil], h, .textEnd⟩

end Pattern

end LineLimit

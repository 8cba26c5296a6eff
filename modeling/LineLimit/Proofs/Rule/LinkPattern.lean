import LineLimit.Proofs.Rule.LinkTail
import LineLimit.Proofs.Text.Pattern
/-!
The test for a link as a search. There is one pattern for a link with nothing after it and one for a link before marks.
The test finds what a search for these patterns finds, and the patterns differ in nothing but the marks.
-/

namespace LineLimit.LinkTail

def anyText : Pattern := .many (.noneOf ['\n'])

def inlinePattern : Pattern :=
  .seq (.oneOf ['[']) (.seq anyText (.seq (.oneOf [']']) (.seq (.oneOf ['(']) (.seq anyText (.oneOf [')'])))))

def autoPattern : Pattern := .seq (.oneOf ['<']) (.seq anyText (.oneOf ['>']))

def linkPattern : Pattern := .either inlinePattern autoPattern

/-- The form of the end of a text with a link, where marks may follow and where they may not. -/
def pattern : Bool → Pattern
  | true => .seq (.seq linkPattern (.many (.oneOf punctuation))) .textEnd
  | false => .seq linkPattern .textEnd

theorem matches_inlinePattern_iff {part after : List Char} :
    inlinePattern.Matches part after ↔
      ∃ text url, part = (Link.inline text url).chars ∧ '\n' ∉ text ∧ '\n' ∉ url := by
  simp only [inlinePattern, anyText, Pattern.matches_char_seq_iff, Pattern.matches_noneOf_seq_iff,
    Pattern.matches_char_iff]
  constructor
  · rintro ⟨_, rfl, text, _, rfl, htext, _, rfl, _, rfl, url, _, rfl, hurl, rfl⟩
    exact ⟨text, url, by simp [Link.chars], htext, hurl⟩
  · rintro ⟨text, url, rfl, htext, hurl⟩
    exact ⟨_, by simp [Link.chars], text, _, rfl, htext, _, rfl, _, rfl, url, _, rfl, hurl, rfl⟩

theorem matches_autoPattern_iff {part after : List Char} :
    autoPattern.Matches part after ↔ ∃ url, part = (Link.auto url).chars ∧ '\n' ∉ url := by
  simp only [autoPattern, anyText, Pattern.matches_char_seq_iff, Pattern.matches_noneOf_seq_iff,
    Pattern.matches_char_iff]
  constructor
  · rintro ⟨_, rfl, url, _, rfl, hurl, rfl⟩
    exact ⟨url, by simp [Link.chars], hurl⟩
  · rintro ⟨url, rfl, hurl⟩
    exact ⟨_, by simp [Link.chars], url, _, rfl, hurl, rfl⟩

theorem matches_linkPattern_iff {part after : List Char} :
    linkPattern.Matches part after ↔ ∃ l, part = Link.chars l ∧ '\n' ∉ l.inside := by
  rw [linkPattern, Pattern.matches_either_iff, matches_inlinePattern_iff, matches_autoPattern_iff]
  constructor
  · rintro (⟨text, url, h, htext, hurl⟩ | ⟨url, h, hurl⟩)
    · exact ⟨.inline text url, h, by simp [Link.inside, htext, hurl]⟩
    · exact ⟨.auto url, h, hurl⟩
  · rintro ⟨l, h, hl⟩
    cases l with
    | inline text url =>
        simp only [Link.inside, List.mem_append, not_or] at hl
        exact .inl ⟨text, url, h, hl⟩
    | auto url => exact .inr ⟨url, h, hl⟩

theorem foundIn_pattern_iff {s : List Char} {marks : Bool} : (pattern marks).FoundIn s ↔ EndsInLink marks s := by
  cases marks with
  | true =>
      rw [pattern, Pattern.foundIn_textEnd_iff]
      constructor
      · rintro ⟨p, part, rfl, h⟩
        obtain ⟨s, q, rfl, hs, hq⟩ := Pattern.matches_seq_iff.mp h
        obtain ⟨l, rfl, hl⟩ := matches_linkPattern_iff.mp hs
        have hmarks := (Pattern.matches_many_iff fun _ _ => Pattern.matches_oneOf_iff).mp hq
        exact ⟨p, l, q, (List.append_assoc _ _ _).symm, hl, hmarks⟩
      · rintro ⟨p, l, q, rfl, hl, hq⟩
        refine ⟨p, l.chars ++ q, List.append_assoc _ _ _, ?_⟩
        apply Pattern.Matches.seq
        · exact matches_linkPattern_iff.mpr ⟨l, rfl, hl⟩
        · exact (Pattern.matches_many_iff fun _ _ => Pattern.matches_oneOf_iff).mpr hq
  | false =>
      rw [pattern, Pattern.foundIn_textEnd_iff]
      constructor
      · rintro ⟨p, part, rfl, h⟩
        obtain ⟨l, rfl, hl⟩ := matches_linkPattern_iff.mp h
        exact ⟨p, l, [], (List.append_nil _).symm, hl, rfl⟩
      · rintro ⟨p, l, q, rfl, hl, rfl⟩
        exact ⟨p, l.chars, List.append_nil _, matches_linkPattern_iff.mpr ⟨l, rfl, hl⟩⟩

theorem ends_iff_foundIn {s : List Char} {marks : Bool} : ends s marks = true ↔ (pattern marks).FoundIn s :=
  ends_iff.trans foundIn_pattern_iff.symm

/-- The test and the search for its pattern find the same texts: those with a link that has no line feed inside,
at the very end or before marks where they are allowed. -/
theorem ends_language (s : List Char) (marks : Bool) :
    (ends s marks = true ↔ (pattern marks).FoundIn s) ∧
    (ends s marks = true ↔
      ∃ p t u q, (s = p ++ ['['] ++ t ++ [']', '('] ++ u ++ [')'] ++ q ∨ s = p ++ ['<'] ++ u ++ ['>'] ++ q) ∧
        '\n' ∉ t ∧ '\n' ∉ u ∧ if marks then ∀ c ∈ q, c ∈ punctuation else q = []) := by
  refine ⟨ends_iff_foundIn, ends_iff.trans ?_⟩
  constructor
  · rintro ⟨p, l, q, rfl, hl, hq⟩
    cases l with
    | inline t u =>
        simp only [Link.inside, List.mem_append, not_or] at hl
        exact ⟨p, t, u, q, .inl (by simp [Link.chars]), hl.1, hl.2, mayFollow_iff.mp hq⟩
    | auto u => exact ⟨p, [], u, q, .inr (by simp [Link.chars]), List.not_mem_nil, hl, mayFollow_iff.mp hq⟩
  · rintro ⟨p, t, u, q, rfl | rfl, ht, hu, hq⟩
    · exact ⟨p, .inline t u, q, by simp [Link.chars], by simp [Link.inside, ht, hu], mayFollow_iff.mpr hq⟩
    · exact ⟨p, .auto u, q, by simp [Link.chars], hu, mayFollow_iff.mpr hq⟩

/-- Every text has one part without the marks at its end, and the first pattern is found in the text when the second
one is found in this part. So it is with the test, and what the second pattern finds, the first one finds too. -/
theorem marks_agree :
    (∀ s, ∃! kept, Trimmed s kept) ∧
    (∀ s kept, Trimmed s kept →
      ((pattern true).FoundIn s ↔ (pattern false).FoundIn kept) ∧ ends s true = ends kept false) ∧
    ∀ s, ((pattern false).FoundIn s → (pattern true).FoundIn s) ∧ (ends s false = true → ends s true = true) := by
  refine ⟨?_, ?_, ?_⟩
  · intro s
    exact ⟨trimMarks s, trimmed_trimMarks s, fun _ h => h.eq_trimMarks⟩
  · intro s kept h
    refine ⟨?_, ?_⟩
    · rw [foundIn_pattern_iff, foundIn_pattern_iff]
      exact h.endsInLink_iff
    · rw [Bool.eq_iff_iff, ends_iff, ends_iff]
      exact h.endsInLink_iff
  · intro s
    refine ⟨?_, ends_mono nofun⟩
    rw [foundIn_pattern_iff, foundIn_pattern_iff]
    exact EndsInLink.mono nofun

/-- Three marks are taken away, and the mark inside the link stays. -/
theorem marks_agree_run :
    let kept := "see [docs](a?b)".toList
    let s := kept ++ ['?', '!', '.']
    Trimmed s kept ∧ (pattern true).FoundIn s ∧ ends s true = ends kept false ∧ ends s false = false := by
  intro kept s
  have htrimmed : Trimmed s kept := ⟨⟨['?', '!', '.'], rfl, by simp [punctuation]⟩, by simp [kept, punctuation]⟩
  obtain ⟨hfound, hends⟩ := marks_agree.2.1 s kept htrimmed
  have hexact : ends kept false = true := by decide
  exact ⟨htrimmed, hfound.mpr (ends_iff_foundIn.mp hexact), hends, by decide⟩

end LineLimit.LinkTail

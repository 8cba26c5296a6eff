import LineLimit.Proofs.Rule.LinkTail
import LineLimit.Proofs.Rule.Locality
/-!
Links in the middle of a line. A line whose only link is followed by more text should not be excused by this link.
It is excused all the same when the text after the link goes to a bracket like the one that closes the link, since
then all from the opening bracket to this other one passes for a link.
-/

namespace LineLimit

namespace LinkTail

def openers : List Char := ['[', '<']

def brackets : List Char := ['[', ']', '(', ')', '<', '>']

theorem openers_subset_brackets : openers ⊆ brackets := by decide

namespace Link

def opener : Link → Char
  | inline _ _ => '['
  | auto _ => '<'

/-- The link that takes in more text, up to another closing bracket. -/
def extend : Link → List Char → Link
  | inline text url, more => inline text (url ++ [')'] ++ more)
  | auto url, more => auto (url ++ ['>'] ++ more)

theorem chars_extend (l : Link) (more : List Char) : (l.extend more).chars = l.chars ++ more ++ [l.closer] := by
  cases l with
  | inline text url => simp [extend, chars, closer]
  | auto url => simp [extend, chars, closer]

theorem inside_subset_chars (l : Link) : l.inside ⊆ l.chars := by
  cases l with
  | inline text url =>
      intro c hc
      rcases List.mem_append.mp hc with hc | hc
      · simp [chars, hc]
      · simp [chars, hc]
  | auto url => simp [inside, chars]

theorem opener_mem_openers (l : Link) : l.opener ∈ openers := by
  cases l with
  | inline text url => exact (by decide : '[' ∈ openers)
  | auto url => exact (by decide : '<' ∈ openers)

theorem opener_mem_chars (l : Link) : l.opener ∈ l.chars := by
  cases l with
  | inline text url => simp [opener, chars]
  | auto url => simp [opener, chars]

/-- The kind of a link is known by its opening bracket. -/
theorem closer_eq_of_opener_eq {l l' : Link} (h : l'.opener = l.opener) : l'.closer = l.closer := by
  cases l with
  | inline text url =>
      cases l' with
      | inline text' url' => rfl
      | auto url' => exact absurd h (by decide : '<' ≠ '[')
  | auto url =>
      cases l' with
      | inline text' url' => exact absurd h (by decide : '[' ≠ '<')
      | auto url' => rfl

/-- A link without brackets inside holds no other opening bracket than its own. -/
theorem eq_opener_of_mem {l : Link} (h : ∀ c ∈ l.inside, c ∉ brackets) {c : Char} (hc : c ∈ openers)
    (hmem : c ∈ l.chars) : c = l.opener := by
  have hout : c ∉ l.inside := fun hin => h c hin (openers_subset_brackets hc)
  simp only [openers, List.mem_cons, List.not_mem_nil, or_false] at hc
  cases l with
  | inline text url =>
      simp only [inside, List.mem_append, not_or] at hout
      simp only [chars, List.mem_append, List.mem_cons, List.not_mem_nil, or_false, hout] at hmem
      rcases hc with rfl | rfl
      · rfl
      · exact absurd hmem (by decide)
  | auto url =>
      simp only [inside] at hout
      simp only [chars, List.mem_append, List.mem_cons, List.not_mem_nil, or_false, hout] at hmem
      rcases hc with rfl | rfl
      · exact absurd hmem (by decide)
      · rfl

end Link

/-- A line in which more than marks comes after a link, and no other bracket opens a link. -/
structure MidLine (p : List Char) (l : Link) (w : List Char) : Prop where
  before : ∀ c ∈ p, c ∉ brackets
  inside : ∀ c ∈ l.inside, c ∉ brackets
  after : ∀ c ∈ w, c ∉ openers
  more : ∃ c ∈ w, c ∉ punctuation
  unbroken : Line.Unbroken (p ++ l.chars ++ w)

/-- The text goes to a bracket like the one that closes the link, and then only to what may follow a link. -/
def Recloses (marks : Bool) (l : Link) (w : List Char) : Prop :=
  ∃ more q, w = more ++ [l.closer] ++ q ∧ MayFollow marks q

namespace MidLine

variable {p w : List Char} {l : Link}

/-- Whatever link is found in the line starts with the bracket of its only link. -/
theorem closer_eq (h : MidLine p l w) {l' : Link} (hmem : l'.opener ∈ p ++ l.chars ++ w) : l'.closer = l.closer := by
  have hopener := l'.opener_mem_openers
  simp only [List.mem_append] at hmem
  rcases hmem with (hp | hl) | hw
  · exact absurd (openers_subset_brackets hopener) (h.before _ hp)
  · exact Link.closer_eq_of_opener_eq (Link.eq_opener_of_mem h.inside hopener hl)
  · exact absurd hopener (h.after _ hw)

theorem recloses_of_ends (h : MidLine p l w) {marks : Bool} (hends : EndsInLink marks (p ++ l.chars ++ w)) :
    Recloses marks l w := by
  obtain ⟨p', l', q, hs, hl, hq⟩ := hends
  have hcloser : l'.closer = l.closer := by
    apply h.closer_eq
    rw [hs]
    exact List.mem_append_left _ (List.mem_append_right _ l'.opener_mem_chars)
  obtain ⟨c, hc, hmark⟩ := h.more
  -- the text after the link is longer than the marks at the end, so that the link found ends in it
  rcases List.append_eq_append_iff.mp hs with ⟨as, hlink, rfl⟩ | ⟨bs, _, rfl⟩
  · rcases List.eq_nil_or_concat' as with rfl | ⟨more, x, rfl⟩
    · exact absurd (hq.mem_punctuation c hc) hmark
    · have hlast := l'.getLast?_append_chars p'
      rw [hlink, ← List.append_assoc, List.getLast?_concat] at hlast
      rw [Option.some.inj hlast, hcloser]
      exact ⟨more, q, rfl, hq⟩
  · exact absurd (hq.mem_punctuation c (List.mem_append_right bs hc)) hmark

theorem ends_of_recloses (h : MidLine p l w) {marks : Bool} (hw : Recloses marks l w) :
    EndsInLink marks (p ++ l.chars ++ w) := by
  obtain ⟨more, q, rfl, hq⟩ := hw
  refine ⟨p, l.extend more, q, by simp [Link.chars_extend], ?_, hq⟩
  intro hlf
  have hchars := (l.extend more).inside_subset_chars hlf
  rw [Link.chars_extend] at hchars
  apply h.unbroken.1
  simp only [List.append_assoc, List.mem_append] at hchars ⊢
  rcases hchars with hl | hmore | hcloser
  · exact .inr (.inl hl)
  · exact .inr (.inr (.inl hmore))
  · exact .inr (.inr (.inr (.inl hcloser)))

theorem ends_iff (h : MidLine p l w) {marks : Bool} : ends (p ++ l.chars ++ w) marks = true ↔ Recloses marks l w :=
  LinkTail.ends_iff.trans ⟨h.recloses_of_ends, h.ends_of_recloses⟩

end MidLine

end LinkTail

theorem Exemption.spans_of_elements_nil {d : Document} (h : d.elements = []) (o : Options) : spans d o = [] := by
  have hcode : codeBlocks d = [] := by
    simp [codeBlocks, Document.elementsOf, h, Element.findIn]
  have htables : tables d = [] := by
    simp [tables, located, tablesIn, h]
  simp [spans, hcode, htables]

namespace Check

open LinkTail

theorem mem_violations_of_elements_nil {d : Document} (h : d.elements = []) {o : Options} {n : UInt32} :
    n ∈ violations d o ↔ ∃ text, (n, text) ∈ d.numbered ∧ tooLong o text = true := by
  simp [violations, Exemption.spans_of_elements_nil h, Document.matchingLines]

theorem tooLong_iff_of_midLine {p w : List Char} {l : Link} (h : MidLine p l w) {o : Options}
    (hlinks : o.ignoreLinks = true) (hlong : o.effectiveLimit.toNat ≤ (p ++ l.chars ++ w).length) :
    tooLong o (p ++ l.chars ++ w) = true ↔ ¬ Recloses o.ignoreLinkPunctuation l w := by
  rw [tooLong, decide_eq_true hlong, hlinks, Bool.true_and, Bool.true_and, Bool.not_eq_true', ← Bool.not_eq_true,
    h.ends_iff]

/-- Without an outline, a long line with a link in its middle is reported, unless the text after the link goes to
another bracket that could close it. Then the test takes the line for one that ends in a link. -/
theorem midLine_excused_iff {p w : List Char} {l : Link} (h : MidLine p l w) :
    (∀ marks, ends (p ++ l.chars ++ w) marks = true ↔ Recloses marks l w) ∧
    ∀ (d : Document) (o : Options) (n : UInt32), d.elements = [] → (n, p ++ l.chars ++ w) ∈ d.numbered →
      o.ignoreLinks = true → o.effectiveLimit.toNat ≤ (p ++ l.chars ++ w).length →
      (¬ Recloses o.ignoreLinkPunctuation l w → n ∈ violations d o) ∧
      (Recloses o.ignoreLinkPunctuation l w → d.source.utf8ByteSize < 2 ^ 32 → n ∉ violations d o) := by
  refine ⟨fun _ => h.ends_iff, ?_⟩
  intro d o n hd hline hlinks hlong
  have hiff := tooLong_iff_of_midLine h hlinks hlong
  constructor
  · intro hw
    exact (mem_violations_of_elements_nil hd).mpr ⟨_, hline, hiff.mpr hw⟩
  · intro hw hs hn
    exact hiff.mp ((mem_violations_iff_of_numbered hs hline).mp hn).1 hw

/-- A bracket inside the text after the link does no harm. -/
theorem midLine_excused_iff_inside :
    let l := Link.inline "docs".toList "url".toList
    let w := " (or not) now.".toList
    let d := Document.ofSource "see [docs](url) (or not) now."
    MidLine "see ".toList l w ∧ (∀ marks, ends ("see ".toList ++ l.chars ++ w) marks = false) ∧
      1 ∈ violations d { lineLength := 20 } := by
  intro l w d
  have hline : MidLine "see ".toList l w := {
    before := by simp [brackets]
    inside := by simp [l, Link.inside, brackets]
    after := by simp [w, openers]
    more := ⟨'n', by decide, by decide⟩
    unbroken := by decide }
  obtain ⟨hends, hreport⟩ := midLine_excused_iff hline
  have hnone : ∀ marks, ends ("see ".toList ++ l.chars ++ w) marks = false := by decide
  have hfree : ¬ Recloses true l w := by
    intro hw
    have hlink := (hends true).mpr hw
    rw [hnone true] at hlink
    cases hlink
  exact ⟨hline, hnone, (hreport d _ 1 rfl (by decide) rfl (by decide)).1 hfree⟩

/-- Text in parentheses excuses the line, and so does a sign for greater after an address in angle brackets. Both
lines are long, since they are reported when links do not count. -/
theorem midLine_excused_by_parentheses :
    let l := Link.inline "docs".toList "url".toList
    let w := " (see below)".toList
    let d := Document.ofSource "[docs](url) (see below)"
    let l' := Link.auto "url".toList
    let w' := " if a > b or b >".toList
    let d' := Document.ofSource "<url> if a > b or b >"
    MidLine [] l w ∧ (∀ marks, ends ([] ++ l.chars ++ w) marks = true) ∧
      violations d { lineLength := 8 } = [] ∧ violations d { lineLength := 8, ignoreLinks := false } = [1] ∧
    MidLine [] l' w' ∧ (∀ marks, ends ([] ++ l'.chars ++ w') marks = true) ∧
      violations d' { lineLength := 8 } = [] ∧ violations d' { lineLength := 8, ignoreLinks := false } = [1] := by
  intro l w d l' w' d'
  have hline : MidLine [] l w := {
    before := nofun
    inside := by simp [l, Link.inside, brackets]
    after := by simp [w, openers]
    more := ⟨'s', by decide, by decide⟩
    unbroken := by decide }
  have hline' : MidLine [] l' w' := {
    before := nofun
    inside := by simp [l', Link.inside, brackets]
    after := by simp [w', openers]
    more := ⟨'b', by decide, by decide⟩
    unbroken := by decide }
  exact ⟨hline, by decide, by cbv, by cbv, hline', by decide, by cbv, by cbv⟩

end Check

end LineLimit

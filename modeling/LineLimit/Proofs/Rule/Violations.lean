import LineLimit.Proofs.Rule.Exemption
import LineLimit.Rule.Check
/-!
Which lines violate the rule. The search goes through spans and a list of lines with their numbers; what it
finds is said here of one line and the outline alone.
-/

namespace LineLimit

theorem Options.toNat_effectiveLimit (o : Options) :
    o.effectiveLimit.toNat = min (o.lineLength.toNat + 1) (2 ^ 64 - 1) := by
  have hlt := o.lineLength.toNat_lt
  unfold effectiveLimit
  split
  · next h =>
      rw [h]
      rfl
  · next h =>
      have hmax : o.lineLength.toNat ≠ 2 ^ 64 - 1 := fun he =>
        h (UInt64.toNat_inj.mp (by rw [he]; rfl))
      rw [UInt64.toNat_add, UInt64.toNat_one, Nat.mod_eq_of_lt (by omega)]
      omega

namespace Check

theorem tooLong_iff {o : Options} {text : List Char} :
    tooLong o text = true ↔
      min (o.lineLength.toNat + 1) (2 ^ 64 - 1) ≤ text.length ∧
        ¬ (o.ignoreLinks = true ∧ LinkTail.ends text o.ignoreLinkPunctuation = true) := by
  rw [tooLong, Bool.and_eq_true, decide_eq_true_eq, Options.toNat_effectiveLimit, Bool.not_eq_true',
    ← Bool.not_eq_true, Bool.and_eq_true]

theorem mem_violations {d : Document} {o : Options} {n : UInt32} (hs : d.source.utf8ByteSize < 2 ^ 32) :
    n ∈ violations d o ↔
      1 ≤ n ∧ n ≤ d.lineCount ∧ ∃ l, d.lines[n.toNat - 1]? = some l ∧
        tooLong o l.text = true ∧ ¬ (Exemption.spans d o).any (·.covers n) = true := by
  have hone : (1 ≤ n ↔ 1 ≤ n.toNat) := UInt32.le_iff_toNat_le
  simp only [violations, List.mem_filter, Document.mem_matchingLines_iff hs, hone]
  rw [Bool.not_eq_true', ← Bool.not_eq_true]
  constructor
  · rintro ⟨⟨hpos, l, hget, hlong⟩, hspan⟩
    obtain ⟨hi, _⟩ := List.getElem?_eq_some_iff.mp hget
    have hcount : n ≤ d.lineCount := by
      rw [UInt32.le_iff_toNat_le, Document.toNat_lineCount hs]
      omega
    exact ⟨hpos, hcount, l, hget, hlong, hspan⟩
  · rintro ⟨hpos, _, l, hget, hlong, hspan⟩
    exact ⟨⟨hpos, l, hget, hlong⟩, hspan⟩

/-- A number is among the violations when it is that of a line which is too long, does not end in a link that
excuses it, is in no code block and in no table, as far as the options leave these out. -/
theorem mem_violations_iff {d : Document} {o : Options} {n : UInt32} (hs : d.source.utf8ByteSize < 2 ^ 32)
    (hv : ∀ (e : Element) v, e.Within d.elements → e.kind = .codeBlock → e.value = some v →
      v.utf8ByteSize < 2 ^ 32) :
    n ∈ violations d o ↔
      1 ≤ n ∧ n ≤ d.lineCount ∧ ∃ l, d.lines[n.toNat - 1]? = some l ∧
        min (o.lineLength.toNat + 1) (2 ^ 64 - 1) ≤ l.text.length ∧
        ¬ (o.ignoreLinks = true ∧ LinkTail.ends l.text o.ignoreLinkPunctuation = true) ∧
        ¬ (o.ignoreCodeBlocks = true ∧ Exemption.InCodeBlock d.elements n.toNat) ∧
        ¬ (o.ignoreTables = true ∧ Exemption.InTable d.elements n.toNat) := by
  rw [mem_violations hs]
  refine and_congr_right fun _ => and_congr_right fun hcount => ?_
  simp only [tooLong_iff, Exemption.spans_cover_iff hcount hv, not_or, and_assoc]

/-- Two lines are reported, one above a code block inside a list and one below a table. The element without a place does
not end the table, the paragraph below it does. The last line is a link. -/
theorem mem_violations_iff_nested :
    let block : Element := ⟨.codeBlock, some 2, some "bbbbb", []⟩
    let elements : List Element := [⟨.list, some 1, none, [block]⟩, ⟨.table, some 4, none, []⟩,
      ⟨.html, none, none, []⟩, ⟨.paragraph, some 6, none, []⟩]
    let d := Document.new "aaaaa\nbbbbb\nccc\n|ddd|\n|eee|\nfffff\n<ggg>" elements
    let o : Options := { lineLength := 3 }
    1 ∈ violations d o ∧ 2 ∉ violations d o ∧ 5 ∉ violations d o ∧ 6 ∈ violations d o ∧ 7 ∉ violations d o := by
  intro block elements d o
  have hfound : Element.findIn .codeBlock elements = [block] := by cbv
  have hblock : ∀ e : Element, e.Within elements ∧ e.kind = .codeBlock ↔ e = block := by
    intro e
    rw [← Element.mem_findIn_iff, hfound, List.mem_singleton]
  have hcode : ∀ n, Exemption.InCodeBlock elements n ↔ 2 ≤ n ∧ n ≤ 3 := by
    intro n
    constructor
    · rintro ⟨e, l, hin, hk, hl, _, hle, hlast⟩
      cases (hblock e).mp ⟨hin, hk⟩
      cases hl
      exact ⟨hle, hlast⟩
    · rintro ⟨hle, hlast⟩
      obtain ⟨hin, hk⟩ := (hblock block).mpr rfl
      exact ⟨block, 2, hin, hk, rfl, by decide, hle, hlast⟩
  have htable : ∀ n, Exemption.InTable elements n ↔ 4 ≤ n ∧ n < 6 := by
    intro n
    simp [elements, block, Exemption.inTable_cons_iff, Exemption.not_inTable_nil, Exemption.beforeNext_iff_head,
      Exemption.located]
  have hv : ∀ (e : Element) v, e.Within elements → e.kind = .codeBlock → e.value = some v →
      v.utf8ByteSize < 2 ^ 32 := by
    intro e v hin hk hval
    cases (hblock e).mp ⟨hin, hk⟩
    cases hval
    decide
  have hiff := fun n => mem_violations_iff (d := d) (o := o) (n := n) (by decide) hv
  refine ⟨(hiff 1).mpr ?_, ?_, ?_, (hiff 6).mpr ?_, ?_⟩
  · refine ⟨by decide, by decide, ⟨_, some .lf⟩, rfl, by decide, by decide, ?_, ?_⟩
    · exact fun h => absurd ((hcode 1).mp h.2).1 (by decide)
    · exact fun h => absurd ((htable 1).mp h.2).1 (by decide)
  · intro h
    obtain ⟨_, _, _, _, _, _, hnot, _⟩ := (hiff 2).mp h
    exact hnot ⟨rfl, (hcode 2).mpr (by decide)⟩
  · intro h
    obtain ⟨_, _, _, _, _, _, _, hnot⟩ := (hiff 5).mp h
    exact hnot ⟨rfl, (htable 5).mpr (by decide)⟩
  · refine ⟨by decide, by decide, ⟨_, some .lf⟩, rfl, by decide, by decide, ?_, ?_⟩
    · exact fun h => absurd ((hcode 6).mp h.2).2 (by decide)
    · exact fun h => absurd ((htable 6).mp h.2).2 (by decide)
  · intro h
    obtain ⟨_, _, _, hget, _, hnot, _⟩ := (hiff 7).mp h
    cases hget
    exact hnot ⟨rfl, by decide⟩

end Check

end LineLimit

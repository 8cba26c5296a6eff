import LineLimit.Proofs.Rule.Exemption
import LineLimit.Proofs.Text.Position
/-!
The places of elements. A reader that tells lines by counting endings gives every element that starts in the text
the number of the line with its first byte. That number fits into a word and lies in the document, so neither the
element's place nor a span from it is dropped.
-/

namespace LineLimit.Element

theorem lineWord?_toNat (n : UInt32) : lineWord? n.toNat = some n := by
  rw [lineWord?, if_pos n.toNat_lt, UInt32.ofNat_toNat]

/-- What is relied on of a reader that reports a line for every byte of a text. -/
def CountsLines (source : String) (reported : Nat → Nat) : Prop :=
  ∀ o, o < source.utf8ByteSize → reported o = 1 + endingsBefore source.toUTF8.toList o

/-- The line that a reader reports for a byte is the line of the document that holds the byte. An element that starts
there has this line for its place, and a span from there starts with it. -/
theorem location_names_line {source : String} {reported : Nat → Nat} (hs : source.utf8ByteSize < 2 ^ 32)
    (hreported : CountsLines source reported) (elements : List Element) {o : Nat} (ho : o < source.utf8ByteSize) :
    let d := Document.new source elements
    1 ≤ reported o ∧ reported o ≤ d.lineCount.toNat ∧
    ∃ (n : UInt32) (info : LineInfo), n.toNat = reported o ∧
      d.lineInfo? n = some info ∧ info.start.toNat ≤ o ∧
      (∀ next, d.lineInfo? (n + 1) = some next → o < next.start.toNat) ∧
      (∀ kind value children, (startingOn (reported o) kind value children).location = some n) ∧
      ∀ last reason, n ≤ last → ∃ x, Exemption.within d.lineCount n last reason = some x ∧ x.covers n = true := by
  intro d
  obtain ⟨n, info, hn, hcount, hinfo, hstart, hnext⟩ := Document.exists_line_at (d := d) hs ho
  replace hn : n.toNat = reported o := hn.trans (hreported o ho).symm
  have hpos : 1 ≤ reported o := by
    rw [hreported o ho]
    exact Nat.le_add_right 1 _
  refine ⟨hpos, hn ▸ UInt32.le_iff_toNat_le.mp hcount, n, info, hn, hinfo, hstart, ?_, ?_, ?_⟩
  · intro next hget
    rwa [Document.nextStart, hget] at hnext
  · intro kind value children
    rw [startingOn, ← hn]
    exact lineWord?_toNat n
  · intro last reason hlast
    apply (Exemption.covers_within_iff hcount).mpr
    exact ⟨hn ▸ hpos, Nat.le_refl _, hlast⟩

/-- All three endings in a row. The reader knows the bytes at which lines start after the first one. -/
theorem location_names_line_mixed :
    let source := "a\r\n\rb\n"
    let reported := fun o => 1 + ([3, 4, 6].filter (· ≤ o)).length
    CountsLines source reported ∧
    ∃ (n : UInt32) (info : LineInfo), n.toNat = 3 ∧ (Document.ofSource source).lineInfo? n = some info ∧
      info.start.toNat ≤ 4 ∧ (startingOn (reported 4) .codeBlock (some "b")).location = some n := by
  intro source reported
  have hreported : CountsLines source reported := by
    intro o ho
    have hsize : source.utf8ByteSize = 6 := by decide
    have hbytes : source.toUTF8.toList = [97, 13, 10, 13, 98, 10] := (Utf8.toList_toUTF8 source).trans (by decide)
    rw [hsize] at ho
    rw [hbytes]
    interval_cases o <;> decide
  obtain ⟨_, _, n, info, hn, hinfo, hstart, _, hlocation, _⟩ :=
    location_names_line (o := 4) (by decide) hreported [] (by decide)
  exact ⟨hreported, n, info, hn, hinfo, hstart, hlocation .codeBlock (some "b") []⟩

end LineLimit.Element

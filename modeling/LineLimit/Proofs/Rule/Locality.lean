import LineLimit.Proofs.Rule.Violations
/-!
Whether a line violates the rule is decided by its number, its text and the outline. Spans are cut at the end of
the document and the last table reaches to it, but neither shows in the lines that a document has.
-/

namespace LineLimit

/-- Whether spans cover a line depends on the elements and the options, not on the length of the document. -/
theorem Exemption.spans_cover_congr {d₁ d₂ : Document} {n : UInt32} (he : d₁.elements = d₂.elements)
    (h₁ : n ≤ d₁.lineCount) (h₂ : n ≤ d₂.lineCount) (o : Options) :
    (spans d₁ o).any (·.covers n) = (spans d₂ o).any (·.covers n) := by
  have hcode : (codeBlocks d₁).any (·.covers n) = (codeBlocks d₂).any (·.covers n) := by
    rw [Bool.eq_iff_iff, codeBlocks_cover_iff_exists h₁, codeBlocks_cover_iff_exists h₂, he]
  have htable : (tables d₁).any (·.covers n) = (tables d₂).any (·.covers n) := by
    rw [Bool.eq_iff_iff, tables_cover_iff h₁, tables_cover_iff h₂, he]
  rw [spans, spans, List.any_append, List.any_append]
  congr 1
  · split
    · exact hcode
    · rfl
  · split
    · exact htable
    · rfl

namespace Document

def ofLines (lines : List Line) (elements : List Element) : Document :=
  new (String.ofList (Line.write lines)) elements

theorem size_ofLines (lines : List Line) (elements : List Element) :
    (ofLines lines elements).source.utf8ByteSize = byteCount (Line.write lines) := by
  rw [ofLines, new, ← byteCount_toList, String.toList_ofList]

theorem mem_numbered_ofLines {before after : List Line} {l : Line} (elements : List Element)
    (hreg : Line.Regular (before ++ l :: after)) (hsize : byteCount (Line.write (before ++ l :: after)) < 2 ^ 32) :
    (.ofNat (before.length + 1), l.text) ∈ (ofLines (before ++ l :: after) elements).numbered := by
  have hlines : (ofLines (before ++ l :: after) elements).lines = before ++ l :: after := by
    rw [lines_eq]
    simp only [ofLines, new, String.toList_ofList, Line.split_write hreg]
  have hlt := length_lines_lt (by rwa [size_ofLines] : (ofLines _ elements).source.utf8ByteSize < 2 ^ 32)
  rw [hlines, List.length_append, List.length_cons] at hlt
  rw [mem_numbered_iff (by rwa [size_ofLines]), toNat_word (by omega), hlines]
  refine ⟨Nat.le_add_left 1 before.length, l, ?_, rfl⟩
  simp

end Document

namespace Check

theorem mem_violations_iff_of_numbered {d : Document} {o : Options} {n : UInt32} {text : List Char}
    (hs : d.source.utf8ByteSize < 2 ^ 32) (h : (n, text) ∈ d.numbered) :
    n ∈ violations d o ↔ tooLong o text = true ∧ ¬ (Exemption.spans d o).any (·.covers n) = true := by
  have hcount := Document.le_lineCount_of_mem_numbered hs h
  obtain ⟨hpos, l, hget, rfl⟩ := (Document.mem_numbered_iff hs).mp h
  rw [mem_violations hs]
  constructor
  · rintro ⟨_, _, l', hget', hlong, hcover⟩
    rw [hget] at hget'
    cases hget'
    exact ⟨hlong, hcover⟩
  · rintro ⟨hlong, hcover⟩
    exact ⟨UInt32.le_iff_toNat_le.mpr hpos, hcount, l, hget, hlong, hcover⟩

theorem mem_violations_congr {d₁ d₂ : Document} {n : UInt32} {text : List Char}
    (hs₁ : d₁.source.utf8ByteSize < 2 ^ 32) (hs₂ : d₂.source.utf8ByteSize < 2 ^ 32)
    (he : d₁.elements = d₂.elements) (h₁ : (n, text) ∈ d₁.numbered) (h₂ : (n, text) ∈ d₂.numbered)
    (o : Options) : n ∈ violations d₁ o ↔ n ∈ violations d₂ o := by
  have hcover := Exemption.spans_cover_congr he (Document.le_lineCount_of_mem_numbered hs₁ h₁)
    (Document.le_lineCount_of_mem_numbered hs₂ h₂) o
  rw [mem_violations_iff_of_numbered hs₁ h₁, mem_violations_iff_of_numbered hs₂ h₂, hcover]

/-- Under one outline, a line with the same number and text in two documents violates the rule in both or in
neither. In particular, the lines around a line may be written anew, and lines may be added, without
a change of its verdict. -/
theorem verdict_local :
    (∀ (d₁ d₂ : Document) (o : Options) (n : UInt32) (text : List Char),
      d₁.source.utf8ByteSize < 2 ^ 32 → d₂.source.utf8ByteSize < 2 ^ 32 → d₁.elements = d₂.elements →
      (n, text) ∈ d₁.numbered → (n, text) ∈ d₂.numbered →
      (n ∈ violations d₁ o ↔ n ∈ violations d₂ o)) ∧
    ∀ (before₁ before₂ after₁ after₂ : List Line) (l₁ l₂ : Line) (elements : List Element) (o : Options),
      Line.Regular (before₁ ++ l₁ :: after₁) → byteCount (Line.write (before₁ ++ l₁ :: after₁)) < 2 ^ 32 →
      Line.Regular (before₂ ++ l₂ :: after₂) → byteCount (Line.write (before₂ ++ l₂ :: after₂)) < 2 ^ 32 →
      before₁.length = before₂.length → l₁.text = l₂.text →
      (.ofNat (before₁.length + 1) ∈ violations (.ofLines (before₁ ++ l₁ :: after₁) elements) o ↔
        .ofNat (before₁.length + 1) ∈ violations (.ofLines (before₂ ++ l₂ :: after₂) elements) o) := by
  constructor
  · intro d₁ d₂ o n text hs₁ hs₂ he h₁ h₂
    exact mem_violations_congr hs₁ hs₂ he h₁ h₂ o
  · intro before₁ before₂ after₁ after₂ l₁ l₂ elements o hreg₁ hsize₁ hreg₂ hsize₂ hlen htext
    have h₁ := Document.mem_numbered_ofLines elements hreg₁ hsize₁
    have h₂ := Document.mem_numbered_ofLines elements hreg₂ hsize₂
    rw [← hlen, ← htext] at h₂
    rw [← Document.size_ofLines _ elements] at hsize₁ hsize₂
    have he : (Document.ofLines (before₁ ++ l₁ :: after₁) elements).elements =
        (Document.ofLines (before₂ ++ l₂ :: after₂) elements).elements := rfl
    exact mem_violations_congr hsize₁ hsize₂ he h₁ h₂ o

/-- A table that starts on a third line does not matter for the second line, whether there is a third one or not. -/
theorem verdict_local_table :
    let outline : List Element := [⟨.table, some 3, none, []⟩]
    let o : Options := { lineLength := 3 }
    let above : Line := ⟨['a'], some .cr⟩
    let line : Line := ⟨['b', 'b', 'b', 'b'], none⟩
    let ended : Line := { line with ending := some .crlf }
    let below : Line := ⟨['c', 'c', 'c', 'c'], some .lf⟩
    violations (.new "aa\nbbbb" outline) o = [2] ∧
      (2 ∈ violations (.new "aa\nbbbb" outline) o ↔ 2 ∈ violations (.new "a\rbbbb\r\ncccc\n" outline) o) ∧
      (2 ∈ violations (.ofLines ([above] ++ line :: []) outline) o ↔
        2 ∈ violations (.ofLines ([above] ++ ended :: [below]) outline) o) := by
  intro outline o above line ended below
  have hreg₁ : Line.Regular ([above] ++ line :: []) := Line.regular_iff.mpr (by decide)
  have hreg₂ : Line.Regular ([above] ++ ended :: [below]) := Line.regular_iff.mpr (by decide)
  refine ⟨by cbv, ?_, ?_⟩
  · exact verdict_local.1 _ _ o 2 line.text (by decide) (by decide) rfl (by decide) (by decide)
  · exact verdict_local.2 [above] [above] [] [below] line ended outline o hreg₁ (by decide) hreg₂ (by decide) rfl rfl

end Check

end LineLimit

import LineLimit.Proofs.Rule.Violations
import Mathlib.Data.List.Forall2
/-!
What the check reports. Every violation has a report of its own, which points at the text of its line and counts
its characters. Reports come in the order of their lines, and what they point at is apart from each other, since at
least an ending lies between two lines.
-/

namespace LineLimit

namespace LineInfo

theorem offset_le_of_mem_table {offset : Nat} {lines : List Line}
    (h : offset + byteCount (Line.write lines) < 2 ^ 32) {info : LineInfo} (hi : info ∈ table offset lines) :
    offset ≤ info.start.toNat := by
  induction lines generalizing offset with
  | nil => exact nomatch hi
  | cons l rest ih =>
      rw [Line.write_cons, byteCount_append] at h
      rcases List.mem_cons.mp hi with rfl | hi
      · have hstart : (UInt32.ofNat offset).toNat = offset := toNat_word (by omega)
        exact Nat.le_of_eq hstart.symm
      · have hrest : offset + byteCount l.chars ≤ info.start.toNat := ih (by omega) hi
        omega

theorem byteCount_endingChars_pos {l : Line} (h : l.ending ≠ none) : 0 < byteCount l.endingChars := by
  cases hending : l.ending with
  | none => exact absurd hending h
  | some e =>
      rw [Line.endingChars, hending]
      cases e <;> decide

/-- The texts of regular lines are apart. The induction is on the lines, since only the last one lacks an ending. -/
theorem pairwise_table {offset : Nat} {lines : List Line} (hreg : Line.Regular lines)
    (h : offset + byteCount (Line.write lines) < 2 ^ 32) :
    (table offset lines).Pairwise fun a b => a.stop < b.start := by
  induction hreg generalizing offset with
  | nil => exact List.Pairwise.nil
  | @cons l rest hl hb hrest ih =>
      rw [Line.write_cons, byteCount_append, byteCount_chars] at h
      rw [table]
      refine List.pairwise_cons.mpr ⟨?_, ih (by rw [byteCount_chars]; omega)⟩
      intro info hi
      have hending : 0 < byteCount l.endingChars := by
        cases rest with
        | nil => cases hi
        | cons next more => exact byteCount_endingChars_pos hb.1
      have hstart : offset + byteCount l.chars ≤ info.start.toNat :=
        offset_le_of_mem_table (by rw [byteCount_chars]; omega) hi
      rw [byteCount_chars] at hstart
      rw [UInt32.lt_iff_toNat_lt, toNat_word (by omega)]
      omega

end LineInfo

namespace Document

variable {d : Document}

theorem stop_lt_start (hs : d.source.utf8ByteSize < 2 ^ 32) {m n : UInt32} (hmn : m < n) {a b : LineInfo}
    (ha : d.lineInfo? m = some a) (hb : d.lineInfo? n = some b) : a.stop < b.start := by
  have hm : m ≠ 0 := by
    rintro rfl
    exact nomatch ha
  have hmpos : m.toNat ≠ 0 := fun h => hm (UInt32.toNat_inj.mp h)
  have hlt : m.toNat < n.toNat := UInt32.lt_iff_toNat_lt.mp hmn
  have hn : n ≠ 0 := by
    rintro rfl
    exact absurd hlt (Nat.not_lt_zero _)
  have hpairs : (LineInfo.table 0 d.lines).Pairwise fun a b => a.stop < b.start := by
    apply LineInfo.pairwise_table d.regular_lines
    rw [write_lines, byteCount_toList]
    omega
  rw [lineInfo?_eq hm] at ha
  rw [lineInfo?_eq hn] at hb
  obtain ⟨hi, rfl⟩ := List.getElem?_eq_some_iff.mp ha
  obtain ⟨hj, rfl⟩ := List.getElem?_eq_some_iff.mp hb
  exact List.pairwise_iff_getElem.mp hpairs _ _ hi hj (by omega)

theorem pairwise_numbered (hs : d.source.utf8ByteSize < 2 ^ 32) : (d.numbered.map (·.1)).Pairwise (· < ·) := by
  have hnumbers : ((d.numbered.map (·.1)).map UInt32.toNat).Pairwise (· < ·) := by
    rw [List.map_map]
    exact map_numbered_toNat hs ▸ List.pairwise_lt_range'
  exact (List.pairwise_map.mp hnumbers).imp UInt32.lt_iff_toNat_lt.mpr

theorem pairwise_matchingLines (hs : d.source.utf8ByteSize < 2 ^ 32) (p : List Char → Bool) :
    (d.matchingLines p).Pairwise (· < ·) :=
  (pairwise_numbered hs).sublist (List.filter_sublist.map _)

/-- A numbered line has an entry, which is exact and bounds its text. -/
theorem entry_of_numbered (hs : d.source.utf8ByteSize < 2 ^ 32) {n : UInt32} {text : List Char}
    (h : (n, text) ∈ d.numbered) :
    ∃ info, d.lineInfo? n = some info ∧ info.chars.toNat = text.length ∧
      d.source.toByteArray.extract info.start.toNat info.stop.toNat = text.utf8Encode := by
  obtain ⟨hpos, l, hget, rfl⟩ := (mem_numbered_iff hs).mp h
  obtain ⟨hi, hl⟩ := List.getElem?_eq_some_iff.mp hget
  have hlines : d.lines = d.lines.take (n.toNat - 1) ++ l :: d.lines.drop (n.toNat - 1 + 1) := by
    rw [← hl, ← List.drop_eq_getElem_cons hi, List.take_append_drop]
  have hn : UInt32.ofNat ((d.lines.take (n.toNat - 1)).length + 1) = n := by
    rw [List.length_take_of_le (by omega), Nat.sub_add_cancel hpos, UInt32.ofNat_toNat]
  obtain ⟨info, hinfo, hexact, hbytes, _⟩ := (holds_lines hs).entries _ l _ hlines
  rw [hn] at hinfo
  exact ⟨info, hinfo, hexact.chars, hbytes⟩

end Document

namespace Check

/-- What a report says about a line with that number and text. -/
structure Describes (d : Document) (s : Settings) (n : UInt32) (text : List Char) (x : Diagnostic) : Prop where
  line : (n, text) ∈ d.numbered
  rule : x.rule = "MY000"
  bytes : d.source.toByteArray.extract x.span.start.toNat x.span.stop.toNat = text.utf8Encode
  loc : ∃ chars : UInt32, chars.toNat = text.length ∧ x.loc = some ⟨⟨n, 0⟩, ⟨n, chars⟩⟩
  message : x.message = s!"Line length is {text.length} characters, exceeding the limit of " ++
    s!"{s.options.lineLength.toNat} (MY000/stricter-line-length)"
  long : s.options.lineLength.toNat < 2 ^ 64 - 1 → s.options.lineLength.toNat < text.length
  severity : x.severity = s.severity

variable {d : Document} {s : Settings}

theorem describes_diagnostic {n : UInt32} {text : List Char} {info : LineInfo} (hline : (n, text) ∈ d.numbered)
    (hchars : info.chars.toNat = text.length)
    (hbytes : d.source.toByteArray.extract info.start.toNat info.stop.toNat = text.utf8Encode)
    (hlong : tooLong s.options text = true) : Describes d s n text (diagnostic s n info) where
  line := hline
  rule := rfl
  bytes := hbytes
  loc := ⟨info.chars, hchars, rfl⟩
  message := by
    have hname : " (" ++ (Manifest.lineLength.displayName ++ ")") = " (MY000/stricter-line-length)" := by decide
    have htail : toString s.options.lineLength.toNat ++ " (" ++ Manifest.lineLength.displayName ++ ")" =
        toString s.options.lineLength.toNat ++ " (MY000/stricter-line-length)" := by
      rw [String.append_assoc, String.append_assoc, hname]
    rw [← hchars]
    exact congrArg (s!"Line length is {info.chars.toNat} characters, exceeding the limit of " ++ ·) htail
  long := by
    intro hlimit
    have hmin := (tooLong_iff.mp hlong).1
    omega
  severity := rfl

theorem exists_report (hs : d.source.utf8ByteSize < 2 ^ 32) {n : UInt32} (hn : n ∈ violations d s.options) :
    ∃ x, (d.lineInfo? n).map (diagnostic s n) = some x ∧ ∃ text, Describes d s n text x := by
  have hmatch : n ∈ d.matchingLines (tooLong s.options) := (List.mem_filter.mp hn).1
  obtain ⟨hpos, l, hget, hlong⟩ := (Document.mem_matchingLines_iff hs).mp hmatch
  have hline : (n, l.text) ∈ d.numbered := (Document.mem_numbered_iff hs).mpr ⟨hpos, l, hget, rfl⟩
  obtain ⟨info, hinfo, hchars, hbytes⟩ := Document.entry_of_numbered hs hline
  refine ⟨diagnostic s n info, ?_, l.text, describes_diagnostic hline hchars hbytes hlong⟩
  rw [hinfo, Option.map_some]

/-- A search in which everything gives a result gives one result for each thing, in order. -/
theorem forall₂_filterMap {α β : Type} {f : α → Option β} {R : α → β → Prop} {as : List α}
    (h : ∀ a ∈ as, ∃ b, f a = some b ∧ R a b) : List.Forall₂ R as (as.filterMap f) := by
  induction as with
  | nil => exact List.Forall₂.nil
  | cons a as ih =>
      obtain ⟨b, hb, hR⟩ := h a List.mem_cons_self
      rw [List.filterMap_cons_some hb]
      exact .cons hR (ih fun a' ha' => h a' (List.mem_cons_of_mem a ha'))

theorem pairwise_violations (hs : d.source.utf8ByteSize < 2 ^ 32) (o : Options) :
    (violations d o).Pairwise (· < ·) :=
  (Document.pairwise_matchingLines hs _).filter _

theorem pairwise_spans (hs : d.source.utf8ByteSize < 2 ^ 32) :
    (diagnostics d s).Pairwise fun x y => x.span.stop < y.span.start := by
  rw [diagnostics, List.pairwise_filterMap]
  refine (pairwise_violations hs s.options).imp ?_
  intro m n hmn x hx y hy
  obtain ⟨a, ha, rfl⟩ := Option.map_eq_some_iff.mp hx
  obtain ⟨b, hb, rfl⟩ := Option.map_eq_some_iff.mp hy
  exact Document.stop_lt_start hs hmn ha hb

/-- The reports are those of the violations, one for each and in ascending order. Each points at the text of its
line, says how many characters it has and how many are allowed, which is fewer, and is as severe as the settings
ask. What a report points at ends before what the next one points at begins. -/
theorem diagnostics_describe (d : Document) (s : Settings) (hs : d.source.utf8ByteSize < 2 ^ 32) :
    (violations d s.options).Pairwise (· < ·) ∧
    List.Forall₂ (fun n x => ∃ text, Describes d s n text x) (violations d s.options) (diagnostics d s) ∧
    (diagnostics d s).Pairwise fun x y => x.span.stop < y.span.start := by
  refine ⟨pairwise_violations hs s.options, ?_, pairwise_spans hs⟩
  exact forall₂_filterMap fun n hn => exists_report hs hn

/-- Two lines of characters of two and three bytes, with different endings and a short line between them. -/
theorem diagnostics_describe_multibyte :
    let d := Document.ofSource "é漢字\r\nok\rüüüü"
    let s : Settings := ⟨.warning, { lineLength := 2 }⟩
    violations d s.options = [1, 3] ∧ (diagnostics d s).map (·.span) = [⟨0, 8⟩, ⟨13, 21⟩] ∧
      List.Forall₂ (fun n x => ∃ text, Describes d s n text x) (violations d s.options) (diagnostics d s) ∧
      (diagnostics d s).Pairwise fun x y => x.span.stop < y.span.start := by
  intro d s
  have hviolations : violations d s.options = [1, 3] := by cbv
  have hspans : (diagnostics d s).map (·.span) = [⟨0, 8⟩, ⟨13, 21⟩] := by cbv
  obtain ⟨_, hreports, hapart⟩ := diagnostics_describe d s (by decide)
  exact ⟨hviolations, hspans, hreports, hapart⟩

end Check

end LineLimit

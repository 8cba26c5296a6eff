import LineLimit.Document
import LineLimit.Proofs.Text.Grammar
import Mathlib
/-!
The table of lines. Its entries are exact in documents of fewer than 2 ^ 32 bytes: they give the bytes of every
line's text, and what lies between two entries is the ending of the first. Together with the grammar of lines,
a text and its lines determine each other.
-/

namespace LineLimit

@[simp] theorem byteCount_nil : byteCount [] = 0 := rfl

@[simp] theorem byteCount_cons (c : Char) (s : List Char) : byteCount (c :: s) = c.utf8Size + byteCount s := rfl

@[simp] theorem byteCount_append (s t : List Char) : byteCount (s ++ t) = byteCount s + byteCount t := by
  induction s with
  | nil => rw [List.nil_append, byteCount_nil, Nat.zero_add]
  | cons c s ih => rw [List.cons_append, byteCount_cons, byteCount_cons, ih, Nat.add_assoc]

theorem size_utf8Encode (s : List Char) : s.utf8Encode.size = byteCount s := by
  induction s with
  | nil => rfl
  | cons c s ih =>
      rw [List.utf8Encode_cons, ByteArray.size_append, ih, byteCount_cons, List.utf8Encode_singleton,
        List.size_toByteArray, String.length_utf8EncodeChar]

theorem byteCount_toList (s : String) : byteCount s.toList = s.utf8ByteSize := by
  rw [← size_utf8Encode, String.utf8Encode_toList, String.size_toByteArray]

theorem length_le_byteCount (s : List Char) : s.length ≤ byteCount s := by
  induction s with
  | nil => exact Nat.le_refl 0
  | cons c s ih =>
      have hc := c.utf8Size_pos
      rw [List.length_cons, byteCount_cons]
      omega

/-- The bytes of a part of a text stand where the counts of the parts before it say. -/
theorem extract_utf8Encode (before part after : List Char) :
    (before ++ (part ++ after)).utf8Encode.extract (byteCount before) (byteCount before + byteCount part) =
      part.utf8Encode := by
  rw [List.utf8Encode_append, List.utf8Encode_append, ← size_utf8Encode before, ← size_utf8Encode part]
  exact (ByteArray.extract_append_size_add (i := 0)).trans (ByteArray.extract_append_eq_left rfl)

theorem toNat_word {n : Nat} (h : n < 2 ^ 32) : (UInt32.ofNat n).toNat = n := UInt32.toNat_ofNat_of_lt' h

theorem length_split_lt {s : List Char} (h : byteCount s < 2 ^ 32) : (Line.split s).length < 2 ^ 32 :=
  Nat.lt_of_le_of_lt (Nat.le_trans (Line.length_split_le s) (length_le_byteCount s)) h

/-- The entry of a line that starts at a byte: its numbers are those of the line and not cut off. -/
structure LineInfo.Exact (info : LineInfo) (offset : Nat) (l : Line) : Prop where
  start : info.start.toNat = offset
  stop : info.stop.toNat = offset + byteCount l.text
  chars : info.chars.toNat = l.text.length

theorem byteCount_chars (l : Line) : byteCount l.chars = byteCount l.text + byteCount l.endingChars :=
  byteCount_append l.text l.endingChars

theorem LineInfo.exact_ofNat {offset : Nat} {l : Line} (h : offset + byteCount l.text < 2 ^ 32) :
    Exact ⟨.ofNat offset, .ofNat (offset + byteCount l.text), .ofNat l.text.length⟩ offset l := by
  have hl := length_le_byteCount l.text
  exact ⟨toNat_word (by omega), toNat_word h, toNat_word (by omega)⟩

/-- Every line has its entry at its place, which counts the bytes of the lines before it. -/
theorem LineInfo.exact_table (offset : Nat) {before after : List Line} {l : Line}
    (h : offset + byteCount (Line.write (before ++ l :: after)) < 2 ^ 32) :
    ∃ info, (table offset (before ++ l :: after))[before.length]? = some info ∧
      info.Exact (offset + byteCount (Line.write before)) l := by
  induction before generalizing offset with
  | nil =>
      simp only [List.nil_append, Line.write_cons, byteCount_append, byteCount_chars] at h
      exact ⟨_, rfl, exact_ofNat (by omega)⟩
  | cons first before ih =>
      simp only [List.cons_append, Line.write_cons, byteCount_append] at h ⊢
      obtain ⟨info, hget, hexact⟩ :=
        ih (offset + byteCount first.chars) (by simpa only [byteCount_append, Nat.add_assoc] using h)
      exact ⟨info, hget, by simpa only [Nat.add_assoc] using hexact⟩

namespace Document

variable {d : Document}

theorem toNat_lineCount (hs : d.source.utf8ByteSize < 2 ^ 32) : d.lineCount.toNat = d.lines.length := by
  rw [← byteCount_toList] at hs
  exact toNat_word (d.lines_eq ▸ length_split_lt hs)

theorem length_lines_lt (hs : d.source.utf8ByteSize < 2 ^ 32) : d.lines.length < 2 ^ 32 := by
  rw [← byteCount_toList] at hs
  exact d.lines_eq ▸ length_split_lt hs

theorem write_lines (d : Document) : Line.write d.lines = d.source.toList := by
  rw [d.lines_eq, Line.write_split]

theorem regular_lines (d : Document) : Line.Regular d.lines := d.lines_eq ▸ Line.regular_split _

theorem lineInfo?_eq {n : UInt32} (hn : n ≠ 0) :
    d.lineInfo? n = (LineInfo.table 0 d.lines)[n.toNat - 1]? := by
  rw [lineInfo?, if_neg hn, d.infos_eq, List.getElem?_toArray]

theorem lineInfo?_eq_none_iff (n : UInt32) : d.lineInfo? n = none ↔ n = 0 ∨ d.lines.length < n.toNat := by
  by_cases hn : n = 0
  · simp only [lineInfo?, hn, if_true, true_or]
  · have hpos : n.toNat ≠ 0 := fun h => hn (UInt32.toNat_inj.mp h)
    rw [lineInfo?_eq hn, List.getElem?_eq_none_iff, LineInfo.length_table]
    constructor
    · intro h
      exact .inr (by omega)
    · rintro (h | h)
      · exact absurd h hn
      · omega

theorem lineInfo?_exact (hs : d.source.utf8ByteSize < 2 ^ 32) {before after : List Line} {l : Line}
    (h : d.lines = before ++ l :: after) :
    ∃ info, d.lineInfo? (.ofNat (before.length + 1)) = some info ∧
      info.Exact (byteCount (Line.write before)) l := by
  have hlt := length_lines_lt hs
  rw [h, List.length_append, List.length_cons] at hlt
  have hn : (UInt32.ofNat (before.length + 1)).toNat = before.length + 1 :=
    toNat_word (by omega)
  have hne : UInt32.ofNat (before.length + 1) ≠ 0 := fun e => by
    rw [e] at hn
    exact nomatch hn
  rw [← byteCount_toList, ← write_lines, h] at hs
  obtain ⟨info, hget, hexact⟩ := LineInfo.exact_table 0 (by rw [Nat.zero_add]; exact hs)
  refine ⟨info, ?_, by simpa only [Nat.zero_add] using hexact⟩
  rw [lineInfo?_eq hne, hn, Nat.add_sub_cancel, h]
  exact hget

/-- Where the line after line `n` starts, or where the text ends. -/
def nextStart (d : Document) (n : UInt32) : Nat :=
  match d.lineInfo? (n + 1) with
  | some info => info.start.toNat
  | none => d.source.utf8ByteSize

theorem nextStart_eq (hs : d.source.utf8ByteSize < 2 ^ 32) {before after : List Line} {l : Line}
    (h : d.lines = before ++ l :: after) :
    d.nextStart (.ofNat (before.length + 1)) = byteCount (Line.write before) + byteCount l.chars := by
  have hnext : UInt32.ofNat (before.length + 1) + 1 = .ofNat ((before ++ [l]).length + 1) := by
    rw [List.length_append, List.length_singleton, UInt32.ofNat_add (before.length + 1)]
    rfl
  rw [nextStart, hnext]
  cases after with
  | nil =>
      have hnone : d.lineInfo? (.ofNat ((before ++ [l]).length + 1)) = none := by
        have hlt := length_lines_lt hs
        rw [lineInfo?_eq_none_iff, h]
        rw [h] at hlt
        by_cases hmax : (before ++ [l]).length + 1 < 2 ^ 32
        · exact .inr (by rw [toNat_word hmax]; omega)
        · have he : (before ++ [l]).length + 1 = 2 ^ 32 := by omega
          exact .inl (by rw [he]; rfl)
      rw [hnone, ← byteCount_toList, ← write_lines, h]
      simp only [Line.write_append, Line.write_cons, Line.write_nil, byteCount_append, byteCount_nil, Nat.add_zero]
  | cons next after =>
      have h' : d.lines = (before ++ [l]) ++ next :: after := by rw [h, List.append_assoc]; rfl
      obtain ⟨info, hget, hexact⟩ := lineInfo?_exact hs h'
      rw [hget]
      simp only [hexact.start, Line.write_append, Line.write_cons, Line.write_nil, List.append_nil, byteCount_append]

/-- A document has exactly these lines. Their texts come in this order with the numbers from 1. Each has an exact
entry and no other number has one. In bytes, the entry of a line bounds its text, and what follows up to the
next entry is its ending. -/
structure Holds (d : Document) (lines : List Line) : Prop where
  numbers : d.numbered.map (·.1.toNat) = List.range' 1 lines.length
  texts : d.numbered.map (·.2) = lines.map (·.text)
  count : d.lineCount.toNat = lines.length
  others : ∀ n, d.lineInfo? n = none ↔ n = 0 ∨ lines.length < n.toNat
  entries : ∀ before l after, lines = before ++ l :: after →
    ∃ info, d.lineInfo? (.ofNat (before.length + 1)) = some info ∧
      info.Exact (byteCount (Line.write before)) l ∧
      d.source.toByteArray.extract info.start.toNat info.stop.toNat = l.text.utf8Encode ∧
      d.source.toByteArray.extract info.stop.toNat (d.nextStart (.ofNat (before.length + 1))) =
        l.endingChars.utf8Encode

theorem map_numbered_toNat (hs : d.source.utf8ByteSize < 2 ^ 32) :
    d.numbered.map (·.1.toNat) = List.range' 1 d.lines.length := by
  have hlt := length_lines_lt hs
  apply List.ext_getElem
  · simp only [numbered, List.length_map, List.length_zipIdx, List.length_range']
  · intro i hi _
    simp only [numbered, List.length_map, List.length_zipIdx] at hi
    simp only [numbered, List.getElem_map, List.getElem_zipIdx, List.getElem_range', Nat.zero_add]
    rw [toNat_word (by omega)]
    omega

theorem map_numbered_text (d : Document) : d.numbered.map (·.2) = d.lines.map (·.text) := by
  apply List.ext_getElem
  · simp only [numbered, List.length_map, List.length_zipIdx]
  · intro i _ _
    simp only [numbered, List.getElem_map, List.getElem_zipIdx]

/-- A number with a text stands for the line of that number, which has that text. -/
theorem mem_numbered_iff (hs : d.source.utf8ByteSize < 2 ^ 32) {n : UInt32} {text : List Char} :
    (n, text) ∈ d.numbered ↔ 1 ≤ n.toNat ∧ ∃ l, d.lines[n.toNat - 1]? = some l ∧ l.text = text := by
  have hlt := length_lines_lt hs
  simp only [numbered, List.mem_map, Prod.exists, List.mem_zipIdx_iff_getElem?]
  constructor
  · rintro ⟨l, i, hget, heq⟩
    cases heq
    obtain ⟨hi, _⟩ := List.getElem?_eq_some_iff.mp hget
    rw [toNat_word (by omega)]
    exact ⟨Nat.le_add_left 1 i, l, by rwa [Nat.add_sub_cancel], rfl⟩
  · rintro ⟨hn, l, hget, rfl⟩
    refine ⟨l, n.toNat - 1, hget, ?_⟩
    rw [Nat.sub_add_cancel hn, UInt32.ofNat_toNat]

theorem le_lineCount_of_mem_numbered (hs : d.source.utf8ByteSize < 2 ^ 32) {n : UInt32}
    {text : List Char} (h : (n, text) ∈ d.numbered) : n ≤ d.lineCount := by
  obtain ⟨hpos, l, hget, _⟩ := (mem_numbered_iff hs).mp h
  obtain ⟨hi, _⟩ := List.getElem?_eq_some_iff.mp hget
  rw [UInt32.le_iff_toNat_le, toNat_lineCount hs]
  omega

/-- The lines that are found by their text are lines of the document, each under its own number. -/
theorem mem_matchingLines_iff (hs : d.source.utf8ByteSize < 2 ^ 32) {p : List Char → Bool} {n : UInt32} :
    n ∈ d.matchingLines p ↔ 1 ≤ n.toNat ∧ ∃ l, d.lines[n.toNat - 1]? = some l ∧ p l.text = true := by
  simp only [matchingLines, List.mem_map, List.mem_filter, Prod.exists, mem_numbered_iff hs]
  constructor
  · rintro ⟨_, _, ⟨⟨hn, l, hget, rfl⟩, hp⟩, rfl⟩
    exact ⟨hn, l, hget, hp⟩
  · rintro ⟨hn, l, hget, hp⟩
    exact ⟨n, l.text, ⟨⟨hn, l, hget, rfl⟩, hp⟩, rfl⟩

theorem toByteArray_eq {before after : List Line} {l : Line} (h : d.lines = before ++ l :: after) :
    d.source.toByteArray =
      (Line.write before ++ (l.text ++ (l.endingChars ++ Line.write after))).utf8Encode := by
  rw [← String.utf8Encode_toList, ← write_lines, h, Line.write_append, Line.write_cons, Line.chars,
    List.append_assoc]

theorem holds_lines (hs : d.source.utf8ByteSize < 2 ^ 32) : d.Holds d.lines where
  numbers := map_numbered_toNat hs
  texts := map_numbered_text d
  count := toNat_lineCount hs
  others := lineInfo?_eq_none_iff
  entries := by
    intro before l after h
    obtain ⟨info, hget, hexact⟩ := lineInfo?_exact hs h
    refine ⟨info, hget, hexact, ?_, ?_⟩
    · rw [toByteArray_eq h, hexact.start, hexact.stop]
      exact extract_utf8Encode _ _ _
    · rw [toByteArray_eq h, hexact.stop, nextStart_eq hs h, byteCount_chars, ← Nat.add_assoc,
        ← byteCount_append, ← List.append_assoc]
      exact extract_utf8Encode _ _ _

/-- Splitting a text into lines and writing the lines are inverse to each other, on all regular lists of lines and
all texts of fewer than 2 ^ 32 bytes, and the table of lines is exact on both ways. -/
theorem lines_bijection :
    (∀ lines, Line.Regular lines → byteCount (Line.write lines) < 2 ^ 32 →
      (ofSource (String.ofList (Line.write lines))).Holds lines) ∧
    ∀ source : String, source.utf8ByteSize < 2 ^ 32 →
      Line.Regular (ofSource source).lines ∧
      String.ofList (Line.write (ofSource source).lines) = source ∧
      (ofSource source).Holds (ofSource source).lines ∧
      ∀ before l after, (ofSource source).lines = before ++ l :: after →
        '\n' ∉ l.text ∧ '\r' ∉ l.text ∧
        (l.ending = none → after = [] ∧ l.text ≠ []) ∧
        (l.ending = some .cr → (Line.write after).head? ≠ some '\n') := by
  constructor
  · intro lines hreg hsize
    have hlines : (ofSource (String.ofList (Line.write lines))).lines = lines := by
      rw [lines_eq]
      simp only [ofSource, new, String.toList_ofList, Line.split_write hreg]
    have hholds : (ofSource (String.ofList (Line.write lines))).Holds _ :=
      holds_lines (by rw [ofSource, new, ← byteCount_toList, String.toList_ofList]; exact hsize)
    rwa [hlines] at hholds
  · intro source hs
    refine ⟨regular_lines _, ?_, holds_lines hs, ?_⟩
    · rw [write_lines]
      exact String.ofList_toList
    · intro before l after h
      obtain ⟨hl, hb, hr⟩ := (h ▸ regular_lines (ofSource source)).split_at
      exact ⟨hl.1, hl.2, hb.of_ending_none, hb.head?_write_ne hr⟩

/-- Mixed endings: two bare carriage returns before the two characters of one ending, and a last line without
one. -/
theorem lines_bijection_mixed :
    (ofSource "é\r\r\r\n\nb").Holds
      [⟨['é'], some .cr⟩, ⟨[], some .cr⟩, ⟨[], some .crlf⟩, ⟨[], some .lf⟩, ⟨['b'], none⟩] := by
  have hreg : Line.Regular
      [⟨['é'], some .cr⟩, ⟨[], some .cr⟩, ⟨[], some .crlf⟩, ⟨[], some .lf⟩, ⟨['b'], none⟩] :=
    Line.regular_iff.mpr (by decide)
  exact lines_bijection.1 _ hreg (by decide)

end Document

end LineLimit

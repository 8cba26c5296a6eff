import LineLimit.Proofs.Outcome
import LineLimit.Proofs.Text.LineTable
/-!
A guarded reading of lines. Every number is tested before it becomes a word, every sum of words is tested, and a
part of a text is taken only from between two characters to between two others. A text of fewer than 2 ^ 32 bytes
passes all tests, and its lines are those of its document.
-/

namespace LineLimit.Guarded

inductive Fault
  | word (n : Nat)
  | slice (start stop : Nat)
  | index (i size : Nat)
  deriving DecidableEq, Repr

/-- A number as a word, if nothing of it is lost. -/
def word (n : Nat) : Except Fault UInt32 := if n < UInt32.size then .ok (.ofNat n) else .error (.word n)

def add (a b : UInt32) : Except Fault UInt32 := word (a.toNat + b.toNat)

/-- The characters up to byte `n` and those from there, if no character lies across that byte. -/
def cut? : Nat → List Char → Option (List Char × List Char)
  | 0, s => some ([], s)
  | _ + 1, [] => none
  | n + 1, c :: s => if c.utf8Size ≤ n + 1 then (cut? (n + 1 - c.utf8Size) s).map fun (a, b) => (c :: a, b) else none

def slice (s : List Char) (start stop : Nat) : Except Fault (List Char) :=
  match cut? start s with
  | none => .error (.slice start stop)
  | some (_, rest) =>
    match if start ≤ stop then cut? (stop - start) rest else none with
    | none => .error (.slice start stop)
    | some (part, _) => .ok part

theorem word_eq_ok {n : Nat} (h : n < 2 ^ 32) : word n = .ok (.ofNat n) := if_pos h

theorem cut?_append (a b : List Char) : cut? (byteCount a) (a ++ b) = some (a, b) := by
  induction a with
  | nil => rw [byteCount_nil, List.nil_append, cut?]
  | cons c a ih =>
      obtain ⟨n, hn⟩ := Nat.exists_eq_add_one_of_ne_zero (Nat.ne_of_gt c.utf8Size_pos)
      have hsize : byteCount (c :: a) = (byteCount a + n) + 1 := by
        rw [byteCount_cons, hn]
        omega
      rw [hsize, List.cons_append, cut?, if_pos (by omega), hn, Nat.add_sub_add_right, Nat.add_sub_cancel, ih,
        Option.map_some]

theorem of_cut?_eq_some {n : Nat} {s a b : List Char} (h : cut? n s = some (a, b)) : s = a ++ b ∧ byteCount a = n := by
  fun_induction cut? n s generalizing a with
  | case1 s =>
      cases h
      exact ⟨rfl, rfl⟩
  | case2 n => cases h
  | case3 n c s hc ih =>
      obtain ⟨⟨a', b'⟩, hcut, heq⟩ := Option.map_eq_some_iff.mp h
      cases heq
      obtain ⟨rfl, hcount⟩ := ih hcut
      refine ⟨rfl, ?_⟩
      rw [byteCount_cons, hcount]
      omega
  | case4 n c s hc => cases h

theorem slice_eq_ok {a t b : List Char} :
    slice (a ++ (t ++ b)) (byteCount a) (byteCount a + byteCount t) = .ok t := by
  simp only [slice, cut?_append, if_pos (Nat.le_add_right _ _), Nat.add_sub_cancel_left]

/-- A slice is taken exactly where a text stands in the source between whole characters. -/
theorem slice_eq_ok_iff {s t : List Char} {start stop : Nat} :
    slice s start stop = .ok t ↔ ∃ a b, s = a ++ (t ++ b) ∧ byteCount a = start ∧ byteCount a + byteCount t = stop := by
  constructor
  · intro h
    unfold slice at h
    split at h
    · cases h
    · next a rest hstart =>
        split at h
        · cases h
        · next part b hstop =>
            cases h
            by_cases hle : start ≤ stop
            · rw [if_pos hle] at hstop
              obtain ⟨rfl, rfl⟩ := of_cut?_eq_some hstart
              obtain ⟨rfl, hcount⟩ := of_cut?_eq_some hstop
              exact ⟨a, b, rfl, rfl, by omega⟩
            · rw [if_neg hle] at hstop
              cases hstop
  · intro ⟨a, b, hs, hstart, hstop⟩
    rw [hs, ← hstop, ← hstart]
    exact slice_eq_ok

/-- Where the texts of lines begin and end, when the first one begins at byte `offset`. -/
def ranges (offset : Nat) : List Line → List (Nat × Nat)
  | [] => []
  | l :: rest => (offset, offset + byteCount l.text) :: ranges (offset + byteCount l.chars) rest

/-- The entry of a line, made from its text. -/
def entry (source : List Char) (range : Nat × Nat) : Except Fault LineInfo := do
  let text ← slice source range.1 range.2
  let start ← word range.1
  let size ← word (byteCount text)
  let stop ← add start size
  let chars ← word text.length
  return ⟨start, stop, chars⟩

def table (source : List Char) : Except Fault (List LineInfo) := (ranges 0 (Line.split source)).mapM (entry source)

/-- A line's text and number, read by its entry, which has that place among the entries. -/
def numberedLine (source : List Char) (place : LineInfo × Nat) : Except Fault (UInt32 × List Char) := do
  let text ← slice source place.1.start.toNat place.1.stop.toNat
  let before ← word place.2
  let n ← add before 1
  return (n, text)

def numbered (source : List Char) (infos : List LineInfo) : Except Fault (List (UInt32 × List Char)) :=
  infos.zipIdx.mapM (numberedLine source)

theorem entry_eq_ok {a t b : List Char} (h : byteCount (a ++ t) < 2 ^ 32) :
    entry (a ++ (t ++ b)) (byteCount a, byteCount a + byteCount t) =
      .ok ⟨.ofNat (byteCount a), .ofNat (byteCount a + byteCount t), .ofNat t.length⟩ := by
  rw [byteCount_append] at h
  have ht := length_le_byteCount t
  have hstart : (UInt32.ofNat (byteCount a)).toNat = byteCount a := toNat_word (by omega)
  have hsize : (UInt32.ofNat (byteCount t)).toNat = byteCount t := toNat_word (by omega)
  simp only [entry, add, slice_eq_ok, word_eq_ok (show byteCount a < 2 ^ 32 by omega),
    word_eq_ok (show byteCount t < 2 ^ 32 by omega), word_eq_ok (show t.length < 2 ^ 32 by omega), bind, Except.bind,
    hstart, hsize, word_eq_ok h]
  rfl

theorem numberedLine_eq_ok {a b : List Char} {l : Line} {k : Nat} (h : byteCount (a ++ l.text) < 2 ^ 32)
    (hk : k + 1 < 2 ^ 32) :
    numberedLine (a ++ (l.text ++ b))
        (⟨.ofNat (byteCount a), .ofNat (byteCount a + byteCount l.text), .ofNat l.text.length⟩, k) =
      .ok (.ofNat (k + 1), l.text) := by
  rw [byteCount_append] at h
  have hstart : (UInt32.ofNat (byteCount a)).toNat = byteCount a := toNat_word (by omega)
  have hstop : (UInt32.ofNat (byteCount a + byteCount l.text)).toNat = byteCount a + byteCount l.text := toNat_word h
  have hplace : (UInt32.ofNat k).toNat = k := toNat_word (by omega)
  have hone : (1 : UInt32).toNat = 1 := rfl
  simp only [numberedLine, add, hstart, hstop, slice_eq_ok, word_eq_ok (show k < 2 ^ 32 by omega), bind, Except.bind,
    hplace, hone, word_eq_ok hk]
  rfl

/-- The characters before some lines, before the text of the first line, and before the lines after it. -/
theorem append_write_cons (a : List Char) (l : Line) (rest : List Line) :
    a ++ Line.write (l :: rest) = a ++ (l.text ++ (l.endingChars ++ Line.write rest)) ∧
      a ++ Line.write (l :: rest) = (a ++ l.chars) ++ Line.write rest := by
  rw [Line.write_cons, Line.chars]
  simp only [List.append_assoc, and_self]

theorem byteCount_text_lt {a : List Char} {l : Line} {rest : List Line}
    (h : byteCount (a ++ Line.write (l :: rest)) < 2 ^ 32) : byteCount (a ++ l.text) < 2 ^ 32 := by
  rw [(append_write_cons a l rest).1] at h
  simp only [byteCount_append] at h ⊢
  omega

/-- The induction is on the lines, of which the first ones have been moved to the characters before. -/
theorem mapM_entry (a : List Char) {lines : List Line} (h : byteCount (a ++ Line.write lines) < 2 ^ 32) :
    (ranges (byteCount a) lines).mapM (entry (a ++ Line.write lines)) = .ok (LineInfo.table (byteCount a) lines) := by
  induction lines generalizing a with
  | nil => rfl
  | cons l rest ih =>
      obtain ⟨hfirst, hrest⟩ := append_write_cons a l rest
      have hentry := entry_eq_ok (b := l.endingChars ++ Line.write rest) (byteCount_text_lt h)
      rw [← hfirst] at hentry
      have hmore := ih (a ++ l.chars) (hrest ▸ h)
      rw [← hrest, byteCount_append] at hmore
      rw [ranges, List.mapM_cons, hentry, hmore]
      rfl

theorem mapM_numberedLine (a : List Char) {lines : List Line} (h : byteCount (a ++ Line.write lines) < 2 ^ 32) {k : Nat}
    (hk : k + lines.length < 2 ^ 32) :
    ((LineInfo.table (byteCount a) lines).zipIdx k).mapM (numberedLine (a ++ Line.write lines)) =
      .ok ((lines.zipIdx k).map fun (l, i) => (.ofNat (i + 1), l.text)) := by
  induction lines generalizing a k with
  | nil => rfl
  | cons l rest ih =>
      obtain ⟨hfirst, hrest⟩ := append_write_cons a l rest
      rw [List.length_cons] at hk
      have hline := numberedLine_eq_ok (b := l.endingChars ++ Line.write rest) (byteCount_text_lt h)
        (show k + 1 < 2 ^ 32 by omega)
      rw [← hfirst] at hline
      have hmore := ih (a ++ l.chars) (hrest ▸ h) (k := k + 1) (by omega)
      rw [← hrest, byteCount_append] at hmore
      rw [LineInfo.table, List.zipIdx_cons, List.mapM_cons, hline, hmore]
      rfl

variable {d : Document}

theorem table_eq_ok (hs : d.source.utf8ByteSize < 2 ^ 32) : table d.source.toList = .ok d.infos.toList := by
  have hsource : [] ++ Line.write d.lines = d.source.toList := d.write_lines
  rw [← byteCount_toList, ← hsource] at hs
  have htable := mapM_entry [] hs
  rw [hsource, byteCount_nil] at htable
  rw [table, ← d.lines_eq, htable, d.infos_eq]

theorem numbered_eq_ok (hs : d.source.utf8ByteSize < 2 ^ 32) :
    numbered d.source.toList d.infos.toList = .ok d.numbered := by
  have hcount := Document.length_lines_lt hs
  have hsource : [] ++ Line.write d.lines = d.source.toList := d.write_lines
  rw [← byteCount_toList, ← hsource] at hs
  have hlines := mapM_numberedLine [] hs (k := 0) (by omega)
  rw [hsource, byteCount_nil] at hlines
  rw [numbered, d.infos_eq]
  exact hlines

end LineLimit.Guarded

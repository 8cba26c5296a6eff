import LineLimit.Proofs.Text.Bytes
import LineLimit.Proofs.Text.LineTable
/-!
Lines found by counting. A byte of a text stands on the line whose number is one more than the number of endings up
to it. The two bytes of a carriage return and a line feed stand on the line that they end. This agrees with the table
of lines, which is made by splitting the text.
-/

namespace LineLimit

/-- Whether an ending has byte `i` for its last byte: a line feed, or a carriage return that no line feed follows. -/
def endsAt (bytes : List UInt8) (i : Nat) : Bool :=
  bytes[i]? == some 10 || (bytes[i]? == some 13 && bytes[i + 1]? != some 10)

/-- The number of endings that end at offset `o` or before it. -/
def endingsBefore (bytes : List UInt8) (o : Nat) : Nat := (List.range o).countP (endsAt bytes)

theorem endsAt_append (x y : List UInt8) (i : Nat) : endsAt (x ++ y) (x.length + i) = endsAt y i := by
  simp only [endsAt, Nat.add_assoc, List.getElem?_append_right (Nat.le_add_right _ _), Nat.add_sub_cancel_left]

theorem endingsBefore_append (x y : List UInt8) (k : Nat) :
    endingsBefore (x ++ y) (x.length + k) = endingsBefore (x ++ y) x.length + endingsBefore y k := by
  have hshift : endsAt (x ++ y) ∘ (x.length + ·) = endsAt y := by
    funext i
    exact endsAt_append x y i
  rw [endingsBefore, List.range_add, List.countP_append, List.countP_map, hshift]
  rfl

theorem endingsBefore_of_not_mem {x : List UInt8} (hlf : 10 ∉ x) (hcr : 13 ∉ x) (y : List UInt8) {k : Nat}
    (hk : k ≤ x.length) : endingsBefore (x ++ y) k = 0 := by
  apply List.countP_eq_zero.mpr
  intro i hi
  have hlt : i < x.length := Nat.lt_of_lt_of_le (List.mem_range.mp hi) hk
  have hmem : x[i] ∈ x := List.getElem_mem hlt
  have hne : x[i] ≠ 10 ∧ x[i] ≠ 13 := ⟨fun h => hlf (h ▸ hmem), fun h => hcr (h ▸ hmem)⟩
  simp [endsAt, List.getElem?_append_left hlt, List.getElem?_eq_getElem hlt, hne]

theorem endingsBefore_ending {e : Ending} {y : List UInt8} (h : e = .cr → y.head? ≠ some 10) {k : Nat}
    (hk : k ≤ byteCount e.chars) :
    endingsBefore (Utf8.encode e.chars ++ y) k = if k = byteCount e.chars then 1 else 0 := by
  cases e with
  | lf =>
      have hk' : k ≤ 1 := hk
      interval_cases k <;> rfl
  | crlf =>
      have hk' : k ≤ 2 := hk
      interval_cases k <;> rfl
  | cr =>
      have hk' : k ≤ 1 := hk
      interval_cases k
      · rfl
      · have hy : y[0]? ≠ some 10 := List.head?_eq_getElem? (l := y) ▸ h rfl
        change endingsBefore (13 :: y) 1 = 1
        simp [endingsBefore, endsAt, hy]

theorem head?_encode_ne {s : List Char} (h : s.head? ≠ some '\n') : (Utf8.encode s).head? ≠ some 10 := by
  cases s with
  | nil => exact nofun
  | cons c s =>
      intro hhead
      have hc : c.val.toNat ≠ 10 := fun hval => h (congrArg some (Char.toNat_inj.mp hval))
      have hmem : 10 ∈ String.utf8EncodeChar c := by
        rw [Utf8.encode_cons, List.head?_append_of_ne_nil _ String.utf8EncodeChar_ne_nil] at hhead
        exact List.mem_of_head? hhead
      exact Utf8.ofNat_not_mem_utf8EncodeChar (by decide) hc hmem

theorem not_mem_encode {c : Char} (hc : c.val.toNat < 128) {s : List Char} (h : c ∉ s) :
    UInt8.ofNat c.val.toNat ∉ Utf8.encode s := by
  rw [Utf8.encode, List.mem_flatMap]
  intro ⟨d, hd, hmem⟩
  have hne : d.val.toNat ≠ c.val.toNat := by
    intro hval
    exact h (Char.toNat_inj.mp hval ▸ hd)
  exact Utf8.ofNat_not_mem_utf8EncodeChar hc hne hmem

namespace Line

variable {l : Line} {y : List UInt8}

/-- No ending is found in the text of a line, so those found further on are found behind the text. -/
theorem endingsBefore_text (hl : Unbroken l.text) (k : Nat) :
    endingsBefore (Utf8.encode l.chars ++ y) (byteCount l.text + k) =
      endingsBefore (Utf8.encode l.endingChars ++ y) k := by
  have hlf := not_mem_encode (by decide) hl.1
  have hcr := not_mem_encode (by decide) hl.2
  rw [chars, Utf8.encode_append, List.append_assoc, ← Utf8.length_encode, endingsBefore_append,
    endingsBefore_of_not_mem hlf hcr _ (Nat.le_refl _), Nat.zero_add]

theorem endingsBefore_endingChars (hcr : l.ending = some .cr → y.head? ≠ some 10) (hending : l.ending ≠ none)
    {k : Nat} (hk : k ≤ byteCount l.endingChars) :
    endingsBefore (Utf8.encode l.endingChars ++ y) k = if k = byteCount l.endingChars then 1 else 0 := by
  obtain ⟨e, he⟩ := Option.ne_none_iff_exists'.mp hending
  rw [endingChars, he] at hk ⊢
  apply endingsBefore_ending _ hk
  intro hlone
  exact hcr (he.trans (congrArg some hlone))

/-- The bytes of a line are those before the end of its ending. -/
theorem endingsBefore_inside (hl : Unbroken l.text) (hcr : l.ending = some .cr → y.head? ≠ some 10) {k : Nat}
    (hk : k < byteCount l.chars) : endingsBefore (Utf8.encode l.chars ++ y) k = 0 := by
  rw [byteCount_chars] at hk
  by_cases hin : k ≤ byteCount l.text
  · rw [chars, Utf8.encode_append, List.append_assoc]
    rw [← Utf8.length_encode] at hin
    exact endingsBefore_of_not_mem (not_mem_encode (by decide) hl.1) (not_mem_encode (by decide) hl.2) _ hin
  · obtain ⟨j, rfl⟩ := Nat.exists_eq_add_of_le (Nat.le_of_not_le hin)
    have hending : l.ending ≠ none := by
      intro hnone
      rw [endingChars, hnone, byteCount_nil] at hk
      omega
    rw [endingsBefore_text hl, endingsBefore_endingChars hcr hending (by omega), if_neg (by omega)]

theorem endingsBefore_behind (hl : Unbroken l.text) (hcr : l.ending = some .cr → y.head? ≠ some 10)
    (hending : l.ending ≠ none) : endingsBefore (Utf8.encode l.chars ++ y) (byteCount l.chars) = 1 := by
  rw [byteCount_chars, endingsBefore_text hl, endingsBefore_endingChars hcr hending (Nat.le_refl _), if_pos rfl]

/-- Behind some lines, as many endings are counted as there are lines. The induction is on these lines, of which
each has its ending since others follow. -/
theorem endingsBefore_write {before after : List Line} (h : Regular (before ++ l :: after)) {k : Nat}
    (hk : k < byteCount l.chars) :
    endingsBefore (Utf8.encode (write (before ++ l :: after))) (byteCount (write before) + k) = before.length := by
  induction before with
  | nil =>
      obtain ⟨hl, hb, hafter⟩ := h.split_at
      rw [List.nil_append, write_cons, Utf8.encode_append, write_nil, byteCount_nil, Nat.zero_add]
      exact endingsBefore_inside hl (fun hcr => head?_encode_ne (hb.head?_write_ne hafter hcr)) hk
  | cons first before ih =>
      have hsplit : Regular ([] ++ first :: (before ++ l :: after)) := h
      obtain ⟨hl, hb, hrest⟩ := hsplit.split_at
      have hending : first.ending ≠ none := by
        intro hnone
        obtain ⟨hnil, _⟩ := hb.of_ending_none hnone
        exact List.append_ne_nil_of_right_ne_nil before (List.cons_ne_nil l after) hnil
      have hcr : first.ending = some .cr → (Utf8.encode (write (before ++ l :: after))).head? ≠ some 10 :=
        fun hcr => head?_encode_ne (hb.head?_write_ne hrest hcr)
      have hfirst := endingsBefore_behind hl hcr hending
      rw [← Utf8.length_encode] at hfirst
      rw [List.cons_append, write_cons, Utf8.encode_append, write_cons, byteCount_append, Nat.add_assoc,
        ← Utf8.length_encode first.chars, endingsBefore_append, hfirst, ih hrest, List.length_cons, Nat.add_comm]

/-- Every byte of a text belongs to a line or to its ending. -/
theorem exists_line_of_lt {lines : List Line} {o : Nat} (ho : o < byteCount (write lines)) :
    ∃ before l after k, lines = before ++ l :: after ∧ o = byteCount (write before) + k ∧ k < byteCount l.chars := by
  induction lines generalizing o with
  | nil => exact absurd ho (Nat.not_lt_zero o)
  | cons first rest ih =>
      rw [write_cons, byteCount_append] at ho
      by_cases hin : o < byteCount first.chars
      · exact ⟨[], first, rest, o, rfl, (Nat.zero_add o).symm, hin⟩
      · obtain ⟨j, rfl⟩ := Nat.exists_eq_add_of_le (Nat.le_of_not_lt hin)
        obtain ⟨before, l, after, k, hrest, hj, hk⟩ := ih (o := j) (by omega)
        refine ⟨first :: before, l, after, k, by rw [hrest, List.cons_append], ?_, hk⟩
        rw [write_cons, byteCount_append, hj, Nat.add_assoc]

end Line

/-- The line that is found by counting has an entry, and the byte stands between its start and the start of the next
line. -/
theorem Document.exists_line_at {d : Document} (hs : d.source.utf8ByteSize < 2 ^ 32) {o : Nat}
    (ho : o < d.source.utf8ByteSize) :
    ∃ (n : UInt32) (info : LineInfo), n.toNat = 1 + endingsBefore d.source.toUTF8.toList o ∧ n ≤ d.lineCount ∧
      d.lineInfo? n = some info ∧ info.start.toNat ≤ o ∧ o < d.nextStart n := by
  rw [← byteCount_toList, ← write_lines] at ho
  obtain ⟨before, l, after, k, hlines, rfl, hk⟩ := Line.exists_line_of_lt ho
  have hlt := length_lines_lt hs
  rw [hlines, List.length_append, List.length_cons] at hlt
  have hn : (UInt32.ofNat (before.length + 1)).toNat = before.length + 1 := toNat_word (by omega)
  obtain ⟨info, hinfo, hexact⟩ := lineInfo?_exact hs hlines
  refine ⟨.ofNat (before.length + 1), info, ?_, ?_, hinfo, ?_, ?_⟩
  · rw [hn, Utf8.toList_toUTF8, ← write_lines, hlines, Line.endingsBefore_write (hlines ▸ d.regular_lines) hk,
      Nat.add_comm]
  · rw [UInt32.le_iff_toNat_le, hn, toNat_lineCount hs, hlines, List.length_append, List.length_cons]
    omega
  · rw [hexact.start]
    exact Nat.le_add_right _ k
  · rw [nextStart_eq hs hlines]
    exact Nat.add_lt_add_left hk _

end LineLimit

import LineLimit.Proofs.Rule.Tables
import LineLimit.Proofs.Rule.Violations
import LineLimit.Proofs.Text.Guarded
/-!
A guarded run of the check. Exempt lines are marked in an array with a place for every line number, and every access
to it is tested, as is every number that becomes a word. Whatever places the elements have, the run passes all tests
and finds the lines that the check finds.
-/

namespace LineLimit

namespace Exemption

variable {d : Document} {o : Options}

theorem bounds_of_mem_codeBlocks {x : Exemption} (hx : x ∈ codeBlocks d) :
    1 ≤ x.first ∧ x.first ≤ x.last ∧ x.last ≤ d.lineCount := by
  obtain ⟨e, _, hspan⟩ := List.mem_filterMap.mp hx
  obtain ⟨start, _, hwithin⟩ := Option.bind_eq_some_iff.mp hspan
  obtain ⟨_, _, hpos, hle, _, hcount⟩ := of_within_eq_some hwithin
  exact ⟨hpos, hle, hcount⟩

theorem bounds_of_mem_tablesIn {count : UInt32} {places : List (UInt32 × Element)} {x : Exemption}
    (hx : x ∈ tablesIn count places) : 1 ≤ x.first ∧ x.first ≤ x.last ∧ x.last ≤ count := by
  induction places with
  | nil => exact absurd hx List.not_mem_nil
  | cons place below ih =>
      obtain ⟨start, e⟩ := place
      rw [tablesIn, List.mem_append] at hx
      cases hx with
      | inl hfirst =>
          have hspan := Option.mem_toList.mp hfirst
          rw [ofTable] at hspan
          split at hspan
          · obtain ⟨_, _, hpos, hle, _, hcount⟩ := of_within_eq_some hspan
            exact ⟨hpos, hle, hcount⟩
          · cases hspan
      | inr hrest => exact ih hrest

/-- A span lies in the document, wherever its element has its place. -/
theorem bounds_of_mem_spans {x : Exemption} (hx : x ∈ spans d o) :
    1 ≤ x.first ∧ x.first ≤ x.last ∧ x.last ≤ d.lineCount := by
  rw [spans, List.mem_append] at hx
  cases hx with
  | inl hcode =>
      split at hcode
      · exact bounds_of_mem_codeBlocks hcode
      · exact absurd hcode List.not_mem_nil
  | inr htable =>
      split at htable
      · exact bounds_of_mem_tablesIn htable
      · exact absurd htable List.not_mem_nil

end Exemption

namespace Guarded

def valueLines (e : Element) : Except Fault UInt32 :=
  match e.value with
  | some v => word (Line.split v.toList).length
  | none => .ok 0

def ofCodeBlock (count : UInt32) (e : Element) : Except Fault (Option Exemption) :=
  match e.location with
  | none => .ok none
  | some start => do
    let size ← valueLines e
    return Exemption.within count start (Exemption.saturatingAdd start size) .codeBlock

def spans (count : UInt32) (elements : List Element) (o : Options) : Except Fault (List Exemption) := do
  let blocks ←
    if o.ignoreCodeBlocks then (Element.findIn .codeBlock elements).filterMapM (ofCodeBlock count) else .ok []
  return blocks ++ if o.ignoreTables then Exemption.tablesIn count (Exemption.located elements) else []

def mark (mask : Array Bool) (i : Nat) : Except Fault (Array Bool) :=
  if h : i < mask.size then .ok (mask.set i true h) else .error (.index i mask.size)

def isMarked (mask : Array Bool) (n : UInt32) : Except Fault Bool :=
  if h : n.toNat < mask.size then .ok mask[n.toNat] else .error (.index n.toNat mask.size)

def markSpan (mask : Array Bool) (x : Exemption) : Except Fault (Array Bool) :=
  (List.range' x.first.toNat (x.last.toNat + 1 - x.first.toNat)).foldlM mark mask

/-- The lines that violate the rule. Place 0 of the mask stands for no line. -/
def violations (source : String) (elements : List Element) (o : Options) : Except Fault (List UInt32) := do
  let infos ← table source.toList
  let count ← word infos.length
  let exempt ← spans count elements o
  let mask ← exempt.foldlM markSpan (Array.replicate (count.toNat + 1) false)
  let lines ← numbered source.toList infos
  let long := (lines.filter fun (_, text) => Check.tooLong o text).map (·.1)
  long.filterMapM fun n => do return if ← isMarked mask n then none else some n

theorem valueLines_eq_ok {e : Element} (h : ∀ v, e.value = some v → v.utf8ByteSize < 2 ^ 32) :
    valueLines e = .ok e.valueLines := by
  cases hv : e.value with
  | none => simp only [valueLines, Element.valueLines, hv]
  | some v =>
      have hsize := h v hv
      rw [← byteCount_toList] at hsize
      simp only [valueLines, Element.valueLines, hv]
      exact word_eq_ok (length_split_lt hsize)

theorem ofCodeBlock_eq_ok {count : UInt32} {e : Element} (h : ∀ v, e.value = some v → v.utf8ByteSize < 2 ^ 32) :
    ofCodeBlock count e = .ok (Exemption.ofCodeBlock count e) := by
  cases hl : e.location with
  | none => simp only [ofCodeBlock, Exemption.ofCodeBlock, hl, Option.bind_none]
  | some start =>
      simp only [ofCodeBlock, Exemption.ofCodeBlock, hl, Option.bind_some, valueLines_eq_ok h]
      rfl

variable {d : Document} {o : Options}

theorem spans_eq_ok (hv : ∀ (e : Element) v, e.Within d.elements → e.kind = .codeBlock → e.value = some v →
    v.utf8ByteSize < 2 ^ 32) : spans d.lineCount d.elements o = .ok (Exemption.spans d o) := by
  have hblocks : (Element.findIn .codeBlock d.elements).filterMapM (ofCodeBlock d.lineCount) =
      .ok (Exemption.codeBlocks d) := by
    apply filterMapM_eq_ok
    intro e he
    obtain ⟨hin, hk⟩ := Element.mem_findIn_iff.mp he
    exact ofCodeBlock_eq_ok fun v hval => hv e v hin hk hval
  rw [spans, Exemption.spans, Exemption.tables, hblocks]
  cases o.ignoreCodeBlocks <;> rfl

/-- The mask tells of each place whether it has a property. -/
structure Shows (mask : Array Bool) (size : Nat) (p : Nat → Bool) : Prop where
  size_eq : mask.size = size
  get : ∀ i, i < size → mask[i]? = some (p i)

namespace Shows

variable {mask : Array Bool} {size : Nat} {p q : Nat → Bool}

theorem congr (h : Shows mask size p) (hpq : ∀ i, p i = q i) : Shows mask size q :=
  ⟨h.size_eq, fun i hi => hpq i ▸ h.get i hi⟩

theorem replicate (size : Nat) : Shows (Array.replicate size false) size fun _ => false := by
  refine ⟨Array.size_replicate, ?_⟩
  intro i hi
  rw [Array.getElem?_replicate, if_pos hi]

theorem mark (h : Shows mask size p) {i : Nat} (hi : i < size) :
    ∃ mask', Guarded.mark mask i = .ok mask' ∧ Shows mask' size fun j => p j || decide (j = i) := by
  have hin : i < mask.size := h.size_eq ▸ hi
  refine ⟨mask.set i true hin, dif_pos hin, ?_, ?_⟩
  · rw [Array.size_set, h.size_eq]
  · intro j hj
    rw [Array.getElem?_set]
    split
    · next heq => simp [heq]
    · next hne => rw [h.get j hj, decide_eq_false (Ne.symm hne), Bool.or_false]

theorem markLines (h : Shows mask size p) (first n : Nat) (hlast : first + n ≤ size) :
    ∃ mask', (List.range' first n).foldlM Guarded.mark mask = .ok mask' ∧
      Shows mask' size fun j => p j || decide (first ≤ j ∧ j < first + n) := by
  induction n generalizing mask p first with
  | zero =>
      refine ⟨mask, rfl, h.congr fun j => ?_⟩
      rw [decide_eq_false (by omega), Bool.or_false]
  | succ n ih =>
      obtain ⟨mask₁, hmark, h₁⟩ := h.mark (i := first) (by omega)
      obtain ⟨mask₂, hrest, h₂⟩ := ih h₁ (first + 1) (by omega)
      refine ⟨mask₂, ?_, h₂.congr fun j => ?_⟩
      · rw [List.range'_succ, List.foldlM_cons, hmark]
        exact hrest
      · rw [Bool.or_assoc, ← Bool.decide_or]
        congr 1
        rw [decide_eq_decide]
        omega

theorem markSpan (h : Shows mask size p) {x : Exemption} (hx : x.last.toNat < size) :
    ∃ mask', Guarded.markSpan mask x = .ok mask' ∧
      Shows mask' size fun j => p j || decide (x.first.toNat ≤ j ∧ j ≤ x.last.toNat) := by
  by_cases hempty : x.last.toNat + 1 < x.first.toNat
  · -- The range starts past its end, and nothing is marked.
    have hlines : x.last.toNat + 1 - x.first.toNat = 0 := by omega
    refine ⟨mask, by rw [Guarded.markSpan, hlines]; rfl, h.congr fun j => ?_⟩
    rw [decide_eq_false (by omega), Bool.or_false]
  · obtain ⟨mask', hmark, h'⟩ := h.markLines x.first.toNat (x.last.toNat + 1 - x.first.toNat) (by omega)
    refine ⟨mask', hmark, h'.congr fun j => ?_⟩
    congr 1
    rw [decide_eq_decide]
    omega

theorem markSpans (h : Shows mask size p) {xs : List Exemption} (hxs : ∀ x ∈ xs, x.last.toNat < size) :
    ∃ mask', xs.foldlM Guarded.markSpan mask = .ok mask' ∧
      Shows mask' size fun j => p j || xs.any fun x => decide (x.first.toNat ≤ j ∧ j ≤ x.last.toNat) := by
  induction xs generalizing mask p with
  | nil => exact ⟨mask, rfl, h.congr fun j => (Bool.or_false _).symm⟩
  | cons x xs ih =>
      rw [List.forall_mem_cons] at hxs
      obtain ⟨mask₁, hmark, h₁⟩ := h.markSpan hxs.1
      obtain ⟨mask₂, hrest, h₂⟩ := ih h₁ hxs.2
      refine ⟨mask₂, ?_, h₂.congr fun j => ?_⟩
      · rw [List.foldlM_cons, hmark]
        exact hrest
      · rw [List.any_cons, Bool.or_assoc]

theorem isMarked (h : Shows mask size p) {n : UInt32} (hn : n.toNat < size) :
    Guarded.isMarked mask n = .ok (p n.toNat) := by
  have hin : n.toNat < mask.size := h.size_eq ▸ hn
  have hget := h.get n.toNat hn
  rw [Array.getElem?_eq_getElem hin, Option.some.injEq] at hget
  rw [Guarded.isMarked, dif_pos hin, hget]

end Shows

/-- The mask of a document's spans tells of each line whether a span covers it. -/
theorem exists_mask (d : Document) (o : Options) :
    ∃ mask, (Exemption.spans d o).foldlM markSpan (Array.replicate (d.lineCount.toNat + 1) false) = .ok mask ∧
      ∀ n ≤ d.lineCount, isMarked mask n = .ok ((Exemption.spans d o).any (·.covers n)) := by
  have hlast : ∀ x ∈ Exemption.spans d o, x.last.toNat < d.lineCount.toNat + 1 := by
    intro x hx
    obtain ⟨_, _, hcount⟩ := Exemption.bounds_of_mem_spans hx
    exact Nat.lt_succ_of_le (UInt32.le_iff_toNat_le.mp hcount)
  obtain ⟨mask, hmark, hshows⟩ := (Shows.replicate (d.lineCount.toNat + 1)).markSpans hlast
  refine ⟨mask, hmark, fun n hn => ?_⟩
  rw [hshows.isMarked (Nat.lt_succ_of_le (UInt32.le_iff_toNat_le.mp hn)), Bool.false_or]
  simp only [Exemption.covers, UInt32.le_iff_toNat_le]

theorem le_lineCount_of_mem_matchingLines (hs : d.source.utf8ByteSize < 2 ^ 32) {p : List Char → Bool} {n : UInt32}
    (hn : n ∈ d.matchingLines p) : n ≤ d.lineCount := by
  obtain ⟨place, hplace, rfl⟩ := List.mem_map.mp hn
  exact Document.le_lineCount_of_mem_numbered hs (List.mem_of_mem_filter hplace)

/-- The lines that are left when the marked ones are taken out. -/
theorem filterMapM_isMarked {mask : Array Bool} {marked : UInt32 → Bool} {lines : List UInt32}
    (h : ∀ n ∈ lines, isMarked mask n = .ok (marked n)) :
    (lines.filterMapM fun n => do return if ← isMarked mask n then none else some n) =
      .ok (lines.filter fun n => !marked n) := by
  rw [← List.filterMap_eq_filter]
  apply filterMapM_eq_ok
  intro n hn
  rw [h n hn, Option.guard]
  cases marked n <;> rfl

/-- Whatever elements a text of fewer than 2 ^ 32 bytes has, their spans lie in its document, and the guarded run
passes all its tests and finds what the check finds. -/
theorem violations_eq_ok {source : String} {elements : List Element} {o : Options}
    (hs : source.utf8ByteSize < 2 ^ 32)
    (hv : ∀ (e : Element) v, e.Within elements → e.kind = .codeBlock → e.value = some v → v.utf8ByteSize < 2 ^ 32) :
    (∀ x ∈ Exemption.spans (.new source elements) o,
      1 ≤ x.first ∧ x.first ≤ x.last ∧ x.last ≤ (Document.new source elements).lineCount) ∧
    violations source elements o = .ok (Check.violations (.new source elements) o) := by
  refine ⟨fun x => Exemption.bounds_of_mem_spans, ?_⟩
  -- Each part of the guarded run returns what the document has, and is put in its place.
  let d := Document.new source elements
  have htable : table source.toList = .ok d.infos.toList := table_eq_ok (d := d) hs
  have hcount : word d.infos.toList.length = .ok d.lineCount := by
    have hlength : d.infos.toList.length = d.lines.length := by rw [d.infos_eq, LineInfo.length_table]
    rw [hlength]
    exact word_eq_ok (Document.length_lines_lt (d := d) hs)
  have hspans : spans d.lineCount elements o = .ok (Exemption.spans d o) := spans_eq_ok hv
  obtain ⟨mask, hmask, hmarked⟩ := exists_mask d o
  have hlines : numbered source.toList d.infos.toList = .ok d.numbered := numbered_eq_ok (d := d) hs
  have hleft := filterMapM_isMarked fun n hn =>
    hmarked n (le_lineCount_of_mem_matchingLines (p := Check.tooLong o) hs hn)
  simp only [violations, htable, hcount, hspans, hmask, hlines, bind, Except.bind]
  exact hleft

/-- Places at line 0, at the largest number, past the end, repeated and descending, over lines of characters of several
bytes with each kind of ending. -/
theorem violations_eq_ok_malformed :
    let source := "é😀é\r\nb|b\rcc\n\nddd\neee"
    let code (l : UInt32) (v : String) : Element := ⟨.codeBlock, some l, some v, []⟩
    let table (l : UInt32) : Element := ⟨.table, some l, none, []⟩
    let elements := [code 0 "x", table 3, ⟨.list, some 2, none, [code 4294967295 "a\nb", code 2 "b"]⟩, table 4, table 4,
      table 0, table 9, table 6]
    source.utf8ByteSize < 2 ^ 32 ∧
      Element.findIn .codeBlock elements = [code 0 "x", code 4294967295 "a\nb", code 2 "b"] ∧
      Exemption.spans (.new source elements) { lineLength := 2 } = [⟨2, 3, .codeBlock⟩, ⟨6, 6, .table⟩] ∧
      violations source elements { lineLength := 2 } = .ok [1, 5] := by
  intro source code table elements
  have hcode : Element.findIn .codeBlock elements = [code 0 "x", code 4294967295 "a\nb", code 2 "b"] := by cbv
  have hv : ∀ (e : Element) v, e.Within elements → e.kind = .codeBlock → e.value = some v →
      v.utf8ByteSize < 2 ^ 32 := by
    intro e v he hk hval
    have hmem := Element.mem_findIn_iff.mpr ⟨he, hk⟩
    simp only [hcode, List.mem_cons, List.not_mem_nil, or_false] at hmem
    rcases hmem with rfl | rfl | rfl <;> cases hval <;> decide
  have hrun := (violations_eq_ok (o := { lineLength := 2 }) (show source.utf8ByteSize < 2 ^ 32 by decide) hv).2
  have hfound : Check.violations (.new source elements) { lineLength := 2 } = [1, 5] := by cbv
  exact ⟨by decide, hcode, by cbv, hrun.trans (congrArg _ hfound)⟩

end Guarded

end LineLimit

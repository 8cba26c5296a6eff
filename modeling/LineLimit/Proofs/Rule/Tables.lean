import LineLimit.Proofs.Rule.Exemption
/-!
Tables in outlines whose elements come in the order of their lines. The spans are made from neighbours in the list of
elements that have a place, and cut at the end of the document. For the lines this comes to one question: whether the
nearest element above is a table. The spans lie one below the other, and each holds the start of its own table only.
-/

namespace LineLimit.Exemption

/-- Each element with a place starts below those before it. -/
def Ascending (elements : List Element) : Prop :=
  elements.Pairwise fun x y => ∀ l ∈ x.location, ∀ m ∈ y.location, l < m

/-- Elements as a reader of text finds them. Some may have no place. -/
structure InOrder (elements : List Element) : Prop where
  pos : ∀ e ∈ elements, ∀ l ∈ e.location, 1 ≤ l
  ascending : Ascending elements

namespace Ascending

variable {above below : List Element} {e : Element} {l : UInt32}

theorem tail (h : Ascending (e :: below)) : Ascending below := (List.pairwise_cons.mp h).2

theorem head_lt (h : Ascending (e :: below)) (hl : e.location = some l) :
    ∀ y ∈ below, ∀ m ∈ y.location, l < m := by
  intro y hy
  exact (List.pairwise_cons.mp h).1 y hy l hl

theorem of_append (h : Ascending (above ++ e :: below)) : Ascending below :=
  tail (List.pairwise_append.mp h).2.1

theorem above_lt (h : Ascending (above ++ e :: below)) (hl : e.location = some l) :
    ∀ y ∈ above, ∀ m ∈ y.location, m < l := by
  intro y hy m hm
  exact (List.pairwise_append.mp h).2.2 y hy e List.mem_cons_self m hm l hl

end Ascending

/-- The last element that starts at line `n` or above it. -/
def nearest (elements : List Element) (n : UInt32) : Option Element :=
  elements.findRev? fun e => e.location.any (· ≤ n)

theorem nearest_eq_some_iff {elements : List Element} {n : UInt32} {e : Element} :
    nearest elements n = some e ↔
      ∃ above below l, elements = above ++ e :: below ∧ e.location = some l ∧ l ≤ n ∧
        ∀ y ∈ below, ∀ m ∈ y.location, n < m := by
  have hat : e.location.any (· ≤ n) = true ↔ ∃ l, e.location = some l ∧ l ≤ n := by
    simp only [Option.any_eq_true, decide_eq_true_eq]
  have hlower : ∀ y : Element, (!y.location.any (· ≤ n)) = true ↔ ∀ m ∈ y.location, n < m := by
    intro y
    cases y.location <;> simp
  rw [nearest, List.findRev?_eq_find?_reverse, List.find?_eq_some_iff_append, hat]
  simp only [hlower]
  constructor
  · intro ⟨⟨l, hl, hle⟩, as, bs, hsplit, has⟩
    refine ⟨bs.reverse, as.reverse, l, ?_, hl, hle, fun y hy => has y (List.mem_reverse.mp hy)⟩
    rw [← List.reverse_reverse elements, hsplit]
    simp
  · intro ⟨above, below, l, hsplit, hl, hle, hbelow⟩
    refine ⟨⟨l, hl, hle⟩, below.reverse, above.reverse, ?_, fun y hy => hbelow y (List.mem_reverse.mp hy)⟩
    rw [hsplit]
    simp

/-- In ascending order, a line above the next element is above all further ones. -/
theorem beforeNext_iff {below : List Element} {n : Nat} (h : Ascending below) :
    BeforeNext n below ↔ ∀ y ∈ below, ∀ m ∈ y.location, n < m.toNat := by
  induction below with
  | nil => exact ⟨fun _ _ hy => (nomatch hy), fun _ => .inl fun _ hy => (nomatch hy)⟩
  | cons next rest ih =>
      rw [List.forall_mem_cons, beforeNext_iff_head]
      cases hm : next.location with
      | none =>
          rw [located_cons_of_none hm, ← beforeNext_iff_head, ih h.tail]
          exact ⟨fun hrest => ⟨nofun, hrest⟩, And.right⟩
      | some m =>
          rw [located_cons_of_some hm]
          constructor
          · intro hhead
            have hlt : n < m.toNat := hhead _ rfl
            refine ⟨fun _ hm' => Option.mem_some.mp hm' ▸ hlt, fun y hy m' hm' => ?_⟩
            exact Nat.lt_trans hlt (UInt32.lt_iff_toNat_lt.mp (h.head_lt hm y hy m' hm'))
          · intro ⟨hnext, _⟩ x hx
            cases hx
            exact hnext m rfl

theorem of_within_eq_some {count first last : UInt32} {reason : Reason} {x : Exemption}
    (h : within count first last reason = some x) :
    x.first = first ∧ x.reason = reason ∧ 1 ≤ x.first ∧ x.first ≤ x.last ∧ x.last ≤ last ∧ x.last ≤ count := by
  simp only [within] at h
  split at h
  · cases h
  · next hin =>
      cases h
      simp only [not_or, UInt32.not_lt] at hin
      obtain ⟨hpos, _, hle⟩ := hin
      obtain ⟨hlast, hcount⟩ := Std.le_min_iff.mp (UInt32.le_refl (min last count))
      refine ⟨rfl, rfl, ?_, hle, hlast, hcount⟩
      rw [UInt32.le_iff_toNat_le]
      exact Nat.one_le_iff_ne_zero.mpr fun h => hpos (UInt32.toNat_inj.mp h)

/-- The span of a table starts where the table does and ends above the next element. -/
theorem of_ofTable_eq_some {count start : UInt32} {e : Element} {below : List Element} {x : Exemption}
    (h : ofTable count start e (located below) = some x) :
    x.first = start ∧ e.kind = .table ∧ x.reason = .table ∧ x.first ≤ x.last ∧ BeforeNext x.last.toNat below := by
  by_cases hk : e.kind = .table
  · rw [ofTable, if_pos hk] at h
    obtain ⟨hfirst, hreason, hpos, hle, hlast, hcount⟩ := of_within_eq_some h
    have hline : 1 ≤ x.last.toNat := UInt32.le_iff_toNat_le.mp (UInt32.le_trans hpos hle)
    exact ⟨hfirst, hk, hreason, hle, (le_lastAbove_iff hcount hline).mp hlast⟩
  · rw [ofTable, if_neg hk] at h
    cases h

/-- The span starts with a table and ends above the next element that has a place. -/
def SpansTable (x : Exemption) (elements : List Element) : Prop :=
  ∃ above e below, elements = above ++ e :: below ∧ e.location = some x.first ∧ e.kind = .table ∧
    x.reason = .table ∧ x.first ≤ x.last ∧ BeforeNext x.last.toNat below

theorem SpansTable.later {x : Exemption} {rest : List Element} (h : x.SpansTable rest) (e : Element) :
    x.SpansTable (e :: rest) := by
  obtain ⟨above, e', below, hsplit, h⟩ := h
  exact ⟨e :: above, e', below, congrArg (e :: ·) hsplit, h⟩

theorem spansTable_of_mem {count : UInt32} {elements : List Element} {x : Exemption}
    (hx : x ∈ tablesIn count (located elements)) : x.SpansTable elements := by
  induction elements with
  | nil => exact nomatch hx
  | cons e rest ih =>
      cases hl : e.location with
      | none =>
          rw [located_cons_of_none hl] at hx
          exact (ih hx).later e
      | some l =>
          rw [located_cons_of_some hl, tablesIn, List.mem_append, Option.mem_toList] at hx
          cases hx with
          | inl hspan =>
              obtain ⟨hfirst, h⟩ := of_ofTable_eq_some hspan
              exact ⟨[], e, rest, rfl, hfirst ▸ hl, h⟩
          | inr hrest => exact (ih hrest).later e

theorem pairwise_tablesIn {count : UInt32} {elements : List Element} (h : Ascending elements) :
    (tablesIn count (located elements)).Pairwise fun x y => x.last < y.first := by
  induction elements with
  | nil => exact List.Pairwise.nil
  | cons e rest ih =>
      cases hl : e.location with
      | none =>
          rw [located_cons_of_none hl]
          exact ih h.tail
      | some l =>
          rw [located_cons_of_some hl, tablesIn, List.pairwise_append]
          refine ⟨?_, ih h.tail, ?_⟩
          · cases ofTable count l e (located rest) with
            | none => exact List.Pairwise.nil
            | some x => exact List.pairwise_singleton _ x
          · intro x hx y hy
            obtain ⟨_, _, _, _, hnext⟩ := of_ofTable_eq_some (Option.mem_toList.mp hx)
            obtain ⟨above, e', below, hsplit, hy', _⟩ := spansTable_of_mem hy
            have hmem : e' ∈ rest := by
              rw [hsplit]
              exact List.mem_append_right above List.mem_cons_self
            exact UInt32.lt_iff_toNat_lt.mpr ((beforeNext_iff h.tail).mp hnext e' hmem y.first hy')

theorem inTable_iff_nearest {elements : List Element} (h : InOrder elements) {n : UInt32} :
    InTable elements n.toNat ↔ ∃ e, nearest elements n = some e ∧ e.kind = .table := by
  simp only [nearest_eq_some_iff]
  constructor
  · intro ⟨above, e, below, l, hsplit, hk, hl, _, hle, hnext⟩
    subst hsplit
    refine ⟨e, ⟨above, below, l, rfl, hl, UInt32.le_iff_toNat_le.mpr hle, ?_⟩, hk⟩
    intro y hy m hm
    exact UInt32.lt_iff_toNat_lt.mpr ((beforeNext_iff h.ascending.of_append).mp hnext y hy m hm)
  · intro ⟨e, ⟨above, below, l, hsplit, hl, hle, hnext⟩, hk⟩
    subst hsplit
    have hpos := h.pos e (List.mem_append_right above List.mem_cons_self) l hl
    refine ⟨above, e, below, l, rfl, hk, hl, UInt32.le_iff_toNat_le.mp hpos, UInt32.le_iff_toNat_le.mp hle, ?_⟩
    rw [beforeNext_iff h.ascending.of_append]
    intro y hy m hm
    exact UInt32.lt_iff_toNat_lt.mp (hnext y hy m hm)

theorem reason_of_mem_codeBlocks {d : Document} {x : Exemption} (hx : x ∈ codeBlocks d) : x.reason = .codeBlock := by
  obtain ⟨e, _, hspan⟩ := List.mem_filterMap.mp hx
  obtain ⟨l, _, hwithin⟩ := Option.bind_eq_some_iff.mp hspan
  exact (of_within_eq_some hwithin).2.1

theorem reason_of_mem_tables {d : Document} {x : Exemption} (hx : x ∈ tables d) : x.reason = .table := by
  obtain ⟨_, _, _, _, _, _, hreason, _⟩ := spansTable_of_mem hx
  exact hreason

/-- Spans of code blocks and of tables are told apart by their reasons. -/
theorem filter_spans_table (d : Document) {o : Options} (ho : o.ignoreTables = true) :
    (spans d o).filter (·.reason = .table) = tables d := by
  have hcode : (if o.ignoreCodeBlocks then codeBlocks d else []).filter (·.reason = .table) = [] := by
    rw [List.filter_eq_nil_iff]
    intro x hx htable
    split at hx
    · rw [reason_of_mem_codeBlocks hx] at htable
      exact nomatch of_decide_eq_true htable
    · exact nomatch hx
  have htables : (tables d).filter (·.reason = .table) = tables d := by
    rw [List.filter_eq_self]
    intro x hx
    exact decide_eq_true (reason_of_mem_tables hx)
  rw [spans, if_pos ho, List.filter_append, hcode, htables, List.nil_append]

theorem mem_tables_iff {d : Document} {o : Options} (ho : o.ignoreTables = true) {x : Exemption} :
    x ∈ tables d ↔ x ∈ spans d o ∧ x.reason = .table := by
  rw [← filter_spans_table d ho, List.mem_filter, decide_eq_true_eq]

/-- A span reaches neither back to the elements above its table nor down to those below. -/
theorem covers_other_eq_false {above below : List Element} {x : Exemption} {e : Element}
    (h : Ascending (above ++ e :: below)) (hl : e.location = some x.first) (hnext : BeforeNext x.last.toNat below)
    {y : Element} (hy : y ∈ above ++ below) {m : UInt32} (hm : y.location = some m) : x.covers m = false := by
  apply decide_eq_false
  intro ⟨hfirst, hlast⟩
  cases List.mem_append.mp hy with
  | inl habove => exact UInt32.not_lt.mpr hfirst (h.above_lt hl y habove m hm)
  | inr hbelow =>
      have hlt := (beforeNext_iff h.of_append).mp hnext y hbelow m hm
      exact UInt32.not_lt.mpr hlast (UInt32.lt_iff_toNat_lt.mpr hlt)

/-- With elements in order, a line of the document is exempt as a part of a table when the nearest element that starts
there or above is a table. The spans of tables ascend without a line in common, and none holds the start of another
element. -/
theorem tables_reach_next {d : Document} {o : Options} (ho : o.ignoreTables = true) (h : InOrder d.elements) :
    (∀ n, n ≤ d.lineCount →
      ((∃ x ∈ spans d o, x.reason = .table ∧ x.covers n = true) ↔
        ∃ e, nearest d.elements n = some e ∧ e.kind = .table)) ∧
    ((spans d o).filter (·.reason = .table)).Pairwise (fun x y => x.last < y.first) ∧
    ∀ x ∈ spans d o, x.reason = .table → x.first ≤ x.last ∧
      ∃ above e below, d.elements = above ++ e :: below ∧ e.kind = .table ∧ e.location = some x.first ∧
        ∀ y ∈ above ++ below, ∀ m ∈ y.location, x.covers m = false := by
  refine ⟨?_, ?_, ?_⟩
  · intro n hn
    rw [← inTable_iff_nearest h, ← tables_cover_iff hn, List.any_eq_true]
    simp only [← and_assoc, ← mem_tables_iff ho]
  · rw [filter_spans_table d ho]
    exact pairwise_tablesIn h.ascending
  · intro x hx hreason
    obtain ⟨above, e, below, hsplit, hl, hk, _, hle, hnext⟩ :=
      spansTable_of_mem ((mem_tables_iff ho).mpr ⟨hx, hreason⟩)
    refine ⟨hle, above, e, below, hsplit, hk, hl, ?_⟩
    intro y hy m hm
    exact covers_other_eq_false (hsplit ▸ h.ascending) hl hnext hy hm

/-- Two tables directly below each other, a further one that ends with the text, and elements without a place or
past the end. -/
theorem tables_reach_next_adjacent :
    let table (l : UInt32) : Element := ⟨.table, some l, none, []⟩
    let elements : List Element := [⟨.paragraph, some 1, none, []⟩, table 2, ⟨.html, none, none, []⟩, table 3,
      ⟨.paragraph, some 4, none, []⟩, table 5, ⟨.table, none, none, []⟩, table 9]
    let d := Document.new "a\n|b|\n|c|\nd\n|e|\nf" elements
    InOrder d.elements ∧ spans d {} = [⟨2, 2, .table⟩, ⟨3, 3, .table⟩, ⟨5, 6, .table⟩] ∧
      (∃ x ∈ spans d {}, x.reason = .table ∧ x.covers 6 = true) ∧
      (¬ ∃ x ∈ spans d {}, x.reason = .table ∧ x.covers 4 = true) ∧
      ((spans d {}).filter (·.reason = .table)).Pairwise fun x y => x.last < y.first := by
  intro table elements d
  have horder : InOrder elements := by
    constructor
    · simp [elements, table]
    · simp [Ascending, elements, table]
  obtain ⟨hcover, hapart, _⟩ := tables_reach_next (d := d) (o := {}) rfl horder
  refine ⟨horder, by cbv, (hcover 6 (by decide)).mpr ⟨table 5, rfl, rfl⟩, ?_, hapart⟩
  intro hx
  obtain ⟨e, hnearest, hk⟩ := (hcover 4 (by decide)).mp hx
  have hparagraph : nearest d.elements 4 = some ⟨.paragraph, some 4, none, []⟩ := rfl
  rw [hparagraph] at hnearest
  cases hnearest
  cases hk

end LineLimit.Exemption

import LineLimit.Proofs.Element.Within
import LineLimit.Proofs.Text.LineTable
import LineLimit.Rule.Exemption
/-!
Which lines the spans cover, in numbers without words. A code block covers the lines from its own to as many
further ones as its text has lines, whatever its depth. A table covers the lines from its own up to the next
element that has a place. Cutting spans at the end of the document changes nothing for its lines.
-/

namespace LineLimit

def Element.textLines (e : Element) : Nat := (e.value.map fun v => (Line.split v.toList).length).getD 0

theorem Element.toNat_valueLines {e : Element} (h : ∀ v, e.value = some v → v.utf8ByteSize < 2 ^ 32) :
    e.valueLines.toNat = e.textLines := by
  cases hv : e.value with
  | none => simp only [valueLines, textLines, hv, Option.map_none, Option.getD_none, UInt32.toNat_zero]
  | some v =>
      have hsize := h v hv
      rw [← byteCount_toList] at hsize
      simp only [valueLines, textLines, hv, Option.map_some, Option.getD_some, toNat_word (length_split_lt hsize)]

namespace Exemption

theorem le_saturatingAdd_iff {a b n : UInt32} : n ≤ saturatingAdd a b ↔ n.toNat ≤ a.toNat + b.toNat := by
  have hn := n.toNat_lt
  have hsize : UInt32.size = 2 ^ 32 := rfl
  rw [UInt32.le_iff_toNat_le, saturatingAdd, toNat_word (by omega)]
  omega

theorem le_before_iff {m n : UInt32} (hn : 1 ≤ n.toNat) : n ≤ before m ↔ n.toNat < m.toNat := by
  rw [UInt32.le_iff_toNat_le, before]
  split
  · subst m
    rw [UInt32.toNat_zero]
    omega
  · next hm =>
      have hpos : m.toNat ≠ 0 := fun h => hm (UInt32.toNat_inj.mp h)
      have hone : (1 : UInt32).toNat = 1 := rfl
      rw [UInt32.toNat_sub_of_le _ _ (UInt32.le_iff_toNat_le.mpr (by omega))]
      omega

theorem covers_within_iff {count first last n : UInt32} {reason : Reason} (hn : n ≤ count) :
    (∃ x, within count first last reason = some x ∧ x.covers n = true) ↔
      1 ≤ first.toNat ∧ first.toNat ≤ n.toNat ∧ n ≤ last := by
  constructor
  · rintro ⟨x, hx, hcover⟩
    simp only [within] at hx
    split at hx
    · exact nomatch hx
    · next hin =>
        cases hx
        obtain ⟨hfirst, hlast⟩ := of_decide_eq_true hcover
        have hpos : first.toNat ≠ 0 := fun h => hin (.inl (UInt32.toNat_inj.mp h))
        exact ⟨by omega, UInt32.le_iff_toNat_le.mp hfirst, (Std.le_min_iff.mp hlast).1⟩
  · rintro ⟨hpos, hfirst, hlast⟩
    have hfirst' : first ≤ n := UInt32.le_iff_toNat_le.mpr hfirst
    have hmin : n ≤ min last count := Std.le_min_iff.mpr ⟨hlast, hn⟩
    have hin : ¬ (first = 0 ∨ count < first ∨ min last count < first) := by
      rintro (h | h | h)
      · rw [h] at hpos
        exact nomatch hpos
      · exact UInt32.not_lt.mpr (UInt32.le_trans hfirst' hn) h
      · exact UInt32.not_lt.mpr (UInt32.le_trans hfirst' hmin) h
    exact ⟨_, if_neg hin, decide_eq_true ⟨hfirst', hmin⟩⟩

/-- Line `n` belongs to a code block: it is not before the block's own line, and not after it by more than the
number of lines of the block's text. -/
def InCodeBlock (trees : List Element) (n : Nat) : Prop :=
  ∃ (e : Element) (l : UInt32), e.Within trees ∧ e.kind = .codeBlock ∧ e.location = some l ∧
    1 ≤ l.toNat ∧ l.toNat ≤ n ∧ n ≤ l.toNat + e.textLines

theorem ofCodeBlock_covers_iff {count n : UInt32} {e : Element} (hn : n ≤ count) :
    (∃ x, ofCodeBlock count e = some x ∧ x.covers n = true) ↔
      ∃ l, e.location = some l ∧ 1 ≤ l.toNat ∧ l.toNat ≤ n.toNat ∧ n.toNat ≤ l.toNat + e.valueLines.toNat := by
  cases hl : e.location with
  | none =>
      simp only [ofCodeBlock, hl, Option.bind_none]
      exact ⟨fun ⟨_, h, _⟩ => (nomatch h), fun ⟨_, h, _⟩ => (nomatch h)⟩
  | some l =>
      simp only [ofCodeBlock, hl, Option.bind_some]
      rw [covers_within_iff hn, le_saturatingAdd_iff]
      constructor
      · exact fun h => ⟨l, rfl, h⟩
      · rintro ⟨_, hl', h⟩
        cases hl'
        exact h

/-- Whether the spans of code blocks cover a line of the document depends on the elements alone. -/
theorem codeBlocks_cover_iff_exists {d : Document} {n : UInt32} (hn : n ≤ d.lineCount) :
    (codeBlocks d).any (·.covers n) = true ↔
      ∃ e ∈ Element.findIn .codeBlock d.elements, ∃ l, e.location = some l ∧
        1 ≤ l.toNat ∧ l.toNat ≤ n.toNat ∧ n.toNat ≤ l.toNat + e.valueLines.toNat := by
  rw [List.any_eq_true]
  constructor
  · rintro ⟨x, hx, hcover⟩
    obtain ⟨e, he, hspan⟩ := List.mem_filterMap.mp hx
    exact ⟨e, he, (ofCodeBlock_covers_iff hn).mp ⟨x, hspan, hcover⟩⟩
  · rintro ⟨e, he, h⟩
    obtain ⟨x, hspan, hcover⟩ := (ofCodeBlock_covers_iff hn).mpr h
    exact ⟨x, List.mem_filterMap.mpr ⟨e, he, hspan⟩, hcover⟩

theorem codeBlocks_cover_iff {d : Document} {n : UInt32} (hn : n ≤ d.lineCount)
    (hv : ∀ (e : Element) v, e.Within d.elements → e.kind = .codeBlock → e.value = some v →
      v.utf8ByteSize < 2 ^ 32) :
    (codeBlocks d).any (·.covers n) = true ↔ InCodeBlock d.elements n.toNat := by
  rw [codeBlocks_cover_iff_exists hn]
  constructor
  · rintro ⟨e, he, l, hl, hpos, hle, hlast⟩
    obtain ⟨hin, hk⟩ := Element.mem_findIn_iff.mp he
    rw [Element.toNat_valueLines fun v => hv e v hin hk] at hlast
    exact ⟨e, l, hin, hk, hl, hpos, hle, hlast⟩
  · rintro ⟨e, l, hin, hk, hl, hpos, hle, hlast⟩
    rw [← Element.toNat_valueLines fun v => hv e v hin hk] at hlast
    exact ⟨e, Element.mem_findIn_iff.mpr ⟨hin, hk⟩, l, hl, hpos, hle, hlast⟩

/-- Line `n` is above the next of some elements that has a place, if there is one. -/
def BeforeNext (n : Nat) (below : List Element) : Prop :=
  (∀ e ∈ below, e.location = none) ∨
    ∃ gap next rest m, below = gap ++ next :: rest ∧ (∀ e ∈ gap, e.location = none) ∧
      next.location = some m ∧ n < m.toNat

/-- Line `n` belongs to a table at the top of the outline. Elements without a place end no table. -/
def InTable (elements : List Element) (n : Nat) : Prop :=
  ∃ above e below l, elements = above ++ e :: below ∧ e.kind = .table ∧ e.location = some l ∧
    1 ≤ l.toNat ∧ l.toNat ≤ n ∧ BeforeNext n below

theorem located_eq_nil_iff {elements : List Element} : located elements = [] ↔ ∀ e ∈ elements, e.location = none := by
  simp only [located, List.filterMap_eq_nil_iff, Option.map_eq_none_iff]

theorem located_eq_cons_iff {elements : List Element} {m : UInt32} {next : Element} {rest : List (UInt32 × Element)} :
    located elements = (m, next) :: rest ↔
      ∃ gap below, elements = gap ++ next :: below ∧ (∀ e ∈ gap, e.location = none) ∧
        next.location = some m ∧ located below = rest := by
  simp only [located, List.filterMap_eq_cons_iff, Option.map_eq_none_iff, Option.map_eq_some_iff]
  constructor
  · intro ⟨gap, e, below, hsplit, hgap, ⟨l, hl, heq⟩, hrest⟩
    cases heq
    exact ⟨gap, below, hsplit, hgap, hl, hrest⟩
  · intro ⟨gap, below, hsplit, hgap, hm, hrest⟩
    exact ⟨gap, next, below, hsplit, hgap, ⟨m, hm, rfl⟩, hrest⟩

theorem located_cons_of_none {e : Element} (h : e.location = none) (rest : List Element) :
    located (e :: rest) = located rest := by
  simp only [located, List.filterMap_cons, h, Option.map_none]

theorem located_cons_of_some {e : Element} {l : UInt32} (h : e.location = some l) (rest : List Element) :
    located (e :: rest) = (l, e) :: located rest := by
  simp only [located, List.filterMap_cons, h, Option.map_some]

theorem beforeNext_iff_head {n : Nat} {below : List Element} :
    BeforeNext n below ↔ ∀ x ∈ (located below).head?, n < x.1.toNat := by
  cases hx : located below with
  | nil => exact ⟨fun _ _ h => (nomatch h), fun _ => .inl (located_eq_nil_iff.mp hx)⟩
  | cons x rest =>
      obtain ⟨m, next⟩ := x
      obtain ⟨gap, below', hsplit, hgap, hm, _⟩ := located_eq_cons_iff.mp hx
      constructor
      · intro h y hy
        cases hy
        cases h with
        | inl hnone =>
            rw [located_eq_nil_iff.mpr hnone] at hx
            exact nomatch hx
        | inr hnext =>
            obtain ⟨gap', next', rest', m', hsplit', hgap', hm', hlt⟩ := hnext
            rw [located_eq_cons_iff.mpr ⟨gap', rest', hsplit', hgap', hm', rfl⟩] at hx
            cases hx
            exact hlt
      · intro h
        exact .inr ⟨gap, next, below', m, hsplit, hgap, hm, h _ rfl⟩

theorem not_inTable_nil {n : Nat} : ¬ InTable [] n := by
  intro ⟨above, e, below, l, h, _⟩
  exact List.append_ne_nil_of_right_ne_nil above (List.cons_ne_nil _ _) h.symm

theorem inTable_cons_iff {n : Nat} {e : Element} {rest : List Element} :
    InTable (e :: rest) n ↔
      (∃ l, e.kind = .table ∧ e.location = some l ∧ 1 ≤ l.toNat ∧ l.toNat ≤ n ∧ BeforeNext n rest) ∨
        InTable rest n := by
  constructor
  · intro ⟨above, e', below, l, h, hat⟩
    cases above with
    | nil =>
        cases h
        exact .inl ⟨l, hat⟩
    | cons first above =>
        cases h
        exact .inr ⟨above, e', below, l, rfl, hat⟩
  · intro h
    cases h with
    | inl hat =>
        obtain ⟨l, hat⟩ := hat
        exact ⟨[], e, rest, l, rfl, hat⟩
    | inr hrest =>
        obtain ⟨above, e', below, l, hsplit, hat⟩ := hrest
        exact ⟨e :: above, e', below, l, congrArg (e :: ·) hsplit, hat⟩

theorem le_lastAbove_iff {count n : UInt32} {below : List Element} (hn : n ≤ count) (hpos : 1 ≤ n.toNat) :
    n ≤ lastAbove count (located below) ↔ BeforeNext n.toNat below := by
  rw [beforeNext_iff_head]
  cases located below with
  | nil => exact ⟨fun _ _ h => (nomatch h), fun _ => hn⟩
  | cons x rest =>
      rw [lastAbove, le_before_iff hpos]
      constructor
      · intro h y hy
        cases hy
        exact h
      · intro h
        exact h x rfl

theorem ofTable_covers_iff {count n l : UInt32} {e : Element} {below : List Element} (hn : n ≤ count) :
    (∃ x, ofTable count l e (located below) = some x ∧ x.covers n = true) ↔
      e.kind = .table ∧ 1 ≤ l.toNat ∧ l.toNat ≤ n.toNat ∧ BeforeNext n.toNat below := by
  by_cases hk : e.kind = .table
  · rw [ofTable, if_pos hk, covers_within_iff hn]
    constructor
    · intro ⟨hpos, hle, hlast⟩
      exact ⟨hk, hpos, hle, (le_lastAbove_iff hn (by omega)).mp hlast⟩
    · intro ⟨_, hpos, hle, hnext⟩
      exact ⟨hpos, hle, (le_lastAbove_iff hn (by omega)).mpr hnext⟩
  · rw [ofTable, if_neg hk]
    exact ⟨fun ⟨_, h, _⟩ => (nomatch h), fun h => absurd h.1 hk⟩

/-- The spans of tables cover the lines that belong to tables. The induction is on the elements at the top of the
outline. One without a place adds neither a span nor an end to the table above it. -/
theorem tablesIn_cover_iff {count n : UInt32} {elements : List Element} (hn : n ≤ count) :
    (tablesIn count (located elements)).any (·.covers n) = true ↔ InTable elements n.toNat := by
  induction elements with
  | nil => exact ⟨nofun, fun h => absurd h not_inTable_nil⟩
  | cons e rest ih =>
      rw [inTable_cons_iff, ← ih]
      cases hl : e.location with
      | none =>
          rw [located_cons_of_none hl]
          exact ⟨.inr, fun h => h.elim (fun ⟨_, _, h, _⟩ => (nomatch h)) id⟩
      | some l =>
          rw [located_cons_of_some hl, tablesIn, List.any_append, Bool.or_eq_true, List.any_eq_true]
          simp only [Option.mem_toList, ofTable_covers_iff hn]
          refine or_congr_left ?_
          constructor
          · intro ⟨hk, hat⟩
            exact ⟨l, hk, rfl, hat⟩
          · intro ⟨_, hk, heq, hat⟩
            cases heq
            exact ⟨hk, hat⟩

theorem tables_cover_iff {d : Document} {n : UInt32} (hn : n ≤ d.lineCount) :
    (tables d).any (·.covers n) = true ↔ InTable d.elements n.toNat := tablesIn_cover_iff hn

/-- A line is exempt when the options leave out code blocks and it belongs to one, or tables and it belongs to
one. -/
theorem spans_cover_iff {d : Document} {o : Options} {n : UInt32} (hn : n ≤ d.lineCount)
    (hv : ∀ (e : Element) v, e.Within d.elements → e.kind = .codeBlock → e.value = some v →
      v.utf8ByteSize < 2 ^ 32) :
    (spans d o).any (·.covers n) = true ↔
      (o.ignoreCodeBlocks = true ∧ InCodeBlock d.elements n.toNat) ∨
        (o.ignoreTables = true ∧ InTable d.elements n.toNat) := by
  rw [spans, List.any_append, Bool.or_eq_true]
  refine or_congr ?_ ?_
  · cases o.ignoreCodeBlocks with
    | true => simpa only [if_true, true_and] using codeBlocks_cover_iff hn hv
    | false => exact ⟨nofun, nofun⟩
  · cases o.ignoreTables with
    | true => simpa only [if_true, true_and] using tables_cover_iff hn
    | false => exact ⟨nofun, nofun⟩

end Exemption

end LineLimit

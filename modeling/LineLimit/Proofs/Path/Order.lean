import LineLimit.Discovery
import Mathlib.Data.List.Nodup
/-!
The order of paths. Components are ordered by rank and then by name, paths by their components, and this is a
linear order on lists of components. Sorting and merging neighbours therefore leaves every path once, as far as
its components go, and in strictly ascending order.
-/

namespace LineLimit

open Std

namespace Path

def Component.label : Component → String
  | .name s => s
  | _ => ""

theorem Component.compare_eq :
    (compare : Component → Component → Ordering) = compareLex (compareOn rank) (compareOn label) := by
  funext a b
  cases a <;> cases b <;> rfl

instance : TransOrd Component := by
  unfold TransOrd
  rw [Component.compare_eq]
  infer_instance

instance : LawfulEqOrd Component where
  compare_self := ReflOrd.compare_self
  eq_of_compare {a b} h := by
    rw [Component.compare_eq, compareLex_eq_eq] at h
    obtain ⟨hrank, hlabel⟩ := h
    have hrank' : a.rank = b.rank := LawfulEqOrd.eq_of_compare hrank
    have hlabel' : a.label = b.label := LawfulEqOrd.eq_of_compare hlabel
    cases a <;> cases b <;> cases hrank'
    · rfl
    · rfl
    · rfl
    · exact congrArg Component.name hlabel'

theorem compareComponents_eq : compareComponents = List.compareLex compare := by
  funext as bs
  induction as generalizing bs with
  | nil => cases bs <;> rfl
  | cons a as ih =>
      cases bs with
      | nil => rfl
      | cons b bs => rw [compareComponents, List.compareLex_cons_cons, ih]

theorem compareComponents_eq_iff {as bs : List Component} : compareComponents as bs = .eq ↔ as = bs := by
  rw [compareComponents_eq]
  exact LawfulEqCmp.compare_eq_iff_eq

theorem le_trans {p q r : String} (hpq : le p q = true) (hqr : le q r = true) : le p r = true := by
  unfold le at *
  rw [compareComponents_eq] at *
  exact TransCmp.isLE_trans hpq hqr

theorem le_total (p q : String) : (le p q || le q p) = true := by
  unfold le
  rw [compareComponents_eq]
  have hswap : List.compareLex compare (components q) (components p) =
      (List.compareLex compare (components p) (components q)).swap := OrientedCmp.eq_swap
  rw [hswap]
  cases List.compareLex compare (components p) (components q) <;> rfl

def Precedes (p q : String) : Prop := compareComponents (components p) (components q) = .lt

theorem same_iff {p q : String} : same p q = true ↔ components p = components q := decide_eq_true_iff

theorem Precedes.ne {p q : String} (h : Precedes p q) : components p ≠ components q := by
  intro he
  rw [Precedes, compareComponents_eq_iff.mpr he] at h
  exact nomatch h

theorem Precedes.trans_le {p q r : String} (h : Precedes p q) (hle : le q r = true) : Precedes p r := by
  unfold Precedes le at *
  rw [compareComponents_eq] at *
  exact TransCmp.lt_of_lt_of_isLE h hle

theorem Precedes.le {p q : String} (h : Precedes p q) : Path.le p q = true := by
  rw [Path.le, h]
  rfl

theorem Precedes.congr {p q r : String} (h : components p = components q) (hq : Precedes q r) :
    Precedes p r := by
  rw [Precedes, h]
  exact hq

theorem precedes_of_le {p q : String} (hle : Path.le p q = true) (hne : components p ≠ components q) :
    Precedes p q := by
  unfold Precedes
  unfold Path.le at hle
  cases h : compareComponents (components p) (components q) with
  | lt => rfl
  | eq => exact absurd (compareComponents_eq_iff.mp h) hne
  | gt =>
      rw [h] at hle
      exact nomatch hle

/-- Ascending paths with the same components, as a whole, have the same components one by one. -/
theorem map_components_eq {ps qs : List String} (hp : ps.Pairwise Precedes) (hq : qs.Pairwise Precedes)
    (h : ∀ cs, cs ∈ ps.map components ↔ cs ∈ qs.map components) : ps.map components = qs.map components := by
  have hnodup : ∀ {l : List String}, l.Pairwise Precedes → (l.map components).Nodup := by
    intro l hl
    exact List.pairwise_map.mpr (hl.imp Precedes.ne)
  have hperm : (ps.map components).Perm (qs.map components) :=
    (List.perm_ext_iff_of_nodup (hnodup hp) (hnodup hq)).mpr h
  have hasymm : ∀ as bs, as ∈ ps.map components → bs ∈ qs.map components →
      compareComponents as bs = .lt → compareComponents bs as = .lt → as = bs := by
    intro as bs _ _ hlt hgt
    rw [compareComponents_eq] at hlt hgt
    have hswap : List.compareLex compare as bs = (List.compareLex compare bs as).swap := OrientedCmp.eq_swap
    rw [hlt, hgt] at hswap
    nomatch hswap
  exact List.Perm.eq_of_pairwise hasymm (List.pairwise_map.mpr hp) (List.pairwise_map.mpr hq) hperm

end Path

namespace Finder

open LineLimit.Path

theorem mem_of_mem_dedup {p : String} {paths : List String} (h : p ∈ sortPaths.dedup paths) : p ∈ paths := by
  induction paths with
  | nil => exact h
  | cons first rest ih =>
      unfold sortPaths.dedup at h
      split at h
      · exact List.mem_cons.mpr (.inl (List.mem_singleton.mp h))
      · next q more hrest =>
          rw [hrest] at ih
          split at h
          · rcases List.mem_cons.mp h with h | h
            · exact List.mem_cons.mpr (.inl h)
            · exact List.mem_cons_of_mem first (ih (List.mem_cons_of_mem q h))
          · rcases List.mem_cons.mp h with h | h
            · exact List.mem_cons.mpr (.inl h)
            · exact List.mem_cons_of_mem first (ih h)

/-- Merging keeps one spelling of every path. -/
theorem exists_mem_dedup {p : String} {paths : List String} (h : p ∈ paths) :
    ∃ q ∈ sortPaths.dedup paths, components p = components q := by
  induction paths with
  | nil => exact nomatch h
  | cons first rest ih =>
      unfold sortPaths.dedup
      split
      · next hrest =>
          rcases List.mem_cons.mp h with rfl | h
          · exact ⟨p, List.mem_singleton_self p, rfl⟩
          · obtain ⟨q, hq, _⟩ := ih h
            exact absurd (hrest ▸ hq) List.not_mem_nil
      · next q more hrest =>
          rw [hrest] at ih
          split
          · next hsame =>
              rcases List.mem_cons.mp h with rfl | h
              · exact ⟨p, List.mem_cons_self, rfl⟩
              · obtain ⟨r, hr, he⟩ := ih h
                rcases List.mem_cons.mp hr with rfl | hr
                · exact ⟨first, List.mem_cons_self, he.trans (same_iff.mp hsame).symm⟩
                · exact ⟨r, List.mem_cons_of_mem first hr, he⟩
          · rcases List.mem_cons.mp h with rfl | h
            · exact ⟨p, List.mem_cons_self, rfl⟩
            · obtain ⟨r, hr, he⟩ := ih h
              exact ⟨r, List.mem_cons_of_mem first hr, he⟩

/-- Merging neighbours of sorted paths leaves strictly ascending paths. The induction goes from the last path to
the first, as merging does. -/
theorem pairwise_dedup {paths : List String} (h : paths.Pairwise fun p q => Path.le p q = true) :
    (sortPaths.dedup paths).Pairwise Precedes := by
  induction paths with
  | nil => exact .nil
  | cons first rest ih =>
      obtain ⟨hfirst, hrest⟩ := List.pairwise_cons.mp h
      have hasc := ih hrest
      unfold sortPaths.dedup
      split
      · exact List.pairwise_singleton Precedes first
      · next q more heq =>
          rw [heq] at hasc
          obtain ⟨hq, hmore⟩ := List.pairwise_cons.mp hasc
          split
          · next hsame =>
              exact .cons (fun r hr => (hq r hr).congr (same_iff.mp hsame)) hmore
          · next hsame =>
              have hle : Path.le first q = true := hfirst q (mem_of_mem_dedup (heq ▸ List.mem_cons_self))
              have hlt : Precedes first q := precedes_of_le hle fun he => hsame (same_iff.mpr he)
              refine .cons (fun r hr => ?_) hasc
              rcases List.mem_cons.mp hr with rfl | hr
              · exact hlt
              · exact hlt.trans_le (hq r hr).le

theorem pairwise_sortPaths (paths : List String) : (sortPaths paths).Pairwise Precedes := by
  have hsorted : (paths.mergeSort Path.le).Pairwise fun p q => Path.le p q = true :=
    @List.pairwise_mergeSort _ Path.le (fun _ _ _ hpq hqr => Path.le_trans hpq hqr) Path.le_total paths
  exact pairwise_dedup hsorted

theorem sortPaths_of_pairwise {paths : List String} (h : paths.Pairwise fun p q => Path.le p q = true) :
    sortPaths paths = sortPaths.dedup paths := by
  rw [sortPaths, List.mergeSort_of_pairwise h]

theorem mem_of_mem_sortPaths {p : String} {paths : List String} (h : p ∈ sortPaths paths) : p ∈ paths := by
  unfold sortPaths at h
  have hsorted : p ∈ paths.mergeSort Path.le := mem_of_mem_dedup h
  exact List.mem_mergeSort.mp hsorted

theorem exists_mem_sortPaths {p : String} {paths : List String} (h : p ∈ paths) :
    ∃ q ∈ sortPaths paths, components p = components q := by
  unfold sortPaths
  have hsorted : p ∈ paths.mergeSort Path.le := List.mem_mergeSort.mpr h
  exact exists_mem_dedup hsorted

end Finder

end LineLimit

import Mathlib
/-!
Work on a list of inputs by any number of workers. Every input has a slot for its result. A worker takes up some input
that waits, and later writes the result into the slot of that input; several can be under way at a time, and which comes
next is open. The work ends whatever the order, and the results then stand in the order of the inputs.
-/

namespace LineLimit.Schedule

inductive Slot (β : Type)
  | waiting
  | underWay
  | done (result : β)

variable {α β : Type} {f : α → β} {inputs : List α} {slots next : List (Slot β)}

/-- What one worker does next, where `f` gives the result of an input. -/
inductive Step (f : α → β) (inputs : List α) : List (Slot β) → List (Slot β) → Prop
  | take {slots : List (Slot β)} (i : Nat) (hslot : slots[i]? = some .waiting) :
      Step f inputs slots (slots.set i .underWay)
  | finish {slots : List (Slot β)} (i : Nat) {a : α} (hinput : inputs[i]? = some a)
      (hslot : slots[i]? = some .underWay) : Step f inputs slots (slots.set i (.done (f a)))

def start (inputs : List α) : List (Slot β) := inputs.map fun _ => .waiting

/-- The results that are there belong to the inputs at their places. -/
structure Sound (f : α → β) (inputs : List α) (slots : List (Slot β)) : Prop where
  length : slots.length = inputs.length
  result : ∀ (i : Nat) r, slots[i]? = some (Slot.done r) → inputs[i]?.map f = some r

theorem sound_start (f : α → β) (inputs : List α) : Sound f inputs (start inputs) := by
  constructor
  · simp [start]
  · intro i r h
    rw [start, List.getElem?_map] at h
    obtain ⟨_, _, hslot⟩ := Option.map_eq_some_iff.mp h
    exact nomatch hslot

theorem Sound.set {i : Nat} {s : Slot β} (h : Sound f inputs slots)
    (hs : ∀ r, s = .done r → inputs[i]?.map f = some r) : Sound f inputs (slots.set i s) := by
  constructor
  · rw [List.length_set, h.length]
  · intro j r hj
    rw [List.getElem?_set] at hj
    split at hj
    · next hij =>
        subst hij
        split at hj
        · exact hs r (Option.some.inj hj)
        · exact nomatch hj
    · exact h.result j r hj

/-- A step writes nothing but the result of the input whose slot it is. -/
theorem Step.sound (step : Step f inputs slots next) (h : Sound f inputs slots) : Sound f inputs next := by
  cases step with
  | take i hslot => exact h.set fun r hr => nomatch hr
  | finish i hinput hslot =>
      apply h.set
      intro r hr
      cases hr
      rw [hinput, Option.map_some]

theorem sound_of_run (run : Relation.ReflTransGen (Step f inputs) (start inputs) slots) : Sound f inputs slots := by
  induction run with
  | refl => exact sound_start f inputs
  | tail _ step ih => exact step.sound ih

/-- Once there is a result in every slot, these are the results of the inputs in order. -/
theorem Sound.results_eq {results : List β} (h : Sound f inputs (results.map .done)) :
    results = inputs.map f := by
  have hlen : results.length = inputs.length := by
    simpa using h.length
  apply List.ext_getElem?
  intro i
  rw [List.getElem?_map]
  cases hr : results[i]? with
  | none =>
      have hi : inputs.length ≤ i := hlen ▸ List.getElem?_eq_none_iff.mp hr
      rw [List.getElem?_eq_none_iff.mpr hi, Option.map_none]
  | some r =>
      have hdone : (results.map Slot.done)[i]? = some (.done r) := by
        rw [List.getElem?_map, hr, Option.map_some]
      exact (h.result i r hdone).symm

def Slot.steps : Slot β → Nat
  | .waiting => 2
  | .underWay => 1
  | .done _ => 0

def steps (slots : List (Slot β)) : Nat := (slots.map Slot.steps).sum

theorem steps_set_lt {i : Nat} {old new : Slot β} (hold : slots[i]? = some old) (hlt : new.steps < old.steps) :
    steps (slots.set i new) < steps slots := by
  induction slots generalizing i with
  | nil => exact nomatch hold
  | cons s slots ih =>
      cases i with
      | zero =>
          cases hold
          simp only [steps, List.set_cons_zero, List.map_cons, List.sum_cons]
          omega
      | succ i =>
          have hrest := ih hold
          simp only [steps, List.set_cons_succ, List.map_cons, List.sum_cons] at hrest ⊢
          omega

theorem Step.steps_lt (step : Step f inputs slots next) : steps next < steps slots := by
  cases step with
  | take i hslot => exact steps_set_lt hslot Nat.one_lt_two
  | finish i hinput hslot => exact steps_set_lt hslot Nat.zero_lt_one

theorem wellFounded_step (f : α → β) (inputs : List α) :
    WellFounded fun next slots => Step f inputs slots next :=
  Subrelation.wf (fun step => step.steps_lt) (measure steps).wf

theorem exists_results (slots : List (Slot β)) :
    (∃ results : List β, slots = results.map .done) ∨
      ∃ i : Nat, slots[i]? = some Slot.waiting ∨ slots[i]? = some Slot.underWay := by
  induction slots with
  | nil => exact .inl ⟨[], rfl⟩
  | cons s slots ih =>
      cases s with
      | waiting => exact .inr ⟨0, .inl rfl⟩
      | underWay => exact .inr ⟨0, .inr rfl⟩
      | done r =>
          rcases ih with ⟨results, rfl⟩ | ⟨i, hi⟩
          · exact .inl ⟨r :: results, rfl⟩
          · exact .inr ⟨i + 1, hi⟩

/-- Where no worker has anything left to do, every slot has its result. -/
theorem Sound.results_of_stuck (h : Sound f inputs slots) (hstuck : ∀ next, ¬ Step f inputs slots next) :
    ∃ results : List β, slots = results.map .done := by
  rcases exists_results slots with hresults | ⟨i, hi | hi⟩
  · exact hresults
  · exact absurd (.take i hi) (hstuck _)
  · obtain ⟨hlt, _⟩ := List.getElem?_eq_some_iff.mp hi
    rw [h.length] at hlt
    exact absurd (.finish i (List.getElem?_eq_getElem hlt) hi) (hstuck _)

/-- Every run of the work that has come to its end has the results of the inputs in their slots. -/
theorem slots_of_run (run : Relation.ReflTransGen (Step f inputs) (start inputs) slots)
    (hstuck : ∀ next, ¬ Step f inputs slots next) : slots = (inputs.map f).map .done := by
  have hsound := sound_of_run run
  obtain ⟨results, rfl⟩ := hsound.results_of_stuck hstuck
  rw [hsound.results_eq]

theorem stuck_of_done (results : List β) (next : List (Slot β)) : ¬ Step f inputs (results.map .done) next := by
  intro step
  cases step with
  | take i hslot => simp at hslot
  | finish i hinput hslot => simp at hslot

end LineLimit.Schedule

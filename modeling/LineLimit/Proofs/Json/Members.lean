import LineLimit.Json.Structure
import Mathlib.Data.List.Nodup
/-!
The members of an object. Where no name comes twice, a member is found by its name wherever it stands, and members in
ascending order are put in order as they are.
-/

namespace LineLimit.Json

section Names

variable {name : String} {members : List (String × Json)} {v : Json}

theorem member?_cons_of_eq : member? name ((name, v) :: members) = some v := by
  rw [member?, List.find?_cons_of_pos (by simp), Option.map_some]

theorem member?_cons_of_ne {other : String} (h : other ≠ name) :
    member? name ((other, v) :: members) = member? name members := by
  rw [member?, List.find?_cons_of_neg (by simpa using h), member?]

theorem member?_eq_none_iff : member? name members = none ↔ ∀ v, (name, v) ∉ members := by
  simp only [member?, Option.map_eq_none_iff, List.find?_eq_none, beq_iff_eq, Prod.forall]
  constructor
  · intro h v hv
    exact h name v hv rfl
  · rintro h _ v hv rfl
    exact h v hv

/-- Where no name comes twice, the member that is found is the only one of its name. -/
theorem member?_eq_some_iff (hn : (members.map (·.1)).Nodup) : member? name members = some v ↔ (name, v) ∈ members := by
  induction members with
  | nil => exact iff_of_false nofun List.not_mem_nil
  | cons first rest ih =>
      obtain ⟨other, w⟩ := first
      rw [List.map_cons, List.nodup_cons] at hn
      obtain ⟨hother, hrest⟩ := hn
      rw [List.mem_cons]
      by_cases heq : other = name
      · subst heq
        rw [member?_cons_of_eq, Option.some.injEq]
        constructor
        · rintro rfl
          exact .inl rfl
        · rintro (h | h)
          · exact (congrArg Prod.snd h).symm
          · exact absurd (List.mem_map_of_mem h) hother
      · rw [member?_cons_of_ne heq, ih hrest]
        constructor
        · exact .inr
        · rintro (h | h)
          · exact absurd (congrArg Prod.fst h).symm heq
          · exact h

/-- Where a value is an object, no name comes twice. -/
def NamesOnce : Json → Prop
  | .obj members => (members.map (·.1)).Nodup
  | _ => True

theorem value_unique (hn : (members.map (·.1)).Nodup) {w : Json} (hv : (name, v) ∈ members) (hw : (name, w) ∈ members) :
    v = w := by
  rw [← member?_eq_some_iff hn] at hv hw
  rw [hv] at hw
  exact Option.some.inj hw

theorem Shape.visitAll_cons {σ : Type} (shape : Shape σ) (draft : σ) :
    shape.visitAll draft ((name, v) :: members) = shape.visit name v draft >>= (shape.visitAll · members) := rfl

end Names

section Order

variable {α : Type} {name : String} {value : α} {sorted members : List (String × α)}

theorem insertMember_of_forall_lt (h : ∀ x ∈ sorted, x.1 < name) :
    insertMember name value sorted = sorted ++ [(name, value)] := by
  induction sorted with
  | nil => rfl
  | cons first rest ih =>
      obtain ⟨hfirst, hrest⟩ := List.forall_mem_cons.mp h
      rw [insertMember, if_neg (String.lt_asymm hfirst), if_neg (String.ne_of_lt hfirst).symm, ih hrest]
      rfl

theorem foldl_insertMember (h : ((sorted ++ members).map (·.1)).Pairwise (· < ·)) :
    members.foldl (fun sorted (n, v) => insertMember n v sorted) sorted = sorted ++ members := by
  induction members generalizing sorted with
  | nil => rw [List.foldl_nil, List.append_nil]
  | cons first rest ih =>
      obtain ⟨name, value⟩ := first
      have hlt : ∀ x ∈ sorted, x.1 < name := by
        intro x hx
        rw [List.map_append, List.pairwise_append] at h
        exact h.2.2 x.1 (List.mem_map_of_mem hx) name List.mem_cons_self
      rw [List.foldl_cons]
      dsimp only
      rw [insertMember_of_forall_lt hlt, ih (by simpa using h), List.append_assoc]
      rfl

theorem object_of_ascending {members : List (String × Json)} (h : (members.map (·.1)).Pairwise (· < ·)) :
    object members = .obj members := by
  rw [object, sortMembers, foldl_insertMember h]
  rfl

end Order

end LineLimit.Json

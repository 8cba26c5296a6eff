import LineLimit.Element
/-!
Elements at any depth. An element occurs in trees when it is one of them or occurs below one of them. The search
for a kind finds exactly the elements of that kind that occur.
-/

namespace LineLimit.Element

/-- The element is one of the trees, or stands somewhere below one of them. -/
inductive Within (x : Element) : List Element → Prop
  | root (rest : List Element) : Within x (x :: rest)
  | inner {e : Element} (rest : List Element) : Within x e.children → Within x (e :: rest)
  | later (e : Element) {rest : List Element} : Within x rest → Within x (e :: rest)

theorem not_within_nil {x : Element} : ¬ Within x [] := nofun

theorem within_cons_iff {x e : Element} {rest : List Element} :
    Within x (e :: rest) ↔ x = e ∨ Within x e.children ∨ Within x rest := by
  constructor
  · intro h
    cases h with
    | root => exact .inl rfl
    | inner _ h => exact .inr (.inl h)
    | later _ h => exact .inr (.inr h)
  · rintro (rfl | h | h)
    · exact .root rest
    · exact .inner rest h
    · exact .later e h

theorem within_append_iff {x : Element} {xs ys : List Element} :
    Within x (xs ++ ys) ↔ Within x xs ∨ Within x ys := by
  induction xs with
  | nil => exact ⟨.inr, fun h => h.elim (fun h => absurd h not_within_nil) id⟩
  | cons e xs ih => rw [List.cons_append, within_cons_iff, within_cons_iff, ih, or_assoc, or_assoc]

/-- The search replaces a tree by its children in front of the other trees, which loses no element but the root
of the tree. -/
theorem mem_findIn_iff {k : Kind} {x : Element} {trees : List Element} :
    x ∈ findIn k trees ↔ Within x trees ∧ x.kind = k := by
  fun_induction findIn k trees with
  | case1 => exact ⟨nofun, fun h => absurd h.1 not_within_nil⟩
  | case2 e rest found hk ih =>
      rw [List.mem_cons, ih, within_append_iff, within_cons_iff]
      constructor
      · rintro (rfl | ⟨h, hx⟩)
        · exact ⟨.inl rfl, hk⟩
        · exact ⟨.inr h, hx⟩
      · rintro ⟨rfl | h, hx⟩
        · exact .inl rfl
        · exact .inr ⟨h, hx⟩
  | case3 e rest found hk ih =>
      rw [ih, within_append_iff, within_cons_iff]
      constructor
      · exact fun ⟨h, hx⟩ => ⟨.inr h, hx⟩
      · rintro ⟨rfl | h, hx⟩
        · exact absurd hx hk
        · exact ⟨h, hx⟩

end LineLimit.Element

import LineLimit.Element
/-!
The order of elements in a document. An element comes before what is inside it, and what is inside it before what
follows it. Every element has a place, which tells at each level which of the elements there leads to it. A listing in
document order goes through the places in ascending order, misses none of them and stops at none twice.
-/

namespace LineLimit.Element

mutual

def preorder : Element → List Element
  | ⟨kind, location, value, children⟩ => ⟨kind, location, value, children⟩ :: preorderAll children

def preorderAll : List Element → List Element
  | [] => []
  | e :: rest => preorder e ++ preorderAll rest

end

theorem preorder_eq (e : Element) : preorder e = e :: preorderAll e.children := by
  cases e
  rfl

theorem preorderAll_append (xs ys : List Element) :
    preorderAll (xs ++ ys) = preorderAll xs ++ preorderAll ys := by
  induction xs with
  | nil => rfl
  | cons e xs ih => rw [List.cons_append, preorderAll, preorderAll, ih, List.append_assoc]

/-- After the first element comes what it has inside, as if that stood in front of the other trees. -/
theorem preorderAll_cons (e : Element) (rest : List Element) :
    preorderAll (e :: rest) = e :: preorderAll (e.children ++ rest) := by
  rw [preorderAll, preorder_eq, preorderAll_append, List.cons_append]

theorem length_preorderAll (trees : List Element) : (preorderAll trees).length = pending trees := by
  fun_induction pending trees with
  | case1 => rfl
  | case2 kind location value children rest ihChildren ihRest =>
      rw [preorderAll, preorder, List.cons_append, List.length_cons, List.length_append, ihChildren, ihRest]
      omega

/-- The search goes through the trees in document order. -/
theorem findIn_eq_filter (k : Kind) (trees : List Element) :
    findIn k trees = (preorderAll trees).filter (·.kind = k) := by
  fun_induction findIn k trees with
  | case1 => rfl
  | case2 e rest found hk ih =>
      simp only [preorderAll_cons, List.filter_cons, hk, ← ih, found, decide_true, if_true]
  | case3 e rest found hk ih =>
      simp only [preorderAll_cons, List.filter_cons, hk, ← ih, found, decide_false, Bool.false_eq_true, if_false]

/-- What a place inside an element leads to. The element itself is at the empty place. -/
def below? : Element → List Nat → Option Element
  | e, [] => some e
  | e, i :: place => e.children[i]?.bind fun child => child.below? place

def at? (trees : List Element) : List Nat → Option Element
  | [] => none
  | i :: place => trees[i]?.bind fun e => e.below? place

mutual

/-- The elements in document order, each with its place inside this one. -/
def placed : Element → List (List Nat × Element)
  | ⟨kind, location, value, children⟩ => ([], ⟨kind, location, value, children⟩) :: placedAll 0 children

/-- The elements with their places in trees of which the first has the number `i`. -/
def placedAll (i : Nat) : List Element → List (List Nat × Element)
  | [] => []
  | e :: rest => (placed e).map (fun x => (i :: x.1, x.2)) ++ placedAll (i + 1) rest

end

mutual

theorem map_snd_placed : (e : Element) → (placed e).map Prod.snd = preorder e
  | ⟨kind, location, value, children⟩ => by
      rw [placed, preorder, List.map_cons, map_snd_placedAll 0 children]

theorem map_snd_placedAll (i : Nat) : (trees : List Element) → (placedAll i trees).map Prod.snd = preorderAll trees
  | [] => rfl
  | e :: rest => by
      rw [placedAll, preorderAll, List.map_append, map_snd_placedAll (i + 1) rest, List.map_map, ← map_snd_placed e]
      rfl

end

theorem exists_at?_iff {trees : List Element} {place : List Nat} {x : Element} :
    (∃ j below, place = (0 + j) :: below ∧ at? trees (j :: below) = some x) ↔ at? trees place = some x := by
  constructor
  · intro ⟨j, below, hplace, hat⟩
    rw [hplace, Nat.zero_add]
    exact hat
  · intro hat
    cases place with
    | nil => nomatch hat
    | cons j below => exact ⟨j, below, by rw [Nat.zero_add], hat⟩

mutual

theorem mem_placed_iff {place : List Nat} {x : Element} :
    (e : Element) → ((place, x) ∈ placed e ↔ below? e place = some x)
  | ⟨kind, location, value, children⟩ => by
      rw [placed, List.mem_cons, mem_placedAll_iff children, exists_at?_iff]
      cases place with
      | nil => simp [below?, at?, eq_comm]
      | cons j below => simp [below?, at?]

theorem mem_placedAll_iff {i : Nat} {place : List Nat} {x : Element} : (trees : List Element) →
    ((place, x) ∈ placedAll i trees ↔ ∃ j below, place = (i + j) :: below ∧ at? trees (j :: below) = some x)
  | [] => by simp [placedAll, at?]
  | e :: rest => by
      rw [placedAll, List.mem_append, List.mem_map, mem_placedAll_iff rest]
      constructor
      · intro h
        rcases h with ⟨⟨below, y⟩, hy, hplace⟩ | ⟨j, below, hplace, hat⟩
        · cases hplace
          exact ⟨0, below, rfl, (mem_placed_iff e).mp hy⟩
        · exact ⟨j + 1, below, by rw [hplace, Nat.add_right_comm, Nat.add_assoc], hat⟩
      · intro ⟨j, below, hplace, hat⟩
        cases j with
        | zero => exact .inl ⟨(below, x), (mem_placed_iff e).mpr hat, by rw [hplace]; rfl⟩
        | succ j => exact .inr ⟨j, below, by rw [hplace, Nat.add_right_comm, Nat.add_assoc], hat⟩

end

theorem mem_placedAll_zero_iff {trees : List Element} {place : List Nat} {x : Element} :
    (place, x) ∈ placedAll 0 trees ↔ at? trees place = some x :=
  (mem_placedAll_iff trees).trans exists_at?_iff

/-- The first place comes before the second one: where they part it goes into an earlier element, or it ends there. -/
def Earlier : List Nat → List Nat → Prop := List.Lex fun i j => i < j

theorem Earlier.ne {place other : List Nat} (h : Earlier place other) : place ≠ other := by
  intro heq
  subst heq
  exact List.lex_irrefl Nat.lt_irrefl place h

mutual

theorem pairwise_placed : (e : Element) → (placed e).Pairwise fun x y => Earlier x.1 y.1
  | ⟨kind, location, value, children⟩ => by
      rw [placed, List.pairwise_cons]
      refine ⟨?_, pairwise_placedAll 0 children⟩
      intro x hx
      obtain ⟨j, below, hplace, _⟩ := (mem_placedAll_iff children).mp hx
      rw [hplace]
      exact .nil

theorem pairwise_placedAll (i : Nat) :
    (trees : List Element) → (placedAll i trees).Pairwise fun x y => Earlier x.1 y.1
  | [] => .nil
  | e :: rest => by
      rw [placedAll, List.pairwise_append, List.pairwise_map]
      -- Places in the first tree begin with `i`, those in the other trees with a larger number.
      refine ⟨(pairwise_placed e).imp .cons, pairwise_placedAll (i + 1) rest, ?_⟩
      intro x hx y hy
      obtain ⟨z, _, rfl⟩ := List.mem_map.mp hx
      obtain ⟨j, below, hplace, _⟩ := (mem_placedAll_iff rest).mp hy
      rw [hplace]
      exact .rel (by omega)

end

/-- The places of the elements of a kind, in document order. -/
def placesOf (k : Kind) (trees : List Element) : List (List Nat) :=
  ((placedAll 0 trees).filter (·.2.kind = k)).map Prod.fst

theorem mem_placesOf_iff {k : Kind} {trees : List Element} {place : List Nat} :
    place ∈ placesOf k trees ↔ ∃ e, at? trees place = some e ∧ e.kind = k := by
  simp only [placesOf, List.mem_map, List.mem_filter, decide_eq_true_eq]
  constructor
  · intro ⟨⟨_, e⟩, ⟨hmem, hk⟩, hplace⟩
    cases hplace
    exact ⟨e, mem_placedAll_zero_iff.mp hmem, hk⟩
  · intro ⟨e, hat, hk⟩
    exact ⟨(place, e), ⟨mem_placedAll_zero_iff.mpr hat, hk⟩, rfl⟩

theorem pairwise_placesOf (k : Kind) (trees : List Element) : (placesOf k trees).Pairwise Earlier := by
  rw [placesOf, List.pairwise_map]
  exact (pairwise_placedAll 0 trees).filter _

theorem nodup_placesOf (k : Kind) (trees : List Element) : (placesOf k trees).Nodup :=
  (pairwise_placesOf k trees).imp Earlier.ne

theorem map_at?_placesOf (k : Kind) (trees : List Element) :
    (placesOf k trees).map (at? trees) = (findIn k trees).map some := by
  have hfound : findIn k trees = ((placedAll 0 trees).filter (·.2.kind = k)).map Prod.snd := by
    rw [findIn_eq_filter, ← map_snd_placedAll 0 trees, List.filter_map]
    rfl
  rw [hfound, placesOf, List.map_map, List.map_map]
  apply List.map_congr_left
  intro x hx
  have hmem : (x.1, x.2) ∈ placedAll 0 trees := (List.mem_filter.mp hx).1
  exact mem_placedAll_zero_iff.mp hmem

end LineLimit.Element

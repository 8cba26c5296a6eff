import LineLimit.Document
import LineLimit.Proofs.Element.Preorder
/-!
The search for the elements of a kind, one turn after the other. The trees that are still to be visited lie on a stack.
A turn takes the uppermost tree off, keeps its element if that is of the kind, and puts the children on the stack with
the first one uppermost. No turn changes what will have been found at the end, and every turn leaves one element less to
visit, so the search ends, and with the elements of the kind in document order.
-/

namespace LineLimit

namespace Element

/-- A search under way. The top of the stack is at its end. -/
structure Search where
  stack : Array Element
  found : Array Element

namespace Search

variable {k : Kind} {s next : Search} {n : Nat} {found : List Element}

def start (trees : List Element) : Search := ⟨trees.reverse.toArray, #[]⟩

/-- One turn. There is none when nothing is left to visit. -/
def turn? (k : Kind) (s : Search) : Option Search :=
  s.stack.back?.map fun e =>
    ⟨s.stack.pop ++ e.children.reverse.toArray, if e.kind = k then s.found.push e else s.found⟩

/-- After that many turns there is none left, and this has been found. -/
inductive Ends (k : Kind) : Nat → Search → List Element → Prop
  | done {s : Search} (h : s.turn? k = none) : Ends k 0 s s.found.toList
  | turn {s next : Search} {n : Nat} {found : List Element} (h : s.turn? k = some next)
      (rest : Ends k n next found) : Ends k (n + 1) s found

/-- The trees that are still to be visited, the next one first. -/
def waiting (s : Search) : List Element := s.stack.toList.reverse

def outcome (k : Kind) (s : Search) : List Element := s.found.toList ++ findIn k s.waiting

@[simp] theorem waiting_start (trees : List Element) : (start trees).waiting = trees := by
  simp [start, waiting]

@[simp] theorem outcome_start (k : Kind) (trees : List Element) : (start trees).outcome k = findIn k trees := by
  rw [outcome, waiting_start]
  rfl

theorem waiting_of_turn?_eq_none (h : s.turn? k = none) : s.waiting = [] := by
  simpa [turn?, waiting] using h

theorem outcome_of_turn?_eq_none (h : s.turn? k = none) : s.outcome k = s.found.toList := by
  rw [outcome, waiting_of_turn?_eq_none h, findIn, List.append_nil]

theorem pending_of_turn?_eq_none (h : s.turn? k = none) : pending s.waiting = 0 := by
  rw [waiting_of_turn?_eq_none h, pending]

theorem of_turn?_eq_some (h : s.turn? k = some next) :
    ∃ e rest, s.waiting = e :: rest ∧ next.waiting = e.children ++ rest ∧
      next.found = if e.kind = k then s.found.push e else s.found := by
  rw [turn?, Option.map_eq_some_iff] at h
  obtain ⟨e, hback, rfl⟩ := h
  obtain ⟨under, hstack⟩ := Array.back?_eq_some_iff.mp hback
  refine ⟨e, under.toList.reverse, ?_, ?_, rfl⟩
  · simp [waiting, hstack]
  · simp [waiting, hstack]

theorem outcome_turn (h : s.turn? k = some next) : next.outcome k = s.outcome k := by
  obtain ⟨e, rest, hwaiting, hnext, hfound⟩ := of_turn?_eq_some h
  rw [outcome, outcome, hwaiting, hnext, hfound, findIn]
  by_cases hk : e.kind = k
  · simp only [hk, if_true, Array.toList_push, List.append_assoc, List.singleton_append]
  · simp only [hk, if_false]

theorem pending_turn (h : s.turn? k = some next) : pending s.waiting = pending next.waiting + 1 := by
  obtain ⟨e, rest, hwaiting, hnext, _⟩ := of_turn?_eq_some h
  rw [hwaiting, hnext, ← length_preorderAll, preorderAll_cons, List.length_cons, length_preorderAll]

theorem ends_outcome (k : Kind) (s : Search) : Ends k (pending s.waiting) s (s.outcome k) := by
  cases hturn : s.turn? k with
  | none =>
      rw [outcome_of_turn?_eq_none hturn, pending_of_turn?_eq_none hturn]
      exact .done hturn
  | some next =>
      rw [pending_turn hturn, ← outcome_turn hturn]
      exact .turn hturn (ends_outcome k next)
  -- A turn can make the stack higher. What gets less is the number of elements still to be visited.
  termination_by pending s.waiting
  decreasing_by
    rw [pending_turn hturn]
    exact Nat.lt_succ_self _

theorem Ends.eq_outcome (h : Ends k n s found) : n = pending s.waiting ∧ found = s.outcome k := by
  induction h with
  | done hturn => exact ⟨(pending_of_turn?_eq_none hturn).symm, (outcome_of_turn?_eq_none hturn).symm⟩
  | turn hturn _ ih =>
      obtain ⟨hn, hfound⟩ := ih
      exact ⟨by rw [pending_turn hturn, hn], hfound.trans (outcome_turn hturn)⟩

theorem ends_start_iff {trees : List Element} :
    Ends k n (start trees) found ↔ n = (preorderAll trees).length ∧ found = findIn k trees := by
  constructor
  · intro h
    have heq := h.eq_outcome
    rwa [waiting_start, outcome_start, ← length_preorderAll] at heq
  · intro ⟨hn, hfound⟩
    have hends := ends_outcome k (start trees)
    rwa [waiting_start, outcome_start, ← length_preorderAll, ← hn, ← hfound] at hends

end Search

end Element

open Element

/-- The search takes one turn for every element of the document, and ends in no other way. It has then found the
elements of the kind in document order: what stands at the places that hold such an element, each of them once, from
the earliest place to the last. -/
theorem Document.elementsOf_in_document_order (d : Document) (k : Kind) :
    Search.Ends k (preorderAll d.elements).length (Search.start d.elements) (d.elementsOf k) ∧
    (∀ n found, Search.Ends k n (Search.start d.elements) found →
      n = (preorderAll d.elements).length ∧ found = d.elementsOf k) ∧
    d.elementsOf k = (preorderAll d.elements).filter (·.kind = k) ∧
    ∃ places : List (List Nat), places.Pairwise Earlier ∧ places.Nodup ∧
      (∀ place, place ∈ places ↔ ∃ e, at? d.elements place = some e ∧ e.kind = k) ∧
      places.map (at? d.elements) = (d.elementsOf k).map some := by
  refine ⟨Search.ends_start_iff.mpr ⟨rfl, rfl⟩, ?_, findIn_eq_filter k d.elements, placesOf k d.elements,
    pairwise_placesOf k d.elements, nodup_placesOf k d.elements, ?_, map_at?_placesOf k d.elements⟩
  · intro n found h
    exact Search.ends_start_iff.mp h
  · intro place
    exact mem_placesOf_iff

/-- A code block inside a code block. -/
example :
    let inner : Element := { kind := .codeBlock, location := some 3 }
    let outer : Element := { kind := .codeBlock, location := some 2, children := [{ kind := .list }, inner] }
    let last : Element := { kind := .codeBlock, location := some 7 }
    ((Document.new "" [{ kind := .list, children := [outer] }, last]).elementsOf .codeBlock).map (·.location) =
      [some 2, some 3, some 7] := by
  cbv

end LineLimit

/-!
Computations that may fail. When one succeeds, so do its parts, and its result is made of theirs.
-/

namespace LineLimit

theorem of_bind_eq_ok {ε α β : Type} {x : Except ε α} {f : α → Except ε β} {b : β} (h : x >>= f = .ok b) :
    ∃ a, x = .ok a ∧ f a = .ok b := by
  cases x with
  | ok a => exact ⟨a, rfl, h⟩
  | error e => exact nomatch h

theorem of_mapError_eq_ok {ε ε' α : Type} {x : Except ε α} {g : ε → ε'} {a : α} (h : x.mapError g = .ok a) :
    x = .ok a := by
  cases x with
  | ok b =>
      cases h
      rfl
  | error e => exact nomatch h

theorem exists_ok_or_error {ε α : Type} (x : Except ε α) : (∃ a, x = .ok a) ∨ ∃ e, x = .error e := by
  cases x with
  | ok a => exact .inl ⟨a, rfl⟩
  | error e => exact .inr ⟨e, rfl⟩

theorem exists_bind_eq_ok_iff {ε α β : Type} {x : Except ε α} {f : α → Except ε β} :
    (∃ b, x >>= f = .ok b) ↔ ∃ a, x = .ok a ∧ ∃ b, f a = .ok b := by
  constructor
  · rintro ⟨b, h⟩
    obtain ⟨a, ha, hb⟩ := of_bind_eq_ok h
    exact ⟨a, ha, b, hb⟩
  · rintro ⟨a, rfl, b, hb⟩
    exact ⟨b, hb⟩

theorem mapError_eq_ok_iff {ε ε' α : Type} {x : Except ε α} {g : ε → ε'} {a : α} :
    x.mapError g = .ok a ↔ x = .ok a := by
  constructor
  · exact of_mapError_eq_ok
  · rintro rfl
    rfl

theorem mapError_eq_error_iff {ε ε' α : Type} {x : Except ε α} {g : ε → ε'} {e : ε'} :
    x.mapError g = .error e ↔ ∃ cause, x = .error cause ∧ g cause = e := by
  cases x with
  | ok a => exact iff_of_false nofun fun ⟨_, h, _⟩ => nomatch h
  | error cause =>
      constructor
      · intro h
        cases h
        exact ⟨cause, rfl, rfl⟩
      · rintro ⟨_, h, rfl⟩
        cases h
        rfl

theorem map_eq_ok_iff {ε α β : Type} {x : Except ε α} {f : α → β} {b : β} :
    x.map f = .ok b ↔ ∃ a, x = .ok a ∧ f a = b := by
  cases x with
  | ok a => simp [Except.map]
  | error e => exact iff_of_false nofun nofun

theorem map_eq_error_iff {ε α β : Type} {x : Except ε α} {f : α → β} {e : ε} : x.map f = .error e ↔ x = .error e := by
  cases x with
  | ok a => exact iff_of_false nofun nofun
  | error e' => simp [Except.map]

theorem exists_error_iff {ε α : Type} {x : Except ε (Option α)} :
    (∃ e, x = .error e) ↔ x ≠ .ok none ∧ ¬ ∃ a, x = .ok (some a) := by
  cases x with
  | error e => exact iff_of_true ⟨e, rfl⟩ ⟨nofun, nofun⟩
  | ok r =>
      refine iff_of_false nofun ?_
      rintro ⟨hnone, hsome⟩
      cases r with
      | none => exact hnone rfl
      | some a => exact hsome ⟨a, rfl⟩

theorem exists_mapM_eq_ok_iff {ε α β : Type} {g : α → Except ε β} {as : List α} :
    (∃ bs, as.mapM g = .ok bs) ↔ ∀ a ∈ as, ∃ b, g a = .ok b := by
  induction as with
  | nil => exact iff_of_true ⟨[], rfl⟩ fun a ha => nomatch ha
  | cons a as ih =>
      rw [List.mapM_cons, exists_bind_eq_ok_iff, List.forall_mem_cons, ← ih]
      constructor
      · rintro ⟨b, hb, h⟩
        obtain ⟨bs, hbs, _⟩ := exists_bind_eq_ok_iff.mp h
        exact ⟨⟨b, hb⟩, bs, hbs⟩
      · rintro ⟨⟨b, hb⟩, bs, hbs⟩
        exact ⟨b, hb, exists_bind_eq_ok_iff.mpr ⟨bs, hbs, b :: bs, rfl⟩⟩

/-- The first element that fails gives the error. -/
theorem mapM_eq_error_iff {ε α β : Type} {g : α → Except ε β} {as : List α} {e : ε} :
    as.mapM g = .error e ↔
      ∃ before a after, as = before ++ a :: after ∧ (∀ b ∈ before, ∃ c, g b = .ok c) ∧ g a = .error e := by
  induction as with
  | nil =>
      refine iff_of_false nofun ?_
      rintro ⟨before, a, after, hsplit, _⟩
      cases before <;> nomatch hsplit
  | cons first rest ih =>
      rw [List.mapM_cons]
      cases hfirst : g first with
      | error e' =>
          constructor
          · intro h
            cases h
            exact ⟨[], first, rest, rfl, nofun, hfirst⟩
          · rintro ⟨before, a, after, hsplit, hok, ha⟩
            cases before with
            | nil =>
                cases hsplit
                rw [hfirst] at ha
                cases ha
                rfl
            | cons b before =>
                cases hsplit
                obtain ⟨c, hc⟩ := hok first List.mem_cons_self
                rw [hfirst] at hc
                nomatch hc
      | ok b =>
          have htail : (Except.ok b >>= fun b => rest.mapM g >>= fun bs => pure (b :: bs)) =
              (rest.mapM g).map (b :: ·) := by
            cases rest.mapM g <;> rfl
          rw [htail, map_eq_error_iff, ih]
          constructor
          · rintro ⟨before, a, after, rfl, hok, ha⟩
            refine ⟨first :: before, a, after, rfl, ?_, ha⟩
            exact List.forall_mem_cons.mpr ⟨⟨b, hfirst⟩, hok⟩
          · rintro ⟨before, a, after, hsplit, hok, ha⟩
            cases before with
            | nil =>
                cases hsplit
                rw [hfirst] at ha
                nomatch ha
            | cons c before =>
                cases hsplit
                exact ⟨before, a, after, rfl, (List.forall_mem_cons.mp hok).2, ha⟩

theorem filterMapM_eq_ok {ε α β : Type} {g : α → Except ε (Option β)} {f : α → Option β} {as : List α}
    (h : ∀ a ∈ as, g a = .ok (f a)) : as.filterMapM g = .ok (as.filterMap f) := by
  induction as with
  | nil => rfl
  | cons a as ih =>
      rw [List.forall_mem_cons] at h
      rw [List.filterMapM_cons, h.1, ih h.2, List.filterMap_cons]
      cases f a <;> rfl

theorem mem_mapM_iff {ε α β : Type} {g : α → Except ε β} {as : List α} {bs : List β}
    (h : as.mapM g = .ok bs) (b : β) : b ∈ bs ↔ ∃ a ∈ as, g a = .ok b := by
  induction as generalizing bs with
  | nil =>
      cases h
      simp
  | cons a as ih =>
      rw [List.mapM_cons] at h
      obtain ⟨first, hfirst, h⟩ := of_bind_eq_ok h
      obtain ⟨rest, hrest, h⟩ := of_bind_eq_ok h
      cases h
      simp only [List.mem_cons, or_and_right, exists_or, exists_eq_left, ih hrest, hfirst, Except.ok.injEq,
        eq_comm (a := b)]

end LineLimit

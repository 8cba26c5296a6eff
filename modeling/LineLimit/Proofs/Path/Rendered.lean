import LineLimit.Proofs.Path.Components
/-!
The text of components. What is left of a path without dots at its start is written as a text that has the same
components, so that different components have different texts.
-/

namespace LineLimit.Path

theorem not_mem_of_mem_splitOn {l cs : List Char} (h : l ∈ cs.splitOn '/') : '/' ∉ l := by
  induction cs generalizing l with
  | nil =>
      rw [List.splitOn_nil, List.mem_singleton] at h
      rw [h]
      exact List.not_mem_nil
  | cons c cs ih =>
      rw [List.splitOn_cons_eq_if_modifyHead] at h
      obtain ⟨first, rest, hsplit⟩ := List.exists_cons_of_ne_nil (List.splitOn_ne_nil '/' cs)
      rw [hsplit] at h ih
      split at h
      · rcases List.mem_cons.mp h with rfl | h
        · exact List.not_mem_nil
        · exact ih h
      · next hc =>
          rcases List.mem_cons.mp h with rfl | h
          · rintro (_ | ⟨_, hmem⟩)
            · exact hc rfl
            · exact ih List.mem_cons_self hmem
          · exact ih (List.mem_cons_of_mem first h)

/-- A component is read back from its text. -/
def Component.Legible (c : Component) : Prop := ofPart? (render.text c) = some c ∧ '/' ∉ (render.text c).toList

theorem legible_of_mem_parts {p : String} {c : Component} (h : c ∈ (parts p).filterMap Component.ofPart?) :
    c.Legible := by
  obtain ⟨s, hs, hpart⟩ := List.mem_filterMap.mp h
  obtain ⟨l, hl, rfl⟩ := List.mem_map.mp hs
  have htext : render.text c = String.ofList l := by
    unfold Component.ofPart? at hpart
    split at hpart
    · exact nomatch hpart
    · split at hpart <;> cases hpart
      · next hup => exact hup.symm
      · rfl
  rw [Component.Legible, htext, String.toList_ofList]
  exact ⟨hpart, not_mem_of_mem_splitOn hl⟩

theorem parts_texts {cs : List Component} (h : ∀ c ∈ cs, c.Legible) (hne : cs ≠ []) :
    parts (nameText (cs.map render.text)) = cs.map render.text := by
  refine parts_nameText (fun s hs => ?_) (mt List.map_eq_nil_iff.mp hne)
  obtain ⟨c, hc, rfl⟩ := List.mem_map.mp hs
  exact (h c hc).2

theorem ofPart?_texts {cs : List Component} (h : ∀ c ∈ cs, c.Legible) :
    (parts (nameText (cs.map render.text))).filterMap Component.ofPart? = cs := by
  cases cs with
  | nil => rfl
  | cons first rest =>
      rw [parts_texts h (List.cons_ne_nil first rest), List.filterMap_map]
      have hread : ∀ c ∈ first :: rest, (Component.ofPart? ∘ render.text) c = some c := fun c hc => (h c hc).1
      rw [List.filterMap_congr hread, List.filterMap_some]

theorem ne_empty_of_legible {c : Component} (h : c.Legible) : render.text c ≠ "" ∧ render.text c ≠ "." := by
  refine not_or.mp fun hblank => ?_
  have hnone : Component.ofPart? (render.text c) = none := if_pos hblank
  exact nomatch hnone.symm.trans h.1

theorem components_texts {cs : List Component} (h : ∀ c ∈ cs, c.Legible) :
    components (nameText (cs.map render.text)) = cs := by
  have habs : isAbsolute (nameText (cs.map render.text)) = false := by
    refine isAbsolute_nameText (fun s hs => ?_) fun hempty => ?_
    · obtain ⟨c, hc, rfl⟩ := List.mem_map.mp hs
      exact (h c hc).2
    · obtain ⟨c, hc, hempty⟩ := List.mem_map.mp hempty
      exact (ne_empty_of_legible (h c hc)).1 hempty
  have hhere : (parts (nameText (cs.map render.text))).head? ≠ some "." := by
    cases cs with
    | nil => decide
    | cons first rest =>
        rw [parts_texts h (List.cons_ne_nil first rest), List.map_cons, List.head?_cons]
        exact fun he => (ne_empty_of_legible (h first List.mem_cons_self)).2 (Option.some.inj he)
  rw [components_eq, ofPart?_texts h, habs, lead, if_neg Bool.false_ne_true, if_neg hhere, List.nil_append]

theorem components_slash_texts {cs : List Component} (h : ∀ c ∈ cs, c.Legible) :
    components ("/" ++ nameText (cs.map render.text)) = .root :: cs := by
  have htext : "/" ++ nameText (cs.map render.text) =
      .ofList ([] ++ '/' :: (nameText (cs.map render.text)).toList) := by
    rw [← String.toList_inj, String.toList_append]
    simp only [String.toList_ofList]
    rfl
  have habs : isAbsolute ("/" ++ nameText (cs.map render.text)) = true := by
    rw [htext, isAbsolute, String.toList_ofList]
    rfl
  have hsteps : (parts ("/" ++ nameText (cs.map render.text))).filterMap Component.ofPart? = cs := by
    rw [htext, filterMap_parts_slash, String.ofList_toList, ofPart?_texts h]
    rfl
  rw [components_eq, habs, hsteps, lead, if_pos rfl, List.singleton_append]

theorem withoutHere_components (p : String) : withoutHere (components p) =
    (if isAbsolute p then [.root] else []) ++ (parts p).filterMap Component.ofPart? := by
  have hsteps : withoutHere ((parts p).filterMap Component.ofPart?) = (parts p).filterMap Component.ofPart? := by
    cases hcs : (parts p).filterMap Component.ofPart? with
    | nil => rfl
    | cons c cs =>
        have hc : c = .up ∨ ∃ s, c = .name s := step_of_mem_parts (by rw [hcs]; exact List.mem_cons_self)
        rcases hc with rfl | ⟨s, rfl⟩ <;> rfl
  rw [components_eq, lead]
  split
  · rfl
  · split
    · exact hsteps
    · exact hsteps

/-- Writing the components of a path gives a path with the same components. -/
theorem components_render (p : String) :
    components (render (withoutHere (components p))) = withoutHere (components p) := by
  have hlegible : ∀ c ∈ (parts p).filterMap Component.ofPart?, c.Legible := fun c hc => legible_of_mem_parts hc
  have hroot : .root ∉ (parts p).filterMap Component.ofPart? := by
    intro hmem
    rcases step_of_mem_parts hmem with he | ⟨s, he⟩ <;> exact nomatch he
  rw [withoutHere_components]
  generalize (parts p).filterMap Component.ofPart? = cs at hlegible hroot
  split
  · exact components_slash_texts hlegible
  · rw [List.nil_append]
    have hrender : render cs = nameText (cs.map render.text) := by
      unfold render
      split
      · exact absurd List.mem_cons_self hroot
      · rfl
    rw [hrender, components_texts hlegible]

theorem render_withoutHere_inj {p q : String}
    (h : render (withoutHere (components p)) = render (withoutHere (components q))) :
    withoutHere (components p) = withoutHere (components q) := by
  rw [← components_render p, h, components_render]

end LineLimit.Path

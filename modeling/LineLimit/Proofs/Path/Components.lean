import LineLimit.Path
import Mathlib.Data.List.Basic
/-!
Paths that are continued by names. A name is what an entry of a directory can be called. Joining names to a
directory's path adds them to its components and nothing else, however the path is spelled.
-/

namespace LineLimit.Path

/-- What an entry of a directory can be called. -/
structure IsName (s : String) : Prop where
  nonempty : s ≠ ""
  not_here : s ≠ "."
  not_up : s ≠ ".."
  no_slash : '/' ∉ s.toList

def nameText (names : List String) : String := "/".intercalate names

theorem parts_ne_nil (p : String) : parts p ≠ [] := by
  simp only [parts, ne_eq, List.map_eq_nil_iff]
  exact List.splitOn_ne_nil _ _

theorem parts_slash (x y : List Char) :
    parts (.ofList (x ++ '/' :: y)) = parts (.ofList x) ++ parts (.ofList y) := by
  simp only [parts, String.toList_ofList, List.splitOn_append_cons_self, List.map_append]

theorem toList_nameText (names : List String) :
    (nameText names).toList = ['/'].intercalate (names.map String.toList) := by
  rw [nameText, String.toList_intercalate]
  rfl

theorem parts_nameText {names : List String} (h : ∀ s ∈ names, '/' ∉ s.toList) (hne : names ≠ []) :
    parts (nameText names) = names := by
  rw [parts, toList_nameText, List.splitOn_intercalate]
  · rw [List.map_map]
    exact (List.map_congr_left fun s _ => String.ofList_toList).trans (List.map_id names)
  · intro l hl
    obtain ⟨s, hs, rfl⟩ := List.mem_map.mp hl
    exact h s hs
  · exact fun he => hne (List.map_eq_nil_iff.mp he)

theorem filterMap_ofPart?_names {names : List String} (h : ∀ s ∈ names, IsName s) :
    names.filterMap Component.ofPart? = names.map .name := by
  induction names with
  | nil => rfl
  | cons s names ih =>
      have hs := h s (List.mem_cons_self)
      have hpart : Component.ofPart? s = some (.name s) := by
        rw [Component.ofPart?, if_neg (not_or_intro hs.nonempty hs.not_here), if_neg hs.not_up]
      rw [List.filterMap_cons_some hpart, ih fun t ht => h t (List.mem_cons_of_mem s ht), List.map_cons]

/-- The component that a path begins with on account of its first part. -/
def lead (absolute : Bool) (first : Option String) : List Component :=
  if absolute then [.root] else if first = some "." then [.here] else []

theorem components_eq (p : String) :
    components p = lead (isAbsolute p) (parts p).head? ++ (parts p).filterMap Component.ofPart? := rfl

theorem components_append {p q : String} {more : List String} (habs : isAbsolute q = isAbsolute p)
    (hhead : (parts q).head? = (parts p).head?)
    (hparts : (parts q).filterMap Component.ofPart? =
      (parts p).filterMap Component.ofPart? ++ more.map .name) :
    components q = components p ++ more.map .name := by
  rw [components_eq, components_eq, habs, hhead, hparts, List.append_assoc]

theorem isAbsolute_nameText {names : List String} (h : ∀ s ∈ names, '/' ∉ s.toList) (hempty : "" ∉ names) :
    isAbsolute (nameText names) = false := by
  cases names with
  | nil => rfl
  | cons s rest =>
      have hchars : s.toList ≠ [] := by
        intro he
        exact hempty (List.mem_cons.mpr (.inl (String.toList_eq_nil_iff.mp he).symm))
      obtain ⟨c, cs, hc⟩ := List.exists_cons_of_ne_nil hchars
      have hslash : c ≠ '/' := fun he => h s List.mem_cons_self (by rw [hc, he]; exact List.mem_cons_self)
      rw [isAbsolute, toList_nameText, List.map_cons, hc]
      cases rest with
      | nil => simpa using hslash
      | cons t rest => simpa using hslash

theorem components_nameText {names : List String} (h : ∀ s ∈ names, IsName s) (hne : names ≠ []) :
    components (nameText names) = names.map .name := by
  have hfirst : names.head? ≠ some "." := by
    intro he
    exact (h "." (List.mem_of_head? he)).not_here rfl
  have hslash : ∀ s ∈ names, '/' ∉ s.toList := fun s hs => (h s hs).no_slash
  have hempty : "" ∉ names := fun hs => (h "" hs).nonempty rfl
  rw [components_eq, parts_nameText hslash hne, filterMap_ofPart?_names h, isAbsolute_nameText hslash hempty,
    lead, if_neg Bool.false_ne_true, if_neg hfirst, List.nil_append]

theorem isAbsolute_slash (x y : List Char) :
    isAbsolute (.ofList (x ++ '/' :: y)) = isAbsolute (.ofList (x ++ ['/'])) := by
  cases x <;> simp only [isAbsolute, String.toList_ofList, List.nil_append, List.cons_append, List.head?_cons]

theorem head?_parts_slash (x y : List Char) :
    (parts (.ofList (x ++ '/' :: y))).head? = (parts (.ofList x)).head? := by
  obtain ⟨first, rest, h⟩ := List.exists_cons_of_ne_nil (parts_ne_nil (.ofList x))
  rw [parts_slash, h]
  rfl

theorem filterMap_parts_slash (x y : List Char) :
    (parts (.ofList (x ++ '/' :: y))).filterMap Component.ofPart? =
      (parts (.ofList x)).filterMap Component.ofPart? ++ (parts (.ofList y)).filterMap Component.ofPart? := by
  rw [parts_slash, List.filterMap_append]

theorem components_trailing {x : List Char} (hx : x ≠ []) :
    components (.ofList (x ++ ['/'])) = components (.ofList x) := by
  have habs : isAbsolute (.ofList (x ++ ['/'])) = isAbsolute (.ofList x) := by
    obtain ⟨c, cs, rfl⟩ := List.exists_cons_of_ne_nil hx
    simp only [isAbsolute, String.toList_ofList, List.cons_append, List.head?_cons]
  have hparts : (parts (.ofList (x ++ ['/']))).filterMap Component.ofPart? =
      (parts (.ofList x)).filterMap Component.ofPart? ++ ([] : List String).map .name :=
    filterMap_parts_slash x []
  rw [components_append habs (head?_parts_slash x []) hparts, List.map_nil, List.append_nil]

/-- Joining names to the path of a directory adds them to its components. -/
theorem components_join {names : List String} (h : ∀ s ∈ names, IsName s) (hne : names ≠ []) (dir : String) :
    components (join dir (nameText names)) = components dir ++ names.map .name := by
  have hslash : ∀ x : List Char, components (.ofList (x ++ '/' :: (nameText names).toList)) =
      components (.ofList (x ++ ['/'])) ++ names.map .name := by
    intro x
    refine components_append (isAbsolute_slash x _) ?_ ?_
    · rw [head?_parts_slash, head?_parts_slash]
    · rw [filterMap_parts_slash, filterMap_parts_slash, String.ofList_toList,
        parts_nameText (fun s hs => (h s hs).no_slash) hne, filterMap_ofPart?_names h]
      exact congrArg (· ++ _) (List.append_nil _).symm
  by_cases hempty : dir = ""
  · subst hempty
    rw [join, if_pos (.inl rfl), String.empty_append, components_nameText h hne]
    rfl
  have hchars : dir.toList ≠ [] := fun he => hempty (String.toList_eq_nil_iff.mp he)
  by_cases hlast : dir.toList.getLast? = some '/'
  · obtain ⟨x, hx⟩ := List.getLast?_eq_some_iff.mp hlast
    have hdir : dir = .ofList (x ++ ['/']) := by rw [← hx, String.ofList_toList]
    have hjoin : join dir (nameText names) = .ofList (x ++ '/' :: (nameText names).toList) := by
      rw [join, if_pos (.inr hlast), hdir, ← String.toList_inj]
      simp only [String.toList_append, String.toList_ofList, List.append_assoc, List.cons_append, List.nil_append]
    rw [hjoin, hslash, hdir]
  · have hjoin : join dir (nameText names) = .ofList (dir.toList ++ '/' :: (nameText names).toList) := by
      rw [join, if_neg (not_or_intro hempty hlast), ← String.toList_inj]
      simp only [String.toList_append, String.toList_ofList, List.append_assoc]
      rfl
    rw [hjoin, hslash, components_trailing hchars, String.ofList_toList]

theorem strip?_eq_some_iff {base path rest : List Component} :
    strip? base path = some rest ↔ path = base ++ rest := by
  rw [strip?, List.isPrefixOf?_eq_some_iff_append_eq, eq_comm]

theorem components_ne_nil {p : String} (h : p ≠ "") : components p ≠ [] := by
  intro hnil
  obtain ⟨hlead, hparts⟩ := List.append_eq_nil_iff.mp ((components_eq p).symm.trans hnil)
  obtain ⟨c, cs, hc⟩ := List.exists_cons_of_ne_nil (mt String.toList_eq_nil_iff.mp h)
  have hslash : c ≠ '/' := by
    rintro rfl
    rw [lead, isAbsolute, hc] at hlead
    exact nomatch hlead
  obtain ⟨first, rest, hsplit⟩ := List.exists_cons_of_ne_nil (List.splitOn_ne_nil '/' cs)
  have hfirst : parts p = String.ofList (c :: first) :: rest.map String.ofList := by
    rw [parts, hc, List.splitOn_cons_eq_if_modifyHead, if_neg (mt beq_iff_eq.mp hslash), hsplit]
    rfl
  rw [hfirst, List.filterMap_eq_nil_iff] at hparts
  have hnone := hparts _ List.mem_cons_self
  unfold Component.ofPart? at hnone
  split at hnone
  · next hpart =>
      rcases hpart with hempty | hhere
      · exact List.cons_ne_nil c first (String.ofList_eq_empty_iff.mp hempty)
      · unfold lead at hlead
        rw [hfirst, List.head?_cons, hhere, if_pos rfl] at hlead
        split at hlead <;> exact nomatch hlead
  · split at hnone <;> exact nomatch hnone

theorem step_of_mem_parts {p : String} {c : Component} (h : c ∈ (parts p).filterMap Component.ofPart?) :
    c = .up ∨ ∃ s, c = .name s := by
  obtain ⟨s, _, hs⟩ := List.mem_filterMap.mp h
  unfold Component.ofPart? at hs
  split at hs
  · exact nomatch hs
  · split at hs <;> cases hs
    · exact .inl rfl
    · exact .inr ⟨s, rfl⟩

/-- The root and the current directory stand only at the start of a path. -/
theorem step_of_mem_rest {p : String} {base rest : List Component} (h : components p = base ++ rest)
    (hne : base ≠ []) {c : Component} (hc : c ∈ rest) : c = .up ∨ ∃ s, c = .name s := by
  apply step_of_mem_parts (p := p)
  obtain ⟨b, base, rfl⟩ := List.exists_cons_of_ne_nil hne
  have hin : c ∈ base ++ rest := List.mem_append_right base hc
  have hlead : lead (isAbsolute p) (parts p).head? = [] ∨ ∃ d, lead (isAbsolute p) (parts p).head? = [d] := by
    unfold lead
    split
    · exact .inr ⟨_, rfl⟩
    · split
      · exact .inr ⟨_, rfl⟩
      · exact .inl rfl
  rw [components_eq, List.cons_append] at h
  rcases hlead with hnil | ⟨d, hd⟩
  · rw [hnil, List.nil_append] at h
    rw [h]
    exact List.mem_cons_of_mem b hin
  · rw [hd, List.singleton_append] at h
    rw [(List.cons.inj h).2]
    exact hin

theorem exists_names {rest : List Component} (h : ∀ c ∈ rest, c = .up ∨ ∃ s, c = .name s) (hup : .up ∉ rest) :
    ∃ names : List String, rest = names.map .name := by
  induction rest with
  | nil => exact ⟨[], rfl⟩
  | cons c rest ih =>
      obtain ⟨names, rfl⟩ := ih (fun d hd => h d (List.mem_cons_of_mem c hd)) fun hm => hup (List.mem_cons_of_mem c hm)
      rcases h c List.mem_cons_self with rfl | ⟨s, rfl⟩
      · exact absurd List.mem_cons_self hup
      · exact ⟨s :: names, rfl⟩

theorem render_names (names : List String) : render (withoutHere (names.map .name)) = nameText names := by
  have hhere : withoutHere (names.map .name) = names.map .name := by
    cases names <;> rfl
  have htext : (names.map Component.name).map render.text = names := by
    rw [List.map_map]
    exact List.map_id names
  rw [hhere]
  cases names with
  | nil => rfl
  | cons s names => exact congrArg nameText htext

end LineLimit.Path

import LineLimit.Proofs.Discovery.Found
import Mathlib.Data.List.Nodup
/-!
Discovery from several patterns. Every way to a file is due to one of the patterns, so patterns find together what each
of them finds, in ascending order and every path once. It matters which patterns there are, and not in which order or how
often. The first pattern that is no file, no directory and no glob ends the search.
-/

namespace LineLimit.Finder

open LineLimit.Path

variable {f : Finder} {t : FileTree} {patterns ps qs files others : List String} {base : String} {w : Way}

theorem parse_eq_error {p : String} {cause : GlobError} (h : Glob.parse p = .error cause) :
    ∃ fault, cause = ⟨p, fault⟩ := by
  unfold Glob.parse at h
  split at h
  · nomatch h
  · next fault _ =>
      cases h
      exact ⟨fault, rfl⟩

/-- The error of a pattern that is no file, no directory and no glob. -/
structure Rejects (t : FileTree) (p : String) (e : LintError) : Prop where
  not_file : t.isFile p = false
  not_dir : t.isDir p = false
  not_glob : ∃ fault, Glob.parse p = .error ⟨p, fault⟩ ∧ e = .config (.pattern ⟨p, fault⟩)

theorem Rejects.message {p : String} {e : LintError} (h : Rejects t p e) :
    ∃ why : String, e.message = s!"Configuration error: Invalid pattern '{p}': {why}" := by
  obtain ⟨fault, _, rfl⟩ := h.not_glob
  refine ⟨GlobError.message ⟨p, fault⟩, ?_⟩
  change "Configuration error: " ++ ("Invalid pattern '" ++ p ++ "': " ++ GlobError.message ⟨p, fault⟩) = _
  simp only [← String.append_assoc]
  rfl

theorem target_eq_error_iff {p : String} {e : LintError} : Finder.target t p = .error e ↔ Rejects t p e := by
  constructor
  · intro h
    unfold Finder.target at h
    split at h
    · nomatch h
    · next hfile =>
        split at h
        · nomatch h
        · next hdir =>
            split at h
            · nomatch h
            · next cause hglob =>
                cases h
                obtain ⟨fault, rfl⟩ := parse_eq_error hglob
                exact ⟨Bool.eq_false_iff.mpr hfile, Bool.eq_false_iff.mpr hdir, fault, hglob, rfl⟩
  · intro h
    obtain ⟨fault, hglob, rfl⟩ := h.not_glob
    simp [Finder.target, h.not_file, h.not_dir, hglob]

theorem discover_eq_map : f.discover t patterns base =
    (patterns.mapM (Finder.target t)).map fun targets => sortPaths (f.found t base targets) := by
  rw [discover]
  cases patterns.mapM (Finder.target t) <;> rfl

theorem discover_eq_error_iff {e : LintError} : f.discover t patterns base = .error e ↔
    ∃ before p after, patterns = before ++ p :: after ∧ (∀ q ∈ before, ∀ e, ¬ Rejects t q e) ∧ Rejects t p e := by
  have hok : ∀ q, (∃ target, Finder.target t q = .ok target) ↔ ∀ e, ¬ Rejects t q e := by
    intro q
    simp only [← target_eq_error_iff]
    cases Finder.target t q <;> simp
  rw [discover_eq_map, map_eq_error_iff, mapM_eq_error_iff]
  simp only [hok, target_eq_error_iff]

theorem exists_discover_eq_error_iff :
    (∃ e, f.discover t patterns base = .error e) ↔ ∃ p ∈ patterns, ∃ e, Rejects t p e := by
  constructor
  · rintro ⟨e, h⟩
    obtain ⟨before, p, after, rfl, _, hp⟩ := discover_eq_error_iff.mp h
    exact ⟨p, List.mem_append_right before List.mem_cons_self, e, hp⟩
  · rintro ⟨p, hp, e, hrejects⟩
    rcases exists_ok_or_error (f.discover t patterns base) with ⟨files, h⟩ | h
    · rcases exists_discover_iff.mp ⟨files, h⟩ p hp with hfile | hdir | ⟨g, hglob⟩
      · exact absurd hfile (Bool.eq_false_iff.mp hrejects.not_file)
      · exact absurd hdir (Bool.eq_false_iff.mp hrejects.not_dir)
      · obtain ⟨fault, hfault, _⟩ := hrejects.not_glob
        rw [hglob] at hfault
        nomatch hfault
    · exact h

theorem reaches_iff {text : String} :
    Reaches f t patterns base w text ↔ ∃ p ∈ patterns, Reaches f t [p] base w text := by
  constructor
  · intro h
    cases h with
    | file hp hfile => exact ⟨_, hp, .file (List.mem_singleton_self _) hfile⟩
    | below hd hfile hdir hnames hknown =>
        exact ⟨_, hd, .below (List.mem_singleton_self _) hfile hdir hnames hknown⟩
    | glob hp hfile hdir hg hnames hmatch =>
        exact ⟨_, hp, .glob (List.mem_singleton_self _) hfile hdir hg hnames hmatch⟩
  · rintro ⟨p, hp, h⟩
    cases h with
    | file hq hfile => exact .file (List.mem_singleton.mp hq ▸ hp) hfile
    | below hd hfile hdir hnames hknown =>
        exact .below (List.mem_singleton.mp hd ▸ hp) hfile hdir hnames hknown
    | glob hq hfile hdir hg hnames hmatch =>
        exact .glob (List.mem_singleton.mp hq ▸ hp) hfile hdir hg hnames hmatch

theorem takes_iff : Takes f t patterns base w ↔ ∃ p ∈ patterns, Takes f t [p] base w := by
  constructor
  · rintro ⟨text, hreach, hkeep⟩
    obtain ⟨p, hp, hreach⟩ := reaches_iff.mp hreach
    exact ⟨p, hp, text, hreach, hkeep⟩
  · rintro ⟨p, hp, text, hreach, hkeep⟩
    exact ⟨text, reaches_iff.mpr ⟨p, hp, hreach⟩, hkeep⟩

theorem takes_append_iff : Takes f t (ps ++ qs) base w ↔ Takes f t ps base w ∨ Takes f t qs base w := by
  rw [takes_iff, @takes_iff f t ps, @takes_iff f t qs]
  simp only [List.mem_append, or_and_right, exists_or]

theorem takes_congr (h : ∀ p, p ∈ ps ↔ p ∈ qs) : Takes f t ps base w ↔ Takes f t qs base w := by
  rw [takes_iff, @takes_iff f t qs]
  simp only [h]

/-- The paths found are those of the ways that are taken, as far as their components go. -/
theorem mem_components_iff (h : f.discover t patterns base = .ok files) {cs : List Component} :
    cs ∈ files.map components ↔ ∃ w, Takes f t patterns base w ∧ components w.path = cs := by
  obtain ⟨_, hsound, hcomplete⟩ := discover_spec h
  rw [List.mem_map]
  constructor
  · rintro ⟨p, hp, rfl⟩
    obtain ⟨w, hw, rfl⟩ := hsound p hp
    exact ⟨w, hw, rfl⟩
  · rintro ⟨w, hw, rfl⟩
    obtain ⟨p, hp, hcomponents⟩ := hcomplete w hw
    exact ⟨p, hp, hcomponents.symm⟩

/-- Two searches both fail, or both find the same paths. -/
def SameFound : Except LintError (List String) → Except LintError (List String) → Prop
  | .ok files, .ok others => files.map components = others.map components
  | .error _, .error _ => True
  | _, _ => False

theorem map_components_eq_of_takes (h : f.discover t ps base = .ok files) (h' : f.discover t qs base = .ok others)
    (htakes : ∀ w, Takes f t ps base w ↔ Takes f t qs base w) : files.map components = others.map components := by
  obtain ⟨hasc, _⟩ := discover_spec h
  obtain ⟨hasc', _⟩ := discover_spec h'
  refine map_components_eq hasc hasc' fun cs => ?_
  simp only [mem_components_iff h, mem_components_iff h', htakes]

theorem sameFound_of_mem_iff (h : ∀ p, p ∈ ps ↔ p ∈ qs) :
    SameFound (f.discover t ps base) (f.discover t qs base) := by
  have herror : (∃ e, f.discover t ps base = .error e) ↔ ∃ e, f.discover t qs base = .error e := by
    simp only [exists_discover_eq_error_iff, h]
  cases hp : f.discover t ps base with
  | ok files =>
      cases hq : f.discover t qs base with
      | ok others => exact map_components_eq_of_takes hp hq fun w => takes_congr h
      | error e =>
          obtain ⟨e', he'⟩ := herror.mpr ⟨e, hq⟩
          rw [hp] at he'
          nomatch he'
  | error e =>
      cases hq : f.discover t qs base with
      | ok others =>
          obtain ⟨e', he'⟩ := herror.mp ⟨e, hp⟩
          rw [hq] at he'
          nomatch he'
      | error e' => trivial

theorem discover_append (h : f.discover t ps base = .ok files) (h' : f.discover t qs base = .ok others) :
    ∃ all, f.discover t (ps ++ qs) base = .ok all ∧
      ∀ cs, cs ∈ all.map components ↔ cs ∈ files.map components ∨ cs ∈ others.map components := by
  have hall : ∃ all, f.discover t (ps ++ qs) base = .ok all := by
    rw [exists_discover_iff, List.forall_mem_append, ← exists_discover_iff, ← exists_discover_iff]
    exact ⟨⟨files, h⟩, others, h'⟩
  obtain ⟨all, hall⟩ := hall
  refine ⟨all, hall, fun cs => ?_⟩
  simp only [mem_components_iff h, mem_components_iff h', mem_components_iff hall, takes_append_iff, or_and_right,
    exists_or]

/-- Discovery ends at the first pattern that is rejected, and the error names it. Otherwise paths are found in strictly
ascending order, patterns find together what they find apart, and neither their order nor their number counts. -/
theorem discover_union (f : Finder) (t : FileTree) (base : String) :
    (∀ patterns, (∃ e, f.discover t patterns base = .error e) ↔ ∃ p ∈ patterns, ∃ e, Rejects t p e) ∧
    (∀ patterns e, f.discover t patterns base = .error e ↔
      ∃ before p after, patterns = before ++ p :: after ∧ (∀ q ∈ before, ∀ e, ¬ Rejects t q e) ∧ Rejects t p e) ∧
    (∀ p e, Rejects t p e → ∃ why : String, e.message = s!"Configuration error: Invalid pattern '{p}': {why}") ∧
    (∀ patterns files, f.discover t patterns base = .ok files → files.Pairwise Precedes) ∧
    (∀ ps qs files others, f.discover t ps base = .ok files → f.discover t qs base = .ok others →
      ∃ all, f.discover t (ps ++ qs) base = .ok all ∧
        ∀ cs, cs ∈ all.map components ↔ cs ∈ files.map components ∨ cs ∈ others.map components) ∧
    ∀ ps qs, (∀ p, p ∈ ps ↔ p ∈ qs) → SameFound (f.discover t ps base) (f.discover t qs base) := by
  refine ⟨?_, ?_, ?_, ?_, ?_, ?_⟩
  · intro patterns
    exact exists_discover_eq_error_iff
  · intro patterns e
    exact discover_eq_error_iff
  · intro p e h
    exact h.message
  · intro patterns files h
    exact (discover_spec h).1
  · intro ps qs files others h h'
    exact discover_append h h'
  · intro ps qs h
    exact sameFound_of_mem_iff h

end LineLimit.Finder

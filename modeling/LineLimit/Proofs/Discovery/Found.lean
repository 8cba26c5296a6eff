import LineLimit.Proofs.Path.Resolve
import LineLimit.Proofs.Path.Order
/-!
What discovery finds. Every file is reached from a root, which is a pattern or the base directory, by the names
that lead on from there. A pattern that is a file is its own root. The filter sees a text that depends on the kind
of pattern, and what it leaves is found, once for each list of components.
-/

namespace LineLimit.Finder

open LineLimit.Path

/-- A root of a search and the names that lead from it to a file. -/
structure Way where
  root : String
  names : Place

namespace Way

def path (w : Way) : String := if w.names.isEmpty then w.root else Path.join w.root (nameText w.names)

def trail (w : Way) : List Component := components w.root ++ w.names.map .name

def place (t : FileTree) (w : Way) : Place := t.resolve w.root ++ w.names

theorem place_file (t : FileTree) (p : String) : place t ⟨p, []⟩ = t.resolve p := List.append_nil _

theorem components_path {w : Way} (h : ∀ s ∈ w.names, IsName s) : components w.path = w.trail := by
  unfold path trail
  by_cases hempty : w.names = []
  · rw [hempty]
    exact (List.append_nil _).symm
  · rw [if_neg (mt List.isEmpty_iff.mp hempty)]
    exact components_join h hempty w.root

theorem resolve_path {t : FileTree} {w : Way} (h : ∀ s ∈ w.names, IsName s) :
    t.resolve w.path = w.place t := by
  unfold FileTree.resolve place
  exact resolve_of_components (components_path h)

end Way

/-- The ways that patterns lead to files, each with the text that the filter sees. -/
inductive Reaches (f : Finder) (t : FileTree) (patterns : List String) (base : String) : Way → String → Prop
  | file {p : String} (hp : p ∈ patterns) (hfile : t.isFile p = true) :
      Reaches f t patterns base ⟨p, []⟩ (relativeToBase t p base)
  | below {d : String} {names : Place} (hd : d ∈ patterns) (hfile : t.isFile d = false)
      (hdir : t.isDir d = true) (hnames : names ∈ t.filesBelow d) (hknown : f.knowsExtension names = true) :
      Reaches f t patterns base ⟨d, names⟩ (nameText names)
  | glob {p : String} {g : Glob} {names : Place} (hp : p ∈ patterns) (hfile : t.isFile p = false)
      (hdir : t.isDir p = false) (hg : Glob.parse p = .ok g) (hnames : names ∈ t.filesBelow base)
      (hmatch : g.isMatch (nameText names) = true) : Reaches f t patterns base ⟨base, names⟩ (nameText names)

/-- A way is taken when the filter leaves what it leads to. -/
def Takes (f : Finder) (t : FileTree) (patterns : List String) (base : String) (w : Way) : Prop :=
  ∃ text, Reaches f t patterns base w text ∧ f.ignores text = false

variable {f : Finder} {t : FileTree} {patterns files : List String} {base : String} {w : Way}

theorem Reaches.isName {text : String} (ht : t.root.Plain) (h : Reaches f t patterns base w text) :
    ∀ s ∈ w.names, IsName s := by
  cases h with
  | file => exact fun s hs => nomatch hs
  | below _ _ _ hnames _ => exact FileTree.isName_of_mem_filesBelow ht hnames
  | glob _ _ _ _ hnames _ => exact FileTree.isName_of_mem_filesBelow ht hnames

theorem Takes.components_path (ht : t.root.Plain) (h : Takes f t patterns base w) :
    components w.path = w.trail := by
  obtain ⟨text, hreach, _⟩ := h
  exact Way.components_path (hreach.isName ht)

theorem Takes.resolve_path (ht : t.root.Plain) (h : Takes f t patterns base w) :
    t.resolve w.path = w.place t := by
  obtain ⟨text, hreach, _⟩ := h
  exact Way.resolve_path (hreach.isName ht)

theorem target_eq_ok_iff {p : String} {target : Target} : Finder.target t p = .ok target ↔
    (t.isFile p = true ∧ .file p = target) ∨
    (t.isFile p = false ∧ t.isDir p = true ∧ .dir p = target) ∨
    (t.isFile p = false ∧ t.isDir p = false ∧ ∃ g, Glob.parse p = .ok g ∧ .glob g = target) := by
  unfold Finder.target
  cases hfile : t.isFile p with
  | true => simp
  | false =>
      cases hdir : t.isDir p with
      | true => simp
      | false => cases hg : Glob.parse p <;> simp

theorem mem_walk_iff {dir p : String} {accepts : Place → String → Bool} :
    p ∈ f.walk t dir accepts ↔ ∃ names ∈ t.filesBelow dir, accepts names (nameText names) = true ∧
      f.ignores (nameText names) = false ∧ p = Way.path ⟨dir, names⟩ := by
  unfold walk
  rw [List.mem_filterMap]
  refine exists_congr fun names => and_congr_right fun _ => ?_
  change (if (accepts names (nameText names) && !f.ignores (nameText names)) = true then
    some (Way.path ⟨dir, names⟩) else none) = some p ↔ _
  rw [Option.ite_none_right_eq_some, Bool.and_eq_true, Bool.not_eq_true', Option.some.injEq, and_assoc,
    eq_comm (a := p)]

theorem target_of_isDir {d : String} (h : t.isDir d = true) : Finder.target t d = .ok (.dir d) :=
  target_eq_ok_iff.mpr (.inr (.inl ⟨FileTree.isFile_eq_false_of_isDir h, h, rfl⟩))

theorem target_of_isFile {p : String} (h : t.isFile p = true) : Finder.target t p = .ok (.file p) :=
  target_eq_ok_iff.mpr (.inl ⟨h, rfl⟩)

theorem mem_filesOf_iff {target : Target} {p : String} : p ∈ f.filesOf t base target ↔
    (target = .file p ∧ f.ignores (relativeToBase t p base) = false) ∨
    ∃ d, target = .dir d ∧ ∃ names ∈ t.filesBelow d, f.knowsExtension names = true ∧
      f.ignores (nameText names) = false ∧ p = Way.path ⟨d, names⟩ := by
  cases target with
  | file q =>
      have hq : p ∈ f.filesOf t base (.file q) ↔ f.ignores (relativeToBase t q base) = false ∧ p = q := by
        cases hkeep : f.ignores (relativeToBase t q base) <;> simp [filesOf, hkeep]
      rw [hq]
      constructor
      · rintro ⟨hkeep, rfl⟩
        exact .inl ⟨rfl, hkeep⟩
      · rintro (⟨heq, hkeep⟩ | ⟨d, heq, _⟩)
        · cases heq
          exact ⟨hkeep, rfl⟩
        · exact nomatch heq
  | dir d => simp [filesOf, mem_walk_iff]
  | glob g => simp [filesOf]

theorem mem_globs_iff {targets : List Target} (h : patterns.mapM (Finder.target t) = .ok targets) {g : Glob} :
    g ∈ targets.filterMap globOf? ↔
      ∃ p ∈ patterns, t.isFile p = false ∧ t.isDir p = false ∧ Glob.parse p = .ok g := by
  rw [List.mem_filterMap]
  constructor
  · rintro ⟨target, htarget, hg⟩
    obtain ⟨p, hp, htarget⟩ := (mem_mapM_iff h target).mp htarget
    rcases target_eq_ok_iff.mp htarget with ⟨_, rfl⟩ | ⟨_, _, rfl⟩ | ⟨hfile, hdir, g', hparse, rfl⟩
    · exact nomatch hg
    · exact nomatch hg
    · cases hg
      exact ⟨p, hp, hfile, hdir, hparse⟩
  · rintro ⟨p, hp, hfile, hdir, hparse⟩
    have htarget : Finder.target t p = .ok (.glob g) :=
      target_eq_ok_iff.mpr (.inr (.inr ⟨hfile, hdir, g, hparse, rfl⟩))
    exact ⟨.glob g, (mem_mapM_iff h _).mpr ⟨p, hp, htarget⟩, rfl⟩

def found (f : Finder) (t : FileTree) (base : String) (targets : List Target) : List String :=
  let gs := targets.filterMap globOf?
  targets.flatMap (f.filesOf t base) ++
    if gs.isEmpty then [] else f.walk t base fun _ relative => Glob.anyMatch gs relative

theorem mem_found_iff {targets : List Target} (h : patterns.mapM (Finder.target t) = .ok targets) {p : String} :
    p ∈ f.found t base targets ↔ ∃ w, Takes f t patterns base w ∧ p = w.path := by
  rw [found, List.mem_append, List.mem_flatMap]
  constructor
  · rintro (⟨target, htarget, hp⟩ | hp)
    · obtain ⟨q, hq, htarget⟩ := (mem_mapM_iff h target).mp htarget
      rcases target_eq_ok_iff.mp htarget with ⟨hfile, rfl⟩ | ⟨hfile, hdir, rfl⟩ | ⟨_, _, g, _, rfl⟩
      · rcases mem_filesOf_iff.mp hp with ⟨heq, hkeep⟩ | ⟨_, heq, _⟩ <;> cases heq
        exact ⟨⟨p, []⟩, ⟨_, .file hq hfile, hkeep⟩, rfl⟩
      · rcases mem_filesOf_iff.mp hp with ⟨heq, _⟩ | ⟨_, heq, names, hnames, hknown, hkeep, rfl⟩ <;> cases heq
        exact ⟨⟨q, names⟩, ⟨_, .below hq hfile hdir hnames hknown, hkeep⟩, rfl⟩
      · exact nomatch hp
    · split at hp
      · exact nomatch hp
      · obtain ⟨names, hnames, hmatch, hkeep, rfl⟩ := mem_walk_iff.mp hp
        obtain ⟨g, hg, hmatch⟩ := List.any_eq_true.mp hmatch
        obtain ⟨q, hq, hfile, hdir, hparse⟩ := (mem_globs_iff h).mp hg
        exact ⟨⟨base, names⟩, ⟨_, .glob hq hfile hdir hparse hnames hmatch, hkeep⟩, rfl⟩
  · rintro ⟨w, ⟨text, hreach, hkeep⟩, rfl⟩
    cases hreach with
    | @file q hq hfile =>
        have htarget : Target.file q ∈ targets := (mem_mapM_iff h _).mpr ⟨q, hq, target_of_isFile hfile⟩
        exact .inl ⟨_, htarget, mem_filesOf_iff.mpr (.inl ⟨rfl, hkeep⟩)⟩
    | @below d names hd hfile hdir hnames hknown =>
        have htarget : Target.dir d ∈ targets := (mem_mapM_iff h _).mpr ⟨d, hd, target_of_isDir hdir⟩
        exact .inl ⟨_, htarget, mem_filesOf_iff.mpr (.inr ⟨d, rfl, names, hnames, hknown, hkeep, rfl⟩)⟩
    | @glob q g names hq hfile hdir hparse hnames hmatch =>
        have hg : g ∈ targets.filterMap globOf? := (mem_globs_iff h).mpr ⟨q, hq, hfile, hdir, hparse⟩
        right
        rw [if_neg fun hempty => List.ne_nil_of_mem hg (List.isEmpty_iff.mp hempty)]
        exact mem_walk_iff.mpr ⟨names, hnames, List.any_eq_true.mpr ⟨g, hg, hmatch⟩, hkeep, rfl⟩

theorem exists_target_iff {p : String} : (∃ target, Finder.target t p = .ok target) ↔
    t.isFile p = true ∨ t.isDir p = true ∨ ∃ g, Glob.parse p = .ok g := by
  unfold Finder.target
  cases t.isFile p with
  | true => simp
  | false =>
      cases t.isDir p with
      | true => simp
      | false => cases Glob.parse p <;> simp

/-- Discovery fails only at a pattern that is neither a file nor a directory and no glob. -/
theorem exists_discover_iff : (∃ files, f.discover t patterns base = .ok files) ↔
    ∀ p ∈ patterns, t.isFile p = true ∨ t.isDir p = true ∨ ∃ g, Glob.parse p = .ok g := by
  have htargets : (∃ targets, patterns.mapM (Finder.target t) = .ok targets) ↔
      ∀ p ∈ patterns, t.isFile p = true ∨ t.isDir p = true ∨ ∃ g, Glob.parse p = .ok g := by
    simp only [exists_mapM_eq_ok_iff, exists_target_iff]
  rw [← htargets]
  constructor
  · rintro ⟨files, h⟩
    obtain ⟨targets, htargets, _⟩ := of_bind_eq_ok h
    exact ⟨targets, htargets⟩
  · rintro ⟨targets, htargets⟩
    rw [discover, htargets]
    exact ⟨_, rfl⟩

/-- Discovery gives the paths of the ways that are taken, in strictly ascending order. -/
theorem discover_spec (h : f.discover t patterns base = .ok files) :
    files.Pairwise Precedes ∧ (∀ p ∈ files, ∃ w, Takes f t patterns base w ∧ p = w.path) ∧
    ∀ w, Takes f t patterns base w → ∃ p ∈ files, components w.path = components p := by
  obtain ⟨targets, htargets, h⟩ := of_bind_eq_ok h
  cases h
  have hfound : ∀ p, p ∈ f.found t base targets ↔ ∃ w, Takes f t patterns base w ∧ p = w.path :=
    fun _ => mem_found_iff htargets
  refine ⟨pairwise_sortPaths _, fun p hp => (hfound p).mp (mem_of_mem_sortPaths hp), fun w hw => ?_⟩
  exact exists_mem_sortPaths ((hfound w.path).mpr ⟨w, hw, rfl⟩)

/-- What holds of the places of all files found holds of the places that ways which are taken lead to. -/
theorem forall_found_iff (ht : t.root.Plain) (h : f.discover t patterns base = .ok files) {P : Place → Prop} :
    (∀ p ∈ files, P (t.resolve p)) ↔ ∀ w, Takes f t patterns base w → P (w.place t) := by
  obtain ⟨_, hsound, hcomplete⟩ := discover_spec h
  constructor
  · intro hall w hw
    obtain ⟨p, hp, hcomponents⟩ := hcomplete w hw
    have hresolve : w.place t = t.resolve p := by
      rw [← hw.resolve_path ht]
      exact resolve_congr hcomponents
    rw [hresolve]
    exact hall p hp
  · intro hall p hp
    obtain ⟨w, hw, rfl⟩ := hsound p hp
    rw [hw.resolve_path ht]
    exact hall w hw

theorem discover_target {p : String} {target : Target} (h : Finder.target t p = .ok target)
    (hglob : globOf? target = none) : f.discover t [p] base = .ok (sortPaths (f.filesOf t base target)) := by
  have htargets : [p].mapM (Finder.target t) = .ok [target] := by
    rw [List.mapM_cons, h]
    rfl
  have hfound : f.found t base [target] = f.filesOf t base target := by
    simp [found, hglob]
  rw [discover, htargets, ← hfound]
  rfl

theorem discover_dir {d p : String} (hdir : t.isDir d = true)
    (hwalk : (f.walk t d fun names _ => f.knowsExtension names) = [p]) : f.discover t [d] base = .ok [p] := by
  have hsorted : sortPaths [p] = [p] := sortPaths_of_pairwise (List.pairwise_singleton _ p)
  rw [discover_target (target_of_isDir hdir) rfl, filesOf, hwalk, hsorted]

theorem discover_file {p : String} (hfile : t.isFile p = true) :
    f.discover t [p] base = .ok (if f.ignores (relativeToBase t p base) then [] else [p]) := by
  rw [discover_target (target_of_isFile hfile) rfl, filesOf]
  split
  · rw [sortPaths_of_pairwise List.Pairwise.nil]
    rfl
  · rw [sortPaths_of_pairwise (List.pairwise_singleton _ p)]
    rfl

end LineLimit.Finder

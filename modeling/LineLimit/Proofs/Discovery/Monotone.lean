import LineLimit.Proofs.Discovery.Filter
import LineLimit.Proofs.Discovery.Union
/-!
Filters that are compared. The filter has no part in which ways patterns open to files, nor in which texts it is asked
about, so what holds of its answers holds of what is found: with more excluding globs fewer paths, with more including globs
more paths, and never one that is excluded wherever it is met.
-/

namespace LineLimit.Finder

open LineLimit.Path

variable {included more excluded others extensions patterns : List String} {a b : Finder} {t : FileTree} {base : String}

/-- What one search finds the other one finds too, and they fail alike. -/
def Within : Except LintError (List String) → Except LintError (List String) → Prop
  | .ok files, .ok found => ∀ cs ∈ files.map components, cs ∈ found.map components
  | .error e, .error e' => e = e'
  | _, _ => False

theorem Kept.of_fewer_excluded {text : String} (hsub : ∀ s ∈ excluded, s ∈ others) (h : Kept included others text) :
    Kept included excluded text := by
  refine ⟨?_, h.2⟩
  intro s hs
  exact h.1 s (hsub s hs)

theorem Kept.of_more_included {text : String} (hne : included ≠ []) (hsub : ∀ s ∈ included, s ∈ more)
    (h : Kept included excluded text) : Kept more excluded text := by
  refine ⟨h.1, ?_⟩
  intro _
  obtain ⟨s, hs, hmatch⟩ := h.2 hne
  exact ⟨s, hsub s hs, hmatch⟩

theorem extensions_of_make (h : make included excluded extensions = .ok a) : a.extensions = extensions := by
  obtain ⟨_, _, h⟩ := of_bind_eq_ok h
  obtain ⟨_, _, h⟩ := of_bind_eq_ok h
  cases h
  rfl

theorem Reaches.of_extensions {w : Way} {text : String} (h : a.extensions = b.extensions)
    (hreach : Reaches a t patterns base w text) : Reaches b t patterns base w text := by
  cases hreach with
  | file hp hfile => exact .file hp hfile
  | below hd hfile hdir hnames hknown =>
      rw [knowsExtension, h] at hknown
      exact .below hd hfile hdir hnames hknown
  | glob hp hfile hdir hg hnames hmatch => exact .glob hp hfile hdir hg hnames hmatch

/-- A filter that keeps more finds more. -/
theorem within_of_kept (ha : make included excluded extensions = .ok a) (hb : make more others extensions = .ok b)
    (h : ∀ text, Kept included excluded text → Kept more others text) :
    Within (a.discover t patterns base) (b.discover t patterns base) := by
  have hextensions : a.extensions = b.extensions := (extensions_of_make ha).trans (extensions_of_make hb).symm
  cases hfiles : a.discover t patterns base with
  | error e =>
      have hfail : b.discover t patterns base = .error e := discover_eq_error_iff.mpr (discover_eq_error_iff.mp hfiles)
      rw [hfail]
      rfl
  | ok files =>
      obtain ⟨found, hfound⟩ := (exists_discover_iff (f := b)).mpr (exists_discover_iff.mp ⟨files, hfiles⟩)
      rw [hfound]
      intro cs hcs
      obtain ⟨w, ⟨text, hreach, hkeep⟩, hw⟩ := (mem_components_iff hfiles).mp hcs
      have hkept : Kept more others text := h text ((ignores_eq_false_iff ha).mp hkeep)
      have htakes : Takes b t patterns base w :=
        ⟨text, hreach.of_extensions hextensions, (ignores_eq_false_iff hb).mpr hkept⟩
      exact (mem_components_iff hfound).mpr ⟨w, htakes, hw⟩

/-- A path that the filter excludes on every way to it is not found. -/
theorem not_mem_of_excluded {files : List String} {cs : List Component} (hb : make more others extensions = .ok b)
    (hexcluded : ∀ w text, Reaches b t patterns base w text → components w.path = cs →
      ∃ s ∈ others, ∃ g, Glob.parse s = .ok g ∧ g.isMatch text = true)
    (h : b.discover t patterns base = .ok files) : cs ∉ files.map components := by
  intro hcs
  obtain ⟨w, ⟨text, hreach, hkeep⟩, hw⟩ := (mem_components_iff h).mp hcs
  obtain ⟨s, hs, g, hglob, hmatch⟩ := hexcluded w text hreach hw
  have hmiss : g.isMatch text = false := ((ignores_eq_false_iff hb).mp hkeep).1 s hs g hglob
  rw [hmatch] at hmiss
  nomatch hmiss

/-- With more excluding globs nothing more is found, with more including globs nothing less, and no including globs bring
back a path that is excluded on every way to it. -/
theorem discover_monotone (ha : make included excluded extensions = .ok a)
    (hb : make more others extensions = .ok b) :
    (more = included → (∀ s ∈ excluded, s ∈ others) →
      Within (b.discover t patterns base) (a.discover t patterns base)) ∧
    (others = excluded → included ≠ [] → (∀ s ∈ included, s ∈ more) →
      Within (a.discover t patterns base) (b.discover t patterns base)) ∧
    (others = excluded → ∀ p files, b.discover t patterns base = .ok files →
      (∀ w text, Reaches a t patterns base w text → components w.path = components p →
        ∃ s ∈ excluded, ∃ g, Glob.parse s = .ok g ∧ g.isMatch text = true) →
      components p ∉ files.map components) := by
  refine ⟨?_, ?_, ?_⟩
  · rintro rfl hsub
    exact within_of_kept hb ha fun _ hkept => hkept.of_fewer_excluded hsub
  · rintro rfl hne hsub
    exact within_of_kept ha hb fun _ hkept => hkept.of_more_included hne hsub
  · rintro rfl p files h hexcluded
    have hextensions : b.extensions = a.extensions := (extensions_of_make hb).trans (extensions_of_make ha).symm
    exact not_mem_of_excluded hb (fun w text hreach => hexcluded w text (hreach.of_extensions hextensions)) h

/-- The filter that takes the first document by its name. -/
def firstOnly : Finder where
  included := some [⟨"b.md", [.literal 'b', .literal '.', .literal 'm', .literal 'd']⟩]
  excluded := withoutDocs.excluded
  extensions := ["md"]

/-- The filter that takes everything next to it. -/
def everything : Finder := { firstOnly with included := firstOnly.included.map (· ++ [⟨"*", [.many]⟩]) }

/-- The other document is excluded by the only way to it, so it stays out when everything is included. -/
theorem discover_monotone_everything :
    make ["b.md"] ["docs/*"] ["md"] = .ok firstOnly ∧ make ["b.md", "*"] ["docs/*"] ["md"] = .ok everything ∧
    firstOnly.discover twoDocuments ["."] "." = .ok ["./b.md"] ∧
    Within (firstOnly.discover twoDocuments ["."] ".") (everything.discover twoDocuments ["."] ".") ∧
    ∀ files, everything.discover twoDocuments ["."] "." = .ok files →
      components "./docs/a.md" ∉ files.map components := by
  have hbelow : twoDocuments.filesBelow "." = [["b.md"], ["docs", "a.md"]] :=
    FileTree.filesBelow_of_locate (locate_here_twoDocuments false) rfl
  have hfound : firstOnly.discover twoDocuments ["."] "." = .ok ["./b.md"] :=
    discover_dir isDir_twoDocuments (by rw [walk, hbelow]; decide +kernel)
  have hfirst : make ["b.md"] ["docs/*"] ["md"] = .ok firstOnly := rfl
  have hall : make ["b.md", "*"] ["docs/*"] ["md"] = .ok everything := rfl
  obtain ⟨_, hwithin, hout⟩ := discover_monotone hfirst hall
  refine ⟨hfirst, hall, hfound, hwithin rfl (List.cons_ne_nil _ _) (by simp), ?_⟩
  intro files h
  refine hout rfl "./docs/a.md" files h ?_
  intro w text hreach hw
  refine ⟨"docs/*", List.mem_singleton_self _, _, rfl, ?_⟩
  cases hreach with
  | file hp hfile =>
      rw [List.mem_singleton.mp hp, FileTree.isFile_eq_false_of_isDir isDir_twoDocuments] at hfile
      exact absurd hfile Bool.false_ne_true
  | below hd _ _ hnames _ =>
      cases List.mem_singleton.mp hd
      rw [hbelow] at hnames
      rcases List.mem_pair.mp hnames with rfl | rfl
      · exact absurd hw (by decide +kernel)
      · decide +kernel
  | glob hp _ hdir _ _ _ =>
      rw [List.mem_singleton.mp hp, isDir_twoDocuments] at hdir
      exact absurd hdir.symm Bool.false_ne_true

end LineLimit.Finder

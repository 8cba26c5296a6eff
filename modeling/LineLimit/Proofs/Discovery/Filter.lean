import LineLimit.Proofs.Discovery.Found
/-!
What the filter of a configuration does to the files that are found. The filter is about names from the base
directory. A glob and the path of a file are held against it as it says; a directory is searched with the names from
that directory, and a path that goes up again after the base directory is held against it as it is spelled.
-/

namespace LineLimit.Finder

open LineLimit.Path

/-- No excluding glob matches a text, and one of the including globs does if there are any. -/
def Kept (included excluded : List String) (text : String) : Prop :=
  (∀ s ∈ excluded, ∀ g, Glob.parse s = .ok g → g.isMatch text = false) ∧
  (included ≠ [] → ∃ s ∈ included, ∃ g, Glob.parse s = .ok g ∧ g.isMatch text = true)

/-- A file passes the filter by its names from the base directory, if it is below it. -/
def KeptBelow (included excluded : List String) (t : FileTree) (base : String) (place : Place) : Prop :=
  ∀ names, place = t.resolve base ++ names → Kept included excluded (nameText names)

variable {included excluded extensions patterns files : List String} {f : Finder} {t : FileTree} {base : String}

theorem globs_eq_ok {texts : List String} {gs : Option (List Glob)} (h : globs texts = .ok gs) :
    (texts = [] ∧ gs = none) ∨ texts ≠ [] ∧ ∃ l, gs = some l ∧ texts.mapM Glob.parse = .ok l := by
  unfold globs at h
  split at h
  · next hempty =>
      cases h
      exact .inl ⟨List.isEmpty_iff.mp hempty, rfl⟩
  · next hempty =>
      have hparsed := of_mapError_eq_ok h
      cases hl : Glob.parseAll texts with
      | error e =>
          rw [hl] at hparsed
          exact nomatch hparsed
      | ok l =>
          rw [hl] at hparsed
          cases hparsed
          exact .inr ⟨mt List.isEmpty_iff.mpr hempty, l, rfl, hl⟩

theorem exists_globs_iff {texts : List String} :
    (∃ gs, globs texts = .ok gs) ↔ ∀ s ∈ texts, ∃ g, Glob.parse s = .ok g := by
  unfold globs
  split
  · next hempty =>
      rw [List.isEmpty_iff.mp hempty]
      exact iff_of_true ⟨none, rfl⟩ fun s hs => nomatch hs
  · simp only [mapError_eq_ok_iff]
    rw [← exists_mapM_eq_ok_iff, ← Glob.parseAll]
    cases Glob.parseAll texts with
    | ok l => exact iff_of_true ⟨some l, rfl⟩ ⟨l, rfl⟩
    | error e => exact iff_of_false nofun nofun

theorem exists_make_iff : (∃ f, make included excluded extensions = .ok f) ↔
    (∀ s ∈ included, ∃ g, Glob.parse s = .ok g) ∧ ∀ s ∈ excluded, ∃ g, Glob.parse s = .ok g := by
  rw [← exists_globs_iff, ← exists_globs_iff]
  constructor
  · rintro ⟨f, h⟩
    obtain ⟨gsIn, hin, h⟩ := of_bind_eq_ok h
    obtain ⟨gsOut, hout, _⟩ := of_bind_eq_ok h
    exact ⟨⟨gsIn, hin⟩, gsOut, hout⟩
  · rintro ⟨⟨gsIn, hin⟩, gsOut, hout⟩
    exact ⟨⟨gsIn, gsOut, extensions⟩, by simp [make, hin, hout, bind, Except.bind, pure, Except.pure]⟩

theorem anyMatch_iff {texts : List String} {gs : List Glob} (h : texts.mapM Glob.parse = .ok gs) {text : String} :
    Glob.anyMatch gs text = true ↔ ∃ s ∈ texts, ∃ g, Glob.parse s = .ok g ∧ g.isMatch text = true := by
  rw [Glob.anyMatch, List.any_eq_true]
  constructor
  · rintro ⟨g, hg, hmatch⟩
    obtain ⟨s, hs, hparse⟩ := (mem_mapM_iff h g).mp hg
    exact ⟨s, hs, g, hparse, hmatch⟩
  · rintro ⟨s, hs, g, hparse, hmatch⟩
    exact ⟨g, (mem_mapM_iff h g).mpr ⟨s, hs, hparse⟩, hmatch⟩

/-- A filter leaves exactly what its globs say. -/
theorem ignores_eq_false_iff (h : make included excluded extensions = .ok f) {text : String} :
    f.ignores text = false ↔ Kept included excluded text := by
  obtain ⟨gsIn, hin, h⟩ := of_bind_eq_ok h
  obtain ⟨gsOut, hout, h⟩ := of_bind_eq_ok h
  cases h
  have hexcluded : ((gsOut.map (Glob.anyMatch · text)).getD false = false) ↔
      ∀ s ∈ excluded, ∀ g, Glob.parse s = .ok g → g.isMatch text = false := by
    rcases globs_eq_ok hout with ⟨rfl, rfl⟩ | ⟨_, l, rfl, hl⟩
    · exact iff_of_true rfl fun s hs => nomatch hs
    · rw [Option.map_some, Option.getD_some, ← Bool.not_eq_true, anyMatch_iff hl]
      simp
  have hincluded : ((gsIn.map (!Glob.anyMatch · text)).getD false = false) ↔
      (included ≠ [] → ∃ s ∈ included, ∃ g, Glob.parse s = .ok g ∧ g.isMatch text = true) := by
    rcases globs_eq_ok hin with ⟨rfl, rfl⟩ | ⟨hne, l, rfl, hl⟩
    · exact ⟨fun _ hne => absurd rfl hne, fun _ => rfl⟩
    · rw [Option.map_some, Option.getD_some, Bool.not_eq_false', anyMatch_iff hl]
      exact ⟨fun hmatch _ => hmatch, fun hmatch => hmatch hne⟩
  rw [Kept, ← hexcluded, ← hincluded, ignores]
  split
  · next hignored => simp [hignored]
  · next hignored => simp [hignored]

theorem relativeToBase_of_strip {p : String} {rest : List Component}
    (h : strip? (components base) (components p) = some rest) :
    relativeToBase t p base = render (withoutHere rest) := by
  simp only [relativeToBase, h]

theorem relativeToBase_of_canonical {p : String} {rest ofFile ofBase : List Component}
    (hstrip : strip? (components base) (components p) = none) (hfile : t.canonical? p = some ofFile)
    (hbase : t.canonical? base = some ofBase) (h : strip? ofBase ofFile = some rest) :
    relativeToBase t p base = render (withoutHere rest) := by
  simp only [relativeToBase, hstrip, hfile, hbase, h, Option.getD_some]

/-- The text that the filter sees for a path that does not go up after the base directory. -/
theorem relativeToBase_eq (ht : t.root.Plain) {p : String} {names : Place} (hfile : t.isFile p = true)
    (hbase : t.isDir base = true) (hplace : t.resolve p = t.resolve base ++ names)
    (hup : ∀ rest, strip? (components base) (components p) = some rest → .up ∉ rest) :
    relativeToBase t p base = nameText names := by
  obtain ⟨foundFile, hfindFile⟩ := FileTree.exists_find (.inl hfile)
  obtain ⟨foundBase, hfindBase⟩ := FileTree.exists_find (.inr hbase)
  cases hstrip : strip? (components base) (components p) with
  | some rest =>
      have hrest : components p = components base ++ rest := strip?_eq_some_iff.mp hstrip
      have hne : components base ≠ [] := components_ne_nil (FileTree.ne_empty_of_find hfindBase)
      obtain ⟨names', rfl⟩ := exists_names (fun c hc => step_of_mem_rest hrest hne hc) (hup rest hstrip)
      have hplace' : t.resolve p = t.resolve base ++ names' := resolve_of_components hrest
      have hnames : names' = names := List.append_cancel_left (hplace'.symm.trans hplace)
      rw [relativeToBase_of_strip hstrip, hnames, render_names]
  | none =>
      have hcanonical : strip? (.root :: (t.resolve base).map .name) (.root :: (t.resolve p).map .name) =
          some (names.map .name) := by
        rw [strip?_eq_some_iff, hplace, List.map_append, List.cons_append]
      rw [relativeToBase_of_canonical hstrip (FileTree.canonical?_eq ht hfindFile)
        (FileTree.canonical?_eq ht hfindBase) hcanonical, render_names]

theorem keptBelow_glob (hf : make included excluded extensions = .ok f) {names : Place}
    (hkeep : f.ignores (nameText names) = false) :
    KeptBelow included excluded t base (Way.place t ⟨base, names⟩) := by
  intro names' hplace
  have hnames : names = names' := List.append_cancel_left hplace
  rw [← hnames]
  exact (ignores_eq_false_iff hf).mp hkeep

/-- The files of directories pass the filter from the base directory when they do from their own. -/
def DirsAgree (included excluded : List String) (f : Finder) (t : FileTree) (patterns : List String)
    (base : String) : Prop :=
  ∀ d ∈ patterns, t.isDir d = true → ∀ names ∈ t.filesBelow d, f.knowsExtension names = true →
    Kept included excluded (nameText names) → KeptBelow included excluded t base (t.resolve d ++ names)

/-- The files of paths that go up after the base directory pass the filter by their place when they do as they
are spelled. -/
def DetoursAgree (included excluded : List String) (t : FileTree) (patterns : List String) (base : String) : Prop :=
  ∀ p ∈ patterns, t.isFile p = true → ∀ rest, strip? (components base) (components p) = some rest → .up ∈ rest →
    Kept included excluded (render (withoutHere rest)) → KeptBelow included excluded t base (t.resolve p)

theorem dirsAgree_of_base (h : ∀ d ∈ patterns, t.isDir d = true → t.resolve d = t.resolve base) :
    DirsAgree included excluded f t patterns base := by
  intro d hd hdir names _ _ hkept names' hplace
  rw [h d hd hdir] at hplace
  have hnames : names = names' := List.append_cancel_left hplace
  exact hnames ▸ hkept

theorem detoursAgree_of_no_up (h : ∀ p ∈ patterns, .up ∉ components p) :
    DetoursAgree included excluded t patterns base := by
  intro p hp _ rest hstrip hup
  have hrest : components p = components base ++ rest := strip?_eq_some_iff.mp hstrip
  exact absurd (hrest ▸ List.mem_append_right (components base) hup) (h p hp)

theorem agree_of_takes (hf : make included excluded extensions = .ok f)
    (h : ∀ w, Takes f t patterns base w → KeptBelow included excluded t base (w.place t)) :
    DirsAgree included excluded f t patterns base ∧ DetoursAgree included excluded t patterns base := by
  constructor
  · intro d hd hdir names hnames hknown hkept
    have hreach : Reaches f t patterns base ⟨d, names⟩ (nameText names) :=
      .below hd (FileTree.isFile_eq_false_of_isDir hdir) hdir hnames hknown
    exact h ⟨d, names⟩ ⟨_, hreach, (ignores_eq_false_iff hf).mpr hkept⟩
  · intro p hp hfile rest hstrip _ hkept
    have hreach : Reaches f t patterns base ⟨p, []⟩ (relativeToBase t p base) := .file hp hfile
    rw [relativeToBase_of_strip hstrip] at hreach
    have hbelow := h ⟨p, []⟩ ⟨_, hreach, (ignores_eq_false_iff hf).mpr hkept⟩
    rwa [Way.place_file] at hbelow

theorem Takes.keptBelow (ht : t.root.Plain) (hbase : t.isDir base = true)
    (hf : make included excluded extensions = .ok f) (hdirs : DirsAgree included excluded f t patterns base)
    (hdetours : DetoursAgree included excluded t patterns base) {w : Way} (hw : Takes f t patterns base w) :
    KeptBelow included excluded t base (w.place t) := by
  obtain ⟨text, hreach, hkeep⟩ := hw
  cases hreach with
  | @file p hp hfile =>
      rw [Way.place_file]
      intro names hplace
      -- Only a path that goes up after the base directory is held against the filter by its spelling.
      by_cases hdetour : ∃ rest, strip? (components base) (components p) = some rest ∧ .up ∈ rest
      · obtain ⟨rest, hstrip, hup⟩ := hdetour
        rw [relativeToBase_of_strip hstrip] at hkeep
        exact hdetours p hp hfile rest hstrip hup ((ignores_eq_false_iff hf).mp hkeep) names hplace
      · have htext : relativeToBase t p base = nameText names :=
          relativeToBase_eq ht hfile hbase hplace fun rest hstrip hup => hdetour ⟨rest, hstrip, hup⟩
        rw [htext] at hkeep
        exact (ignores_eq_false_iff hf).mp hkeep
  | below hd _ hdir hnames hknown => exact hdirs _ hd hdir _ hnames hknown ((ignores_eq_false_iff hf).mp hkeep)
  | glob => exact keptBelow_glob hf hkeep

/-- Every file found below the base directory passes the filter by its names from there exactly when searched
directories and detours agree with it. -/
theorem discover_keptBelow_iff (ht : t.root.Plain) (hbase : t.isDir base = true)
    (hf : make included excluded extensions = .ok f) (h : f.discover t patterns base = .ok files) :
    (∀ p ∈ files, KeptBelow included excluded t base (t.resolve p)) ↔
      DirsAgree included excluded f t patterns base ∧ DetoursAgree included excluded t patterns base := by
  rw [forall_found_iff ht h (P := KeptBelow included excluded t base)]
  constructor
  · exact agree_of_takes hf
  · rintro ⟨hdirs, hdetours⟩ w hw
    exact hw.keptBelow ht hbase hf hdirs hdetours

/-- A document beside a directory with another one. -/
def twoDocuments : FileTree := ⟨.dir [("b.md", .file .empty), ("docs", .dir [("a.md", .file .empty)])], []⟩

def withoutDocs : Finder where
  included := none
  excluded := some [⟨"docs/*", [.literal 'd', .literal 'o', .literal 'c', .literal 's', .literal '/', .many]⟩]
  extensions := ["md"]

theorem make_withoutDocs : make [] ["docs/*"] ["md"] = .ok withoutDocs := rfl

theorem plain_twoDocuments : twoDocuments.root.Plain := by
  have hb : IsName "b.md" := by constructor <;> decide
  have hdocs : IsName "docs" := by constructor <;> decide
  have ha : IsName "a.md" := by constructor <;> decide
  simp [twoDocuments, Node.Plain, Node.PlainEntries, hb, hdocs, ha]

theorem locate_here_twoDocuments (follow : Bool) : twoDocuments.locate "." follow = .ok [] :=
  FileTree.locate_here rfl follow

theorem isDir_twoDocuments : twoDocuments.isDir "." = true :=
  FileTree.isDir_of_locate (locate_here_twoDocuments true) rfl

/-- Searched from the base directory, only the first document is found. -/
theorem discover_keptBelow_from_base :
    withoutDocs.discover twoDocuments ["."] "." = .ok ["./b.md"] ∧
    ∀ p ∈ ["./b.md"], KeptBelow [] ["docs/*"] twoDocuments "." (twoDocuments.resolve p) := by
  have hbelow : twoDocuments.filesBelow "." = [["b.md"], ["docs", "a.md"]] :=
    FileTree.filesBelow_of_locate (locate_here_twoDocuments false) rfl
  have hfound : withoutDocs.discover twoDocuments ["."] "." = .ok ["./b.md"] :=
    discover_dir isDir_twoDocuments (by rw [walk, hbelow]; decide +kernel)
  have hdirs : DirsAgree [] ["docs/*"] withoutDocs twoDocuments ["."] "." :=
    dirsAgree_of_base fun d hd _ => by rw [List.mem_singleton.mp hd]
  have hdetours : DetoursAgree [] ["docs/*"] twoDocuments ["."] "." :=
    detoursAgree_of_no_up fun p hp => by
      rw [List.mem_singleton.mp hp]
      decide
  exact ⟨hfound, (discover_keptBelow_iff plain_twoDocuments isDir_twoDocuments make_withoutDocs hfound).mpr ⟨hdirs, hdetours⟩⟩

/-- Searched from its own directory, the other document is found although the filter leaves it out. -/
theorem discover_gets_around_filter :
    twoDocuments.root.Plain ∧ twoDocuments.isDir "." = true ∧ make [] ["docs/*"] ["md"] = .ok withoutDocs ∧
    withoutDocs.discover twoDocuments ["docs"] "." = .ok ["docs/a.md"] ∧
    ¬ KeptBelow [] ["docs/*"] twoDocuments "." (twoDocuments.resolve "docs/a.md") := by
  have hlocate : ∀ follow, twoDocuments.locate "docs" follow = .ok ["docs"] :=
    FileTree.locate_name rfl (by constructor <;> decide) (by decide) (by decide) rfl (fun _ => nofun)
  have hbelow : twoDocuments.filesBelow "docs" = [["a.md"]] := FileTree.filesBelow_of_locate (hlocate false) rfl
  have hfound : withoutDocs.discover twoDocuments ["docs"] "." = .ok ["docs/a.md"] :=
    discover_dir (FileTree.isDir_of_locate (hlocate true) rfl) (by rw [walk, hbelow]; decide +kernel)
  refine ⟨plain_twoDocuments, isDir_twoDocuments, make_withoutDocs, hfound, fun hkept => ?_⟩
  have hnames : Kept [] ["docs/*"] (nameText ["docs", "a.md"]) := hkept ["docs", "a.md"] (by decide)
  have hignored : withoutDocs.ignores (nameText ["docs", "a.md"]) = true := by decide +kernel
  rw [(ignores_eq_false_iff make_withoutDocs).mpr hnames] at hignored
  exact Bool.false_ne_true hignored

end LineLimit.Finder

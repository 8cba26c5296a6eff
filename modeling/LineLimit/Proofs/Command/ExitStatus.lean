import LineLimit.Command.Run
import LineLimit.Proofs.Discovery.Filter
import LineLimit.Proofs.Linter.Partition
/-!
What the exit status of linting tells. A run is refused for its configuration, for a glob of its filter or for one of
its patterns, and for nothing else; it has written nothing then. Any other run lints the files that it finds, and its
status tells apart whether some file could not be linted or some diagnostic is an error.
-/

namespace LineLimit.Command

def configPath (t : FileTree) (config : Option String) : Option String := config <|> Config.discover? t "."

/-- What keeps a run from linting. -/
inductive Refusal (t : FileTree) (config : Option String) (patterns : List String) : Prop
  | unreadable {path : String} {e : FileError} (hpath : configPath t config = some path)
      (hread : t.readText path = .error e)
  | malformed {path source : String} {e : ConfigError} (hpath : configPath t config = some path)
      (hread : t.readText path = .ok source) (hparse : Config.parse source = .error e)
  | unresolved {c : Config} {e : ConfigError} (hload : loadConfig t config = .ok c) (hsettings : c.settings = .error e)
  | filter {c : Config} {s : String} {e : GlobError} (hload : loadConfig t config = .ok c)
      (hs : s ∈ c.included ∨ s ∈ c.excluded) (hparse : Glob.parse s = .error e)
  | pattern {p : String} {e : GlobError} (hp : p ∈ patterns) (hfile : t.isFile p = false) (hdir : t.isDir p = false)
      (hparse : Glob.parse p = .error e)

/-- A run that gets to its files: its configuration, the settings from there, its linter and the files. -/
structure Starts (t : FileTree) (config : Option String) (patterns : List String) (overrides : Overrides)
    (c : Config) (settings : Option Settings) (l : Linter) (files : List String) : Prop where
  load : loadConfig t config = .ok c
  resolve : c.settings = .ok settings
  linter : Linter.withSettings c (settings.map overrides.apply) = .ok l
  files : l.finder.discover t patterns (l.baseDir.getD ".") = .ok files

def Fails (t : FileTree) (l : Linter) (files : List String) : Prop := ∃ p ∈ files, ∃ e, l.lintFile t p = .error e

def FindsError (rs : List Report) : Prop := ∃ r ∈ rs, ∃ d ∈ r.diagnostics, d.severity = .error

/-- What the outcome of a run says about the files that it has linted. -/
structure Verdict (t : FileTree) (format : Format) (settings : Option Settings) (l : Linter) (files : List String)
    (x : Outcome) : Prop where
  output : x.output = writeReports format (l.lintFiles t files).reports
  one_iff : x.status = 1 ↔ Fails t l files ∨ FindsError (l.lintFiles t files).reports
  zero_iff : x.status = 0 ↔ ¬ (Fails t l files ∨ FindsError (l.lintFiles t files).reports)
  summary : ¬ Fails t l files →
    (x.status = 1 ↔ 0 < (Summary.ofReports (l.lintFiles t files).reports).filesWithErrors)
  mild : (∀ s, settings = some s → s.severity ≠ .error) → x.status = 1 → Fails t l files

variable {t : FileTree} {config : Option String} {patterns files : List String} {overrides : Overrides}
  {format : Format} {c : Config} {settings : Option Settings} {l : Linter}

theorem loadConfig_of_path {path : String} (h : configPath t config = some path) :
    loadConfig t config = Config.load t path := by
  unfold configPath at h
  unfold loadConfig
  rw [h]

theorem exists_loadConfig (h : ¬ Refusal t config patterns) : ∃ c, loadConfig t config = .ok c := by
  cases hpath : configPath t config with
  | none =>
      unfold configPath at hpath
      unfold loadConfig
      rw [hpath]
      exact ⟨_, rfl⟩
  | some path =>
      rw [loadConfig_of_path hpath, Config.load, exists_bind_eq_ok_iff]
      rcases exists_ok_or_error (t.readText path) with ⟨source, hread⟩ | ⟨e, hread⟩
      · rcases exists_ok_or_error (Config.parse source) with ⟨c, hparse⟩ | ⟨e, hparse⟩
        · refine ⟨source, mapError_eq_ok_iff.mpr hread, ?_⟩
          rw [hparse]
          exact ⟨_, rfl⟩
        · exact absurd (.malformed hpath hread hparse) h
      · exact absurd (.unreadable hpath hread) h

theorem exists_withSettings_iff : (∃ l, Linter.withSettings c settings = .ok l) ↔
    (∀ s ∈ c.included, ∃ g, Glob.parse s = .ok g) ∧ ∀ s ∈ c.excluded, ∃ g, Glob.parse s = .ok g := by
  rw [Linter.withSettings, exists_bind_eq_ok_iff, ← Finder.exists_make_iff]
  exact exists_congr fun f => and_iff_left ⟨_, rfl⟩

theorem Starts.not_refusal (h : Starts t config patterns overrides c settings l files) :
    ¬ Refusal t config patterns := by
  intro hrefusal
  have hload := h.load
  cases hrefusal with
  | unreadable hpath hread =>
      rw [loadConfig_of_path hpath] at hload
      obtain ⟨source, hsource, _⟩ := of_bind_eq_ok hload
      exact nomatch hread.symm.trans (of_mapError_eq_ok hsource)
  | malformed hpath hread hparse =>
      rw [loadConfig_of_path hpath] at hload
      obtain ⟨source, hsource, hload⟩ := of_bind_eq_ok hload
      cases hread.symm.trans (of_mapError_eq_ok hsource)
      obtain ⟨c', hc', _⟩ := of_bind_eq_ok hload
      exact nomatch hparse.symm.trans hc'
  | unresolved hload' hsettings =>
      cases hload'.symm.trans hload
      exact nomatch hsettings.symm.trans h.resolve
  | filter hload' hs hparse =>
      cases hload'.symm.trans hload
      obtain ⟨hin, hout⟩ := exists_withSettings_iff.mp ⟨l, h.linter⟩
      obtain ⟨g, hg⟩ := hs.elim (hin _) (hout _)
      exact nomatch hparse.symm.trans hg
  | pattern hp hfile hdir hparse =>
      rcases Finder.exists_discover_iff.mp ⟨files, h.files⟩ _ hp with hfile' | hdir' | ⟨g, hg⟩
      · exact nomatch hfile.symm.trans hfile'
      · exact nomatch hdir.symm.trans hdir'
      · exact nomatch hparse.symm.trans hg

/-- A run gets to its files exactly when nothing keeps it from linting. -/
theorem exists_starts_iff : (∃ c settings l files, Starts t config patterns overrides c settings l files) ↔
    ¬ Refusal t config patterns := by
  constructor
  · rintro ⟨c, settings, l, files, h⟩
    exact h.not_refusal
  · intro h
    obtain ⟨c, hload⟩ := exists_loadConfig h
    obtain ⟨settings, hsettings⟩ : ∃ settings, c.settings = .ok settings := by
      refine (exists_ok_or_error c.settings).resolve_right ?_
      rintro ⟨e, he⟩
      exact h (.unresolved hload he)
    have hglob : ∀ s, s ∈ c.included ∨ s ∈ c.excluded → ∃ g, Glob.parse s = .ok g := by
      intro s hs
      refine (exists_ok_or_error (Glob.parse s)).resolve_right ?_
      rintro ⟨e, he⟩
      exact h (.filter hload hs he)
    obtain ⟨l, hlinter⟩ : ∃ l, Linter.withSettings c (settings.map overrides.apply) = .ok l :=
      exists_withSettings_iff.mpr ⟨fun s hs => hglob s (.inl hs), fun s hs => hglob s (.inr hs)⟩
    obtain ⟨files, hfiles⟩ : ∃ files, l.finder.discover t patterns (l.baseDir.getD ".") = .ok files := by
      refine Finder.exists_discover_iff.mpr fun p hp => ?_
      by_contra hnone
      obtain ⟨hfile, hnone⟩ := not_or.mp hnone
      obtain ⟨hdir, hglob⟩ := not_or.mp hnone
      obtain ⟨e, he⟩ := (exists_ok_or_error (Glob.parse p)).resolve_left hglob
      exact h (.pattern hp (Bool.eq_false_iff.mpr hfile) (Bool.eq_false_iff.mpr hdir) he)
    exact ⟨c, settings, l, files, hload, hsettings, hlinter, hfiles⟩

theorem lint_eq_ok_iff {o : Outcomes} : lint t config patterns overrides = .ok o ↔
    ∃ c settings l files, Starts t config patterns overrides c settings l files ∧ o = l.lintFiles t files := by
  constructor
  · intro h
    obtain ⟨c, hload, h⟩ := of_bind_eq_ok h
    obtain ⟨settings, hsettings, h⟩ := of_bind_eq_ok h
    obtain ⟨l, hlinter, h⟩ := of_bind_eq_ok h
    obtain ⟨files, hfiles, rfl⟩ := (Linter.lintPatterns_eq_ok_iff l t patterns o).mp h
    exact ⟨c, settings, l, files, ⟨of_mapError_eq_ok hload, of_mapError_eq_ok hsettings, hlinter, hfiles⟩, rfl⟩
  · rintro ⟨c, settings, l, files, h, rfl⟩
    have hpatterns := (Linter.lintPatterns_eq_ok_iff l t patterns _).mpr ⟨files, h.files, rfl⟩
    rw [lint, h.load]
    change (c.settings.mapError LintError.config >>= _) = _
    rw [h.resolve]
    change (Linter.withSettings c (settings.map overrides.apply) >>= _) = _
    rw [h.linter]
    exact hpatterns

theorem runLint_of_refusal {overrides : Overrides} {format : Format} (h : Refusal t config patterns) :
    ∃ reason, runLint t config patterns format overrides = .refused t reason := by
  unfold runLint
  cases hlint : lint t config patterns overrides with
  | error e => exact ⟨e.message, rfl⟩
  | ok o =>
      obtain ⟨c, settings, l, files, hstarts, _⟩ := lint_eq_ok_iff.mp hlint
      exact absurd h hstarts.not_refusal

theorem Starts.runLint_eq (h : Starts t config patterns overrides c settings l files) (format : Format) :
    runLint t config patterns format overrides = ⟨statusOf (l.lintFiles t files),
      writeReports format (l.lintFiles t files).reports, failureLines (l.lintFiles t files).failures, t, none⟩ := by
  have hlint : lint t config patterns overrides = .ok (l.lintFiles t files) :=
    lint_eq_ok_iff.mpr ⟨c, settings, l, files, h, rfl⟩
  rw [runLint, hlint]

theorem fails_iff : Fails t l files ↔ (l.lintFiles t files).failures ≠ [] := by
  have hpath : ∀ p, l.failure? t p ≠ none ↔ ∃ e, l.lintFile t p = .error e := by
    intro p
    cases h : l.lintFile t p with
    | ok r => simp [Linter.failure?_of_ok h]
    | error e => simp [Linter.failure?_of_error h]
  simp only [Fails, ← hpath, Linter.failures_lintFiles, ne_eq, List.filterMap_eq_nil_iff, not_forall, exists_prop]

theorem findsError_iff {rs : List Report} : FindsError rs ↔ ∃ r ∈ rs, r.hasErrors = true := by
  simp only [FindsError, Report.hasErrors_iff]

theorem filesWithErrors_pos_iff {rs : List Report} : 0 < (Summary.ofReports rs).filesWithErrors ↔ FindsError rs := by
  rw [Summary.ofReports, List.countP_pos_iff, findsError_iff]

theorem statusOf_eq_one_iff : statusOf (l.lintFiles t files) = 1 ↔
    Fails t l files ∨ FindsError (l.lintFiles t files).reports := by
  have hbad : ((l.lintFiles t files).reports.any (·.hasErrors) || !(l.lintFiles t files).failures.isEmpty) = true ↔
      Fails t l files ∨ FindsError (l.lintFiles t files).reports := by
    rw [Bool.or_eq_true, List.any_eq_true, ← findsError_iff, fails_iff, or_comm]
    simp
  rw [statusOf, ← hbad]
  split
  · next h => exact iff_of_true rfl h
  · next h => exact iff_of_false nofun h

theorem statusOf_le (o : Outcomes) : statusOf o ≤ 1 := by
  unfold statusOf
  split
  · exact Nat.le_refl 1
  · exact Nat.zero_le 1

theorem runLint_status_eq_two_iff :
    (runLint t config patterns format overrides).status = 2 ↔ Refusal t config patterns := by
  constructor
  · intro hstatus
    by_contra hrefusal
    obtain ⟨c, settings, l, files, h⟩ := exists_starts_iff.mpr hrefusal
    rw [h.runLint_eq format] at hstatus
    have hstatus : statusOf (l.lintFiles t files) = 2 := hstatus
    have hle := statusOf_le (l.lintFiles t files)
    omega
  · intro hrefusal
    obtain ⟨reason, hreason⟩ := runLint_of_refusal hrefusal
    rw [hreason]
    rfl

theorem severity_of_mem_lintSource {path source : String} {r : Report} (h : l.lintSource path source = .ok r)
    {d : Diagnostic} (hd : d ∈ r.diagnostics) : ∃ s, l.settings = some s ∧ d.severity = s.severity := by
  cases Linter.lintSource_eq_ok_iff.mp h with
  | inl hoff =>
      rw [hoff.2] at hd
      exact nomatch hd
  | inr hon =>
      obtain ⟨s, doc, hs, _, hr⟩ := hon
      rw [hr] at hd
      obtain ⟨n, _, hline⟩ := List.mem_filterMap.mp hd
      obtain ⟨info, _, rfl⟩ := Option.map_eq_some_iff.mp hline
      exact ⟨s, hs, rfl⟩

/-- The options of the command line leave the severity as it is configured. -/
theorem Starts.severity_eq (h : Starts t config patterns overrides c settings l files) {r : Report}
    (hr : r ∈ (l.lintFiles t files).reports) {d : Diagnostic} (hd : d ∈ r.diagnostics) :
    ∃ s, settings = some s ∧ d.severity = s.severity := by
  obtain ⟨p, _, hreport⟩ := Linter.mem_reports_iff.mp hr
  obtain ⟨source, _, hsource⟩ := Linter.lintFile_eq_ok_iff.mp hreport
  obtain ⟨s, hs, hseverity⟩ := severity_of_mem_lintSource hsource hd
  obtain ⟨finder, _, hl⟩ := of_bind_eq_ok h.linter
  cases hl
  obtain ⟨configured, rfl, rfl⟩ := Option.map_eq_some_iff.mp hs
  exact ⟨configured, rfl, hseverity⟩

theorem Starts.verdict (h : Starts t config patterns overrides c settings l files) (format : Format) :
    Verdict t format settings l files (runLint t config patterns format overrides) := by
  rw [h.runLint_eq format]
  have hone : statusOf (l.lintFiles t files) = 1 ↔ Fails t l files ∨ FindsError (l.lintFiles t files).reports :=
    statusOf_eq_one_iff
  refine ⟨rfl, hone, ?_, ?_, ?_⟩
  · rw [← hone]
    have hle := statusOf_le (l.lintFiles t files)
    change statusOf (l.lintFiles t files) = 0 ↔ _
    omega
  · intro hnone
    rw [filesWithErrors_pos_iff]
    exact hone.trans (or_iff_right hnone)
  · intro hmild hstatus
    refine (hone.mp hstatus).resolve_right ?_
    rintro ⟨r, hr, d, hd, herror⟩
    obtain ⟨s, hs, hseverity⟩ := h.severity_eq hr hd
    exact hmild s hs (hseverity.symm.trans herror)

theorem run_lint {args : List String}
    (hargs : Invocation.parse args = some ⟨.lint patterns format overrides, config⟩) :
    run t args = runLint t config patterns format overrides := by
  rw [run, hargs]

/-- The status of linting is 2 exactly for a run that is refused, which has written nothing. A run that is not refused
gets to its files, and its status is 1 or 0 by what is found in them. The format has no part in it. -/
theorem lint_exit_status {args : List String}
    (hargs : Invocation.parse args = some ⟨.lint patterns format overrides, config⟩) :
    ((run t args).status = 2 ↔ Refusal t config patterns) ∧
    (Refusal t config patterns → (run t args).output = "") ∧
    (¬ Refusal t config patterns ↔ ∃ c settings l files, Starts t config patterns overrides c settings l files) ∧
    (∀ c settings l files, Starts t config patterns overrides c settings l files →
      Verdict t format settings l files (run t args)) ∧
    ∀ args' format', Invocation.parse args' = some ⟨.lint patterns format' overrides, config⟩ →
      (run t args').status = (run t args).status := by
  rw [run_lint hargs]
  refine ⟨runLint_status_eq_two_iff, ?_, exists_starts_iff.symm, fun c settings l files h => h.verdict format, ?_⟩
  · intro hrefusal
    obtain ⟨reason, hreason⟩ := runLint_of_refusal hrefusal
    rw [hreason]
    rfl
  · intro args' format' hargs'
    rw [run_lint hargs', runLint, runLint]
    cases lint t config patterns overrides with
    | error e => rfl
    | ok o => rfl

/-- A directory with a file that is no text. -/
def noText : FileTree := ⟨.dir [("a.md", .file ⟨#[255]⟩)], []⟩

theorem find_noText : noText.find "a.md" = .ok (["a.md"], .file ⟨#[255]⟩) := by
  have hlocate : noText.locate "a.md" true = .ok ["a.md"] :=
    FileTree.locate_name rfl (by constructor <;> decide) (by decide) (by decide) rfl (by nofun) true
  exact FileTree.find_of_locate hlocate rfl

theorem loadConfig_noText : loadConfig noText none = .ok {} := by
  have hsteps : FileTree.steps "./.strictlen.jsonc" = [.stay, .down ".strictlen.jsonc"] := by decide +kernel
  have hsteps' : FileTree.steps "./.strictlen.json" = [.stay, .down ".strictlen.json"] := by decide +kernel
  have hfirst : noText.locate "./.strictlen.jsonc" true = .error .notFound := by
    refine FileTree.locate_of_walk (by decide) (by decide) (by decide) hsteps ?_
    simp +decide [FileTree.walk, noText, Node.get?, Node.child?]
  have hsecond : noText.locate "./.strictlen.json" true = .error .notFound := by
    refine FileTree.locate_of_walk (by decide) (by decide) (by decide) hsteps' ?_
    simp +decide [FileTree.walk, noText, Node.get?, Node.child?]
  have hnames : Config.fileNames.map (Path.join ".") = ["./.strictlen.jsonc", "./.strictlen.json"] := by
    decide +kernel
  have hnone : Config.discover? noText "." = none := by
    rw [Config.discover?, hnames]
    simp [FileTree.not_isFile_of_locate hfirst, FileTree.not_isFile_of_locate hsecond]
  rw [loadConfig, hnone]
  rfl

theorem starts_noText : Starts noText none ["a.md"] {} {} (some {})
    ⟨some {}, Markdown.reader, ⟨none, none, Markdown.extensions⟩, none⟩ ["a.md"] where
  load := loadConfig_noText
  resolve := rfl
  linter := rfl
  files := Finder.discover_file (by rw [FileTree.isFile, find_noText])

/-- A file that cannot be linted gives status 1 in either format, a pattern that is nothing at all status 2. -/
theorem lint_exit_status_noText :
    (run noText ["lint", "a.md"]).status = 1 ∧ (run noText ["lint", "--format=json", "a.md"]).status = 1 ∧
    (run noText ["lint", "["]).status = 2 ∧ (run noText ["lint", "["]).output = "" := by
  have hargs : Invocation.parse ["lint", "a.md"] = some ⟨.lint ["a.md"] .text {}, none⟩ := by decide +kernel
  have hjson : Invocation.parse ["lint", "--format=json", "a.md"] = some ⟨.lint ["a.md"] .json {}, none⟩ := by
    decide +kernel
  have hglob : Invocation.parse ["lint", "["] = some ⟨.lint ["["] .text {}, none⟩ := by decide +kernel
  have hfails : Fails noText ⟨some {}, Markdown.reader, ⟨none, none, Markdown.extensions⟩, none⟩ ["a.md"] := by
    have hread : noText.readText "a.md" = .error .notUtf8 := by
      rw [FileTree.readText, find_noText]
      rfl
    refine ⟨"a.md", List.mem_cons_self, .file (.unreadable "a.md" .notUtf8), ?_⟩
    rw [Linter.lintFile, Linter.sourceOf, find_noText, hread]
    rfl
  have hrefusal : Refusal noText none ["["] := by
    have hsteps : FileTree.steps "[" = [.down "["] := by decide +kernel
    have hmissing : noText.locate "[" true = .error .notFound := by
      refine FileTree.locate_of_walk (by decide) (by decide) (by decide) hsteps ?_
      simp +decide [FileTree.walk, noText, Node.get?, Node.child?]
    exact .pattern List.mem_cons_self (FileTree.not_isFile_of_locate hmissing)
      (FileTree.not_isDir_of_locate hmissing) rfl
  obtain ⟨_, _, _, hverdict, hformat⟩ := lint_exit_status (t := noText) hargs
  obtain ⟨hrefused, hsilent, _⟩ := lint_exit_status (t := noText) hglob
  have hone : (run noText ["lint", "a.md"]).status = 1 := (hverdict _ _ _ _ starts_noText).one_iff.mpr (.inl hfails)
  exact ⟨hone, (hformat _ .json hjson).trans hone, hrefused.mpr hrefusal, hsilent hrefusal⟩

end LineLimit.Command

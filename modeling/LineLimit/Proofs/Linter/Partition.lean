import LineLimit.Proofs.Linter.Files
import LineLimit.Proofs.Linter.Schedule
/-!
What linting several files gives. Files are linted by several workers at a time, and their results are sorted into
reports and failures afterwards. In whichever order the files are linted, each path gives its own report or its own
failure, both in the order of the paths, and what one path gives does not depend on the others.
-/

namespace LineLimit

instance : Append Outcomes :=
  ⟨fun a b => ⟨a.reports ++ b.reports, a.failures ++ b.failures⟩⟩

theorem Outcomes.eq_append {a b c : Outcomes} (hr : a.reports = b.reports ++ c.reports)
    (hf : a.failures = b.failures ++ c.failures) : a = b ++ c := by
  obtain ⟨reports, failures⟩ := a
  cases hr
  cases hf
  rfl

namespace Linter

open Schedule

def attempt (l : Linter) (t : FileTree) (path : String) : Except (String × LintError) Report :=
  (l.lintFile t path).mapError fun e => (path, e)

def failure? (l : Linter) (t : FileTree) (path : String) : Option (String × LintError) :=
  match l.lintFile t path with
  | .ok _ => none
  | .error e => some (path, e)

/-- Puts one result behind those of its kind. -/
def record (o : Outcomes) : Except (String × LintError) Report → Outcomes
  | .ok r => { o with reports := o.reports ++ [r] }
  | .error failure => { o with failures := o.failures ++ [failure] }

def gather (results : List (Except (String × LintError) Report)) : Outcomes :=
  results.foldl record ⟨[], []⟩

/-- Outcomes in which every path has its own, and nothing but these: reports of the paths that can be linted,
failures of the others, in the order of the paths and as often as they are given. -/
structure Accounts (l : Linter) (t : FileTree) (paths : List String) (o : Outcomes) : Prop where
  reports : o.reports = paths.filterMap fun path => (l.lintFile t path).toOption
  failures : o.failures = paths.filterMap (l.failure? t)
  length : o.reports.length + o.failures.length = paths.length
  each : (o.reports.map (·.path) ++ o.failures.map (·.1)).Perm paths

theorem failure?_of_ok {l : Linter} {t : FileTree} {path : String} {r : Report} (h : l.lintFile t path = .ok r) :
    l.failure? t path = none := by
  rw [failure?, h]

theorem failure?_of_error {l : Linter} {t : FileTree} {path : String} {e : LintError}
    (h : l.lintFile t path = .error e) : l.failure? t path = some (path, e) := by
  rw [failure?, h]

theorem reports_lintFiles (l : Linter) (t : FileTree) (paths : List String) :
    (l.lintFiles t paths).reports = paths.filterMap fun path => (l.lintFile t path).toOption := by
  induction paths with
  | nil => rfl
  | cons path paths ih =>
      rw [List.filterMap_cons]
      cases h : l.lintFile t path with
      | ok r =>
          rw [lintFiles_cons_ok h]
          simp only [ih, Except.toOption]
      | error e =>
          rw [lintFiles_cons_error h]
          simp only [ih, Except.toOption]

theorem mem_reports_iff {l : Linter} {t : FileTree} {paths : List String} {r : Report} :
    r ∈ (l.lintFiles t paths).reports ↔ ∃ path ∈ paths, l.lintFile t path = .ok r := by
  rw [reports_lintFiles, List.mem_filterMap]
  refine exists_congr fun path => and_congr_right fun _ => ?_
  cases l.lintFile t path <;> simp [Except.toOption]

theorem failures_lintFiles (l : Linter) (t : FileTree) (paths : List String) :
    (l.lintFiles t paths).failures = paths.filterMap (l.failure? t) := by
  induction paths with
  | nil => rfl
  | cons path paths ih =>
      cases h : l.lintFile t path with
      | ok r =>
          rw [lintFiles_cons_ok h, List.filterMap_cons_none (failure?_of_ok h)]
          exact ih
      | error e =>
          rw [lintFiles_cons_error h, List.filterMap_cons_some (failure?_of_error h)]
          simp only [ih]

theorem accounts_lintFiles (l : Linter) (t : FileTree) (paths : List String) :
    l.Accounts t paths (l.lintFiles t paths) where
  reports := reports_lintFiles l t paths
  failures := failures_lintFiles l t paths
  length := by
    have hlen := (perm_lintFiles l t paths).length_eq
    rw [List.length_append, List.length_map, List.length_map] at hlen
    exact hlen
  each := perm_lintFiles l t paths

theorem lintFiles_append (l : Linter) (t : FileTree) (before after : List String) :
    l.lintFiles t (before ++ after) = l.lintFiles t before ++ l.lintFiles t after := by
  apply Outcomes.eq_append
  · simp only [reports_lintFiles, List.filterMap_append]
  · simp only [failures_lintFiles, List.filterMap_append]

theorem lintFiles_insert (l : Linter) (t : FileTree) (before after : List String) (path : String) :
    l.lintFiles t (before ++ path :: after) =
      l.lintFiles t before ++ l.lintFiles t [path] ++ l.lintFiles t after := by
  rw [← lintFiles_append, ← lintFiles_append, List.append_assoc]
  rfl

theorem foldl_record (l : Linter) (t : FileTree) (paths : List String) (o : Outcomes) :
    (paths.map (l.attempt t)).foldl record o = o ++ l.lintFiles t paths := by
  -- for all outcomes so far, since the loop goes on with more than it began with
  induction paths generalizing o with
  | nil =>
      apply Outcomes.eq_append
      · exact (List.append_nil _).symm
      · exact (List.append_nil _).symm
  | cons path paths ih =>
      rw [List.map_cons, List.foldl_cons, ih]
      cases h : l.lintFile t path with
      | ok r =>
          rw [lintFiles_cons_ok h, attempt, h]
          apply Outcomes.eq_append
          · exact List.append_assoc _ _ _
          · rfl
      | error e =>
          rw [lintFiles_cons_error h, attempt, h]
          apply Outcomes.eq_append
          · rfl
          · exact List.append_assoc _ _ _

theorem gather_attempts (l : Linter) (t : FileTree) (paths : List String) :
    gather (paths.map (l.attempt t)) = l.lintFiles t paths :=
  foldl_record l t paths ⟨[], []⟩

theorem lintPatterns_eq_error_iff (l : Linter) (t : FileTree) (patterns : List String) (e : LintError) :
    l.lintPatterns t patterns = .error e ↔ l.finder.discover t patterns (l.baseDir.getD ".") = .error e := by
  unfold lintPatterns
  cases l.finder.discover t patterns (l.baseDir.getD ".") with
  | ok files => exact ⟨nofun, nofun⟩
  | error e' =>
      constructor
      · intro h
        cases h
        rfl
      · intro h
        cases h
        rfl

theorem lintPatterns_eq_ok_iff (l : Linter) (t : FileTree) (patterns : List String) (o : Outcomes) :
    l.lintPatterns t patterns = .ok o ↔
      ∃ files, l.finder.discover t patterns (l.baseDir.getD ".") = .ok files ∧ o = l.lintFiles t files := by
  unfold lintPatterns
  cases l.finder.discover t patterns (l.baseDir.getD ".") with
  | ok files =>
      constructor
      · intro h
        cases h
        exact ⟨files, rfl, rfl⟩
      · rintro ⟨files', hfiles, rfl⟩
        cases hfiles
        rfl
  | error e => exact ⟨nofun, fun ⟨_, h, _⟩ => nomatch h⟩

/-- Linting paths ends in whichever order they are taken up, and always with the same outcomes. Each path has its own
among them, in the order of the paths, and a further path leaves those of the others as they are. For patterns this
holds of the files that are found, and nothing but the search for them can fail. -/
theorem lintFiles_partition (l : Linter) (t : FileTree) :
    (∀ paths,
      (WellFounded fun next slots => Step (l.attempt t) paths slots next) ∧
      (∀ slots, Relation.ReflTransGen (Step (l.attempt t) paths) (start paths) slots →
        (∀ next, ¬ Step (l.attempt t) paths slots next) →
        ∃ results, slots = results.map .done ∧ gather results = l.lintFiles t paths) ∧
      l.Accounts t paths (l.lintFiles t paths)) ∧
    (∀ before path after,
      l.lintFiles t (before ++ after) = l.lintFiles t before ++ l.lintFiles t after ∧
      l.lintFiles t (before ++ path :: after) =
        l.lintFiles t before ++ l.lintFiles t [path] ++ l.lintFiles t after) ∧
    ∀ patterns,
      (∀ e, l.lintPatterns t patterns = .error e ↔
        l.finder.discover t patterns (l.baseDir.getD ".") = .error e) ∧
      ∀ o, l.lintPatterns t patterns = .ok o ↔
        ∃ files, l.finder.discover t patterns (l.baseDir.getD ".") = .ok files ∧ o = l.lintFiles t files := by
  refine ⟨?_, ?_, ?_⟩
  · intro paths
    refine ⟨wellFounded_step _ paths, ?_, accounts_lintFiles l t paths⟩
    intro slots run hstuck
    exact ⟨paths.map (l.attempt t), slots_of_run run hstuck, gather_attempts l t paths⟩
  · intro before path after
    exact ⟨lintFiles_append l t before after, lintFiles_insert l t before after path⟩
  · intro patterns
    exact ⟨lintPatterns_eq_error_iff l t patterns, lintPatterns_eq_ok_iff l t patterns⟩

/-- The first of two files is missing, and the second one is taken up and linted before it. -/
theorem lintFiles_partition_reversed :
    let l : Linter := ⟨none, Markdown.reader, ⟨none, none, []⟩, none⟩
    let t : FileTree := ⟨.dir [("a.md", .file .empty)], []⟩
    let paths := ["b.md", "a.md"]
    let slots := [Slot.done (l.attempt t "b.md"), .done (l.attempt t "a.md")]
    Relation.ReflTransGen (Step (l.attempt t) paths) [.waiting, .waiting] slots ∧
      (∃ results, slots = results.map .done ∧ gather results = l.lintFiles t paths) ∧
      l.lintFiles t paths = ⟨[⟨"a.md", []⟩], [("b.md", .file (.noMetadata "b.md" .notFound))]⟩ := by
  intro l t paths slots
  have htake₁ : Step (l.attempt t) paths [.waiting, .waiting] [.waiting, .underWay] := .take 1 rfl
  have htake₀ : Step (l.attempt t) paths [.waiting, .underWay] [.underWay, .underWay] := .take 0 rfl
  have hfinish₁ : Step (l.attempt t) paths [.underWay, .underWay] [.underWay, .done (l.attempt t "a.md")] :=
    .finish 1 rfl rfl
  have hfinish₀ : Step (l.attempt t) paths [.underWay, .done (l.attempt t "a.md")] slots := .finish 0 rfl rfl
  have run : Relation.ReflTransGen (Step (l.attempt t) paths) [.waiting, .waiting] slots :=
    (((Relation.ReflTransGen.single htake₁).tail htake₀).tail hfinish₁).tail hfinish₀
  have hstuck : ∀ next, ¬ Step (l.attempt t) paths slots next :=
    stuck_of_done [l.attempt t "b.md", l.attempt t "a.md"]
  obtain ⟨_, hruns, _⟩ := (lintFiles_partition l t).1 paths
  have houtcomes : l.lintFiles t paths = ⟨[⟨"a.md", []⟩], [("b.md", .file (.noMetadata "b.md" .notFound))]⟩ := by
    cbv
  exact ⟨run, hruns slots run hstuck, houtcomes⟩

end Linter

end LineLimit

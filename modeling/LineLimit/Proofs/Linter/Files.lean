import LineLimit.Linter
import LineLimit.Proofs.Outcome
/-!
Linting several files. Each path gives a report or a failure and nothing else, and both lists keep the order of
the paths.
-/

namespace LineLimit.Linter

variable {l : Linter} {t : FileTree} {path source : String} {r : Report} {e : LintError}

theorem lintSource_of_none (hs : l.settings = none) : l.lintSource path source = .ok ⟨path, []⟩ := by
  rw [lintSource, hs]

theorem lintSource_of_some {s : Settings} (hs : l.settings = some s) : l.lintSource path source =
    ((l.reader.read source).mapError .parse).map fun d => ⟨path, Check.diagnostics d s⟩ := by
  rw [lintSource, hs]
  cases l.reader.read source with
  | ok d => rfl
  | error cause => rfl

theorem lintSource_eq_ok_iff :
    l.lintSource path source = .ok r ↔
      (l.settings = none ∧ r = ⟨path, []⟩) ∨
        ∃ s d, l.settings = some s ∧ l.reader.read source = .ok d ∧ r = ⟨path, Check.diagnostics d s⟩ := by
  cases hs : l.settings with
  | none =>
      rw [lintSource_of_none hs, Except.ok.injEq, eq_comm]
      refine ⟨fun hr => .inl ⟨rfl, hr⟩, fun h => ?_⟩
      cases h with
      | inl hoff => exact hoff.2
      | inr hon =>
          obtain ⟨_, _, hsome, _⟩ := hon
          cases hsome
  | some s =>
      rw [lintSource_of_some hs, map_eq_ok_iff]
      simp only [mapError_eq_ok_iff, reduceCtorEq, false_and, false_or, Option.some.injEq, exists_and_left,
        exists_eq_left', eq_comm (a := r)]

theorem lintSource_eq_error_iff :
    l.lintSource path source = .error e ↔
      ∃ s cause, l.settings = some s ∧ l.reader.read source = .error cause ∧ e = .parse cause := by
  cases hs : l.settings with
  | none =>
      rw [lintSource_of_none hs]
      exact iff_of_false nofun fun ⟨_, _, h, _⟩ => nomatch h
  | some s =>
      rw [lintSource_of_some hs, map_eq_error_iff, mapError_eq_error_iff]
      simp only [Option.some.injEq, exists_and_left, exists_eq_left', eq_comm (a := e)]

theorem lintFile_eq_ok_iff :
    l.lintFile t path = .ok r ↔ ∃ source, sourceOf t path = .ok source ∧ l.lintSource path source = .ok r := by
  unfold lintFile
  cases sourceOf t path with
  | error cause => exact iff_of_false nofun fun ⟨_, h, _⟩ => nomatch h
  | ok source => simp only [Except.ok.injEq, exists_eq_left']

/-- A file is not linted when its text cannot be had. With the rule on, the reader may refuse the text as well. -/
theorem lintFile_eq_error_iff :
    l.lintFile t path = .error e ↔
      (∃ cause, sourceOf t path = .error cause ∧ e = .file cause) ∨
        ∃ source s cause, sourceOf t path = .ok source ∧ l.settings = some s ∧
          l.reader.read source = .error cause ∧ e = .parse cause := by
  unfold lintFile
  cases sourceOf t path with
  | error cause =>
      simp only [Except.error.injEq, exists_eq_left', reduceCtorEq, false_and, exists_false, or_false]
      exact eq_comm
  | ok source =>
      simp only [lintSource_eq_error_iff, reduceCtorEq, false_and, exists_false, false_or, Except.ok.injEq]
      constructor
      · rintro ⟨s, cause, h⟩
        exact ⟨source, s, cause, rfl, h⟩
      · rintro ⟨_, s, cause, hsource, h⟩
        cases hsource
        exact ⟨s, cause, h⟩

/-- Markdown refuses no text. -/
theorem lintFile_eq_error_iff_of_markdown (hl : l.reader = Markdown.reader) :
    l.lintFile t path = .error e ↔ ∃ cause, sourceOf t path = .error cause ∧ e = .file cause := by
  rw [lintFile_eq_error_iff, hl]
  refine or_iff_left ?_
  intro ⟨_, _, _, _, _, h, _⟩
  exact nomatch h

theorem path_of_lintFile (h : l.lintFile t path = .ok r) : r.path = path := by
  obtain ⟨source, _, hreport⟩ := lintFile_eq_ok_iff.mp h
  cases lintSource_eq_ok_iff.mp hreport with
  | inl hoff => rw [hoff.2]
  | inr hon =>
      obtain ⟨_, _, _, _, hr⟩ := hon
      rw [hr]

theorem lintFiles_cons_ok (h : l.lintFile t path = .ok r) (paths : List String) : l.lintFiles t (path :: paths) =
      { l.lintFiles t paths with reports := r :: (l.lintFiles t paths).reports } := by
  rw [lintFiles, List.foldr_cons, h]
  rfl

theorem lintFiles_cons_error (h : l.lintFile t path = .error e) (paths : List String) : l.lintFiles t (path :: paths) =
      { l.lintFiles t paths with failures := (path, e) :: (l.lintFiles t paths).failures } := by
  rw [lintFiles, List.foldr_cons, h]
  rfl

theorem sublist_reports (l : Linter) (t : FileTree) (paths : List String) :
    ((l.lintFiles t paths).reports.map (·.path)).Sublist paths := by
  induction paths with
  | nil => exact List.nil_sublist []
  | cons path paths ih =>
      cases h : l.lintFile t path with
      | ok r =>
          rw [lintFiles_cons_ok h, List.map_cons, path_of_lintFile h]
          exact ih.cons_cons path
      | error e =>
          rw [lintFiles_cons_error h]
          exact ih.cons path

/-- Every path is reported or has failed, as often as it is given. -/
theorem perm_lintFiles (l : Linter) (t : FileTree) (paths : List String) :
    ((l.lintFiles t paths).reports.map (·.path) ++ (l.lintFiles t paths).failures.map (·.1)).Perm paths := by
  induction paths with
  | nil => exact List.Perm.nil
  | cons path paths ih =>
      cases h : l.lintFile t path with
      | ok r =>
          rw [lintFiles_cons_ok h, List.map_cons, path_of_lintFile h, List.cons_append]
          exact ih.cons path
      | error e =>
          rw [lintFiles_cons_error h, List.map_cons]
          exact List.perm_middle.trans (ih.cons path)

end LineLimit.Linter

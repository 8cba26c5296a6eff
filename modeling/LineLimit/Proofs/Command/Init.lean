import LineLimit.Command.Init
import LineLimit.Proofs.FileTree.Standing
/-!
Writing a first configuration file. One attempt depends on what stands under the file's name, and says what it leaves of the
tree. Attempts in a row therefore end at the second one at the latest, and either the file is written and nothing else
is different, or nothing is different at all.
-/

namespace LineLimit.Command.Init

variable {force : Bool} {t t' : FileTree} {n : Nat} {r : Result}

def place (t : FileTree) : Place := t.placeOf fileName

/-- The new file has been written and nothing else is different. -/
def Written (t t' : FileTree) : Prop := t.Changes (place t) (some (.file defaultText.toUTF8)) t'

def Replaceable (t : FileTree) : Prop :=
  (∃ data, t.at? (place t) = some (.file data)) ∨ ∃ target, t.at? (place t) = some (.link target)

theorem replaceable_iff : Replaceable t ↔ ∃ held, t.at? (place t) = some held ∧ held ≠ .dir := by
  constructor
  · rintro (⟨data, h⟩ | ⟨target, h⟩)
    · exact ⟨_, h, nofun⟩
    · exact ⟨_, h, nofun⟩
  · rintro ⟨held, h, hleaf⟩
    cases held with
    | file data => exact .inl ⟨data, h⟩
    | link target => exact .inr ⟨target, h⟩
    | dir => exact absurd rfl hleaf

theorem attempt_free (force : Bool) (hdir : t.at? t.cwd = some .dir) (hfree : t.at? (place t) = none) :
    ∃ t', attempt force t = .written t' ∧ Written t t' := by
  obtain ⟨t', hcreate, hchanges⟩ := FileTree.createNew_of_free defaultText.toUTF8 hdir hfree
  refine ⟨t', ?_, hchanges⟩
  rw [attempt, hcreate]

theorem attempt_occupied {held : Standing} (h : t.at? (place t) = some held) :
    attempt false t = .failed t .occupied := by
  rw [attempt, FileTree.createNew_of_taken _ h]
  rfl

theorem attempt_dir (h : t.at? (place t) = some .dir) : attempt true t = .failed t (.io .isADirectory) := by
  rw [attempt, FileTree.createNew_of_taken _ h]
  simp only [Bool.not_true, Bool.false_eq_true, if_false, FileTree.removeFile_of_dir h]

theorem attempt_replaceable (h : Replaceable t) :
    ∃ t', attempt true t = .again t' ∧ t.Changes (place t) none t' := by
  obtain ⟨held, hheld, hleaf⟩ := replaceable_iff.mp h
  obtain ⟨t', hremove, hchanges⟩ := FileTree.removeFile_of_leaf hheld hleaf
  refine ⟨t', ?_, hchanges⟩
  rw [attempt, FileTree.createNew_of_taken _ hheld]
  simp only [Bool.not_true, Bool.false_eq_true, if_false, hremove]

/-- Another attempt is made only from a tree in which the old file is gone. -/
theorem changes_of_again (hdir : t.at? t.cwd = some .dir) (h : attempt force t = .again t') :
    t.Changes (place t) none t' := by
  cases hplace : t.at? (place t) with
  | none =>
      obtain ⟨_, hwritten, _⟩ := attempt_free force hdir hplace
      rw [h] at hwritten
      nomatch hwritten
  | some held =>
      cases force with
      | false =>
          rw [attempt_occupied hplace] at h
          nomatch h
      | true =>
          by_cases hheld : held = .dir
          · subst hheld
            rw [attempt_dir hplace] at h
            nomatch h
          · obtain ⟨t'', hagain, hchanges⟩ := attempt_replaceable (replaceable_iff.mpr ⟨held, hplace, hheld⟩)
            rw [h] at hagain
            cases hagain
            exact hchanges

/-- Attempts that end with a result, and their number. Every one goes on from the tree that the one before has left. -/
inductive Runs (force : Bool) : Nat → FileTree → Result → Prop
  | written {t t' : FileTree} (h : attempt force t = .written t') : Runs force 1 t ⟨t', none⟩
  | failed {t t' : FileTree} {e : Error} (h : attempt force t = .failed t' e) : Runs force 1 t ⟨t', some e⟩
  | again {t t' : FileTree} {n : Nat} {r : Result} (h : attempt force t = .again t') (rest : Runs force n t' r) :
      Runs force (n + 1) t r

theorem init_of_written (h : attempt force t = .written t') : init force t = ⟨t', none⟩ := by
  rw [init]
  split <;> simp_all

theorem init_of_failed {e : Error} (h : attempt force t = .failed t' e) : init force t = ⟨t', some e⟩ := by
  rw [init]
  split <;> simp_all

theorem init_of_again (h : attempt force t = .again t') : init force t = init force t' := by
  rw [init]
  split <;> simp_all

theorem exists_runs (force : Bool) (t : FileTree) : ∃ n, Runs force n t (init force t) := by
  fun_induction init force t with
  | case1 t t' h => exact ⟨1, .written h⟩
  | case2 t t' e h => exact ⟨1, .failed h⟩
  | case3 t t' h ih =>
      obtain ⟨n, rest⟩ := ih
      exact ⟨n + 1, .again h rest⟩

theorem Runs.eq_init (h : Runs force n t r) : r = init force t := by
  induction h with
  | written h => exact (init_of_written h).symm
  | failed h => exact (init_of_failed h).symm
  | again h _ ih => exact ih.trans (init_of_again h).symm

/-- Where nothing stands under the name, one attempt is enough. -/
theorem Runs.eq_one (hdir : t.at? t.cwd = some .dir) (hfree : t.at? (place t) = none) (h : Runs force n t r) :
    n = 1 := by
  obtain ⟨t', hattempt, _⟩ := attempt_free force hdir hfree
  cases h with
  | written _ => rfl
  | failed _ => rfl
  | again h _ =>
      rw [hattempt] at h
      nomatch h

/-- After the old file has been removed, everything is as it was but for the place, where nothing stands. -/
theorem free_of_changes (hdir : t.at? t.cwd = some .dir) (h : t.Changes (place t) none t') :
    place t' = place t ∧ t'.at? t'.cwd = some .dir ∧ t'.at? (place t') = none := by
  have hplace : place t' = place t := h.placeOf
  refine ⟨hplace, h.at?_cwd.trans hdir, ?_⟩
  rw [hplace, h.at?_self]

theorem Runs.le_two (hdir : t.at? t.cwd = some .dir) (h : Runs force n t r) : n ≤ 2 := by
  cases h with
  | written _ => decide
  | failed _ => decide
  | again h rest =>
      -- this attempt has removed the old file, so the next one finds the place free
      obtain ⟨_, hdir', hfree⟩ := free_of_changes hdir (changes_of_again hdir h)
      have hone : _ = 1 := rest.eq_one hdir' hfree
      omega

theorem init_free (force : Bool) (hdir : t.at? t.cwd = some .dir) (hfree : t.at? (place t) = none) :
    ∃ t', init force t = ⟨t', none⟩ ∧ Written t t' := by
  obtain ⟨t', hattempt, hwritten⟩ := attempt_free force hdir hfree
  exact ⟨t', init_of_written hattempt, hwritten⟩

theorem init_replaceable (hdir : t.at? t.cwd = some .dir) (h : Replaceable t) :
    ∃ t', init true t = ⟨t', none⟩ ∧ Written t t' := by
  obtain ⟨between, hattempt, hremoved⟩ := attempt_replaceable h
  obtain ⟨hplace, hdir', hfree⟩ := free_of_changes hdir hremoved
  obtain ⟨t', hinit, hwritten⟩ := init_free true hdir' hfree
  refine ⟨t', (init_of_again hattempt).trans hinit, ?_⟩
  rw [Written, hplace] at hwritten
  exact hremoved.trans hwritten

/-- The file is written where nothing stands or what stands there is to be replaced. Otherwise nothing happens. -/
theorem init_cases (force : Bool) (hdir : t.at? t.cwd = some .dir) :
    ((t.at? (place t) = none ∨ force = true ∧ Replaceable t) ∧ ∃ t', init force t = ⟨t', none⟩ ∧ Written t t') ∨
    (¬ (t.at? (place t) = none ∨ force = true ∧ Replaceable t) ∧ ∃ e, init force t = ⟨t, some e⟩) := by
  cases hplace : t.at? (place t) with
  | none => exact .inl ⟨.inl rfl, init_free force hdir hplace⟩
  | some held =>
      cases force with
      | false => exact .inr ⟨by simp, _, init_of_failed (attempt_occupied hplace)⟩
      | true =>
          by_cases hheld : held = .dir
          · subst hheld
            have hnot : ¬ Replaceable t := by simp [Replaceable, hplace]
            exact .inr ⟨by simp [hnot], _, init_of_failed (attempt_dir hplace)⟩
          · have hreplaceable : Replaceable t := replaceable_iff.mpr ⟨held, hplace, hheld⟩
            exact .inl ⟨.inr ⟨rfl, hreplaceable⟩, init_replaceable hdir hreplaceable⟩

/-- Without force the file is written only where nothing stands, with force also in place of a file or a link. Nothing else
is different after success, nothing at all after failure, and it takes one attempt or two. -/
theorem init_replaces_file (hdir : t.at? t.cwd = some .dir) :
    ((init false t).error = none ↔ t.at? (place t) = none) ∧
    ((init true t).error = none ↔ t.at? (place t) = none ∨ (∃ data, t.at? (place t) = some (.file data)) ∨
      ∃ target, t.at? (place t) = some (.link target)) ∧
    ∀ force,
      ((init force t).error = none → t.Changes (place t) (some (.file defaultText.toUTF8)) (init force t).tree) ∧
      ((init force t).error ≠ none → (init force t).tree = t) ∧
      (∃ n, Runs force n t (init force t)) ∧ ∀ n r, Runs force n t r → n ≤ 2 ∧ r = init force t := by
  have hiff (force : Bool) : (init force t).error = none ↔ t.at? (place t) = none ∨ force = true ∧ Replaceable t := by
    rcases init_cases force hdir with ⟨hwhen, t', hinit, _⟩ | ⟨hwhen, e, hinit⟩
    · exact iff_of_true (by rw [hinit]) hwhen
    · exact iff_of_false (by rw [hinit]; nofun) hwhen
  refine ⟨?_, ?_, ?_⟩
  · simpa using hiff false
  · simpa [Replaceable] using hiff true
  · intro force
    refine ⟨?_, ?_, exists_runs force t, ?_⟩
    · intro hok
      rcases init_cases force hdir with ⟨_, t', hinit, hwritten⟩ | ⟨_, e, hinit⟩
      · rw [hinit]
        exact hwritten
      · rw [hinit] at hok
        nomatch hok
    · intro hfail
      rcases init_cases force hdir with ⟨_, t', hinit, _⟩ | ⟨_, e, hinit⟩
      · rw [hinit] at hfail
        exact absurd rfl hfail
      · rw [hinit]
    · intro n r h
      exact ⟨h.le_two hdir, h.eq_init⟩

/-- A directory with an empty configuration file and a document. -/
def configured : FileTree := ⟨.dir [(fileName, .file .empty), ("a.md", .file .empty)], []⟩

theorem init_replaces_file_configured :
    configured.at? configured.cwd = some .dir ∧
    (init false configured).error ≠ none ∧ (init false configured).tree = configured ∧
    (init true configured).error = none ∧
    (init true configured).tree.at? [fileName] = some (.file defaultText.toUTF8) ∧
    (init true configured).tree.at? ["a.md"] = some (.file .empty) := by
  have hdir : configured.at? configured.cwd = some .dir := rfl
  have hold : configured.at? (place configured) = some (.file .empty) := rfl
  obtain ⟨hfalse, htrue, hleft⟩ := init_replaces_file hdir
  have hrefused : (init false configured).error ≠ none := by
    intro hok
    have hfree := hfalse.mp hok
    rw [hold] at hfree
    nomatch hfree
  have hforced : (init true configured).error = none := htrue.mpr (.inr (.inl ⟨_, hold⟩))
  have hchanges : configured.Changes [fileName] (some (.file defaultText.toUTF8)) (init true configured).tree :=
    (hleft true).1 hforced
  refine ⟨hdir, hrefused, (hleft false).2.1 hrefused, hforced, hchanges.at?_self, ?_⟩
  rw [hchanges.at?_of_ne (by decide)]
  rfl

end LineLimit.Command.Init

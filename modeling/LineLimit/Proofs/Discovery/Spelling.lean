import LineLimit.Proofs.Discovery.Filter
import LineLimit.Proofs.Glob.Escaped
import LineLimit.Proofs.Path.Rendered
/-!
Files that are named in several ways. A filter is asked about a file below the base directory by its names from
there, whichever way its path leads to it. A file outside is held against the filter as its path is spelled, and globs
tell any two spellings apart. A path that goes up after the base directory is left out of this.
-/

namespace LineLimit.Finder

open LineLimit.Path

/-- Of two paths discovery takes both or none. -/
def SameVerdict (f : Finder) (t : FileTree) (base p q : String) : Prop :=
  ∃ files others, f.discover t [p] base = .ok files ∧ f.discover t [q] base = .ok others ∧
    (files ≠ [] ↔ others ≠ [])

/-- A path that begins with the base directory does not go up after it. -/
def Straight (base p : String) : Prop :=
  ∀ rest, strip? (components base) (components p) = some rest → .up ∉ rest

variable {f : Finder} {t : FileTree} {base p q : String} {top place : Place} {data : ByteArray}
  {entries : List (String × Node)}

theorem sameVerdict_iff (hp : t.isFile p = true) (hq : t.isFile q = true) : SameVerdict f t base p q ↔
    f.ignores (relativeToBase t p base) = f.ignores (relativeToBase t q base) := by
  unfold SameVerdict
  rw [discover_file hp, discover_file hq]
  cases f.ignores (relativeToBase t p base) <;> cases f.ignores (relativeToBase t q base) <;> simp

/-- Some filter leaves out one text and keeps another one. -/
theorem exists_make_ignores {a b : String} (h : a ≠ b) :
    ∃ f, make [] [Glob.escape a] [] = .ok f ∧ f.ignores a = true ∧ f.ignores b = false := by
  have hglob := Glob.parse_escape a
  have hmake : ∃ f, make [] [Glob.escape a] [] = .ok f := by
    simp only [make, globs, Glob.parseAll, List.mapM_cons, List.mapM_nil, hglob]
    exact ⟨_, rfl⟩
  obtain ⟨f, hf⟩ := hmake
  have hignores : ∀ text, f.ignores text = false ↔ text ≠ a := by
    intro text
    rw [ignores_eq_false_iff hf, Kept]
    simp [hglob, ← Glob.isMatch_escape_iff hglob]
  exact ⟨f, hf, by simpa using (hignores a).mp.mt (not_not.mpr rfl), (hignores b).mpr h.symm⟩

theorem sameVerdict_forall_iff (hp : t.isFile p = true) (hq : t.isFile q = true) :
    (∀ included excluded extensions f, make included excluded extensions = .ok f → SameVerdict f t base p q) ↔
      relativeToBase t p base = relativeToBase t q base := by
  constructor
  · intro hall
    by_contra hne
    obtain ⟨f, hf, hleft, hkept⟩ := exists_make_ignores hne
    have hsame := (sameVerdict_iff hp hq).mp (hall [] _ [] f hf)
    rw [hleft, hkept] at hsame
    exact nomatch hsame
  · intro htext included excluded extensions f _
    rw [sameVerdict_iff hp hq, htext]

theorem resolve_of_find (ht : t.root.Plain) {found : Place × Node} (h : t.find p = .ok found) :
    t.resolve p = found.1 := by
  obtain ⟨place, hplace, hnode⟩ := of_bind_eq_ok h
  split at hnode
  · cases hnode
    exact (FileTree.locate_eq ht hplace).symm
  · exact nomatch hnode

theorem isFile_of_find (h : t.find p = .ok (place, .file data)) : t.isFile p = true := by
  rw [FileTree.isFile, h]

theorem isDir_of_find (h : t.find p = .ok (place, .dir entries)) : t.isDir p = true := by
  rw [FileTree.isDir, h]

theorem relativeToBase_below (ht : t.root.Plain) (hbase : t.find base = .ok (top, .dir entries))
    {names : Place} (hp : t.find p = .ok (top ++ names, .file data)) (hup : Straight base p) :
    relativeToBase t p base = nameText names := by
  have hplace : t.resolve p = t.resolve base ++ names := by
    rw [resolve_of_find ht hp, resolve_of_find ht hbase]
  exact relativeToBase_eq ht (isFile_of_find hp) (isDir_of_find hbase) hplace hup

theorem relativeToBase_outside (ht : t.root.Plain) (hbase : t.find base = .ok (top, .dir entries))
    (hp : t.find p = .ok (place, .file data)) (houtside : ¬ top <+: place) (hup : Straight base p) :
    relativeToBase t p base = render (withoutHere (components p)) := by
  have hplace : t.resolve p = place := resolve_of_find ht hp
  have htop : t.resolve base = top := resolve_of_find ht hbase
  have hne : components base ≠ [] := components_ne_nil (FileTree.ne_empty_of_find hbase)
  have hstrip : strip? (components base) (components p) = none := by
    refine Option.eq_none_iff_forall_ne_some.mpr fun rest hrest => ?_
    have hcomponents : components p = components base ++ rest := strip?_eq_some_iff.mp hrest
    obtain ⟨names, rfl⟩ := exists_names (fun c hc => step_of_mem_rest hcomponents hne hc) (hup rest hrest)
    have hbelow : t.resolve p = t.resolve base ++ names := resolve_of_components hcomponents
    rw [hplace, htop] at hbelow
    exact houtside ⟨names, hbelow.symm⟩
  have hcanonical : strip? (.root :: top.map .name) (.root :: place.map .name) = none := by
    refine Option.eq_none_iff_forall_ne_some.mpr fun rest hrest => houtside ?_
    have hnames := (List.cons.inj (strip?_eq_some_iff.mp hrest)).2
    have hprefix : top.map Component.name <+: place.map Component.name := ⟨rest, hnames.symm⟩
    exact (List.prefix_map_iff_of_injective fun _ _ => Component.name.inj).mp hprefix
  have hfile := FileTree.canonical?_eq ht hp
  have hdir := FileTree.canonical?_eq ht hbase
  rw [hplace] at hfile
  rw [htop] at hdir
  simp only [relativeToBase, hstrip, hfile, hdir, hcanonical, Option.getD_none]

/-- Every filter gives two straight paths of a file one verdict exactly when the file is below the base directory, or
when they are the same path but for dots at the start. -/
theorem sameVerdict_respelled_iff (ht : t.root.Plain) (hbase : t.find base = .ok (top, .dir entries))
    (hp : t.find p = .ok (place, .file data)) (hq : t.find q = .ok (place, .file data))
    (hsp : Straight base p) (hsq : Straight base q) :
    (∀ included excluded extensions f, make included excluded extensions = .ok f → SameVerdict f t base p q) ↔
      top <+: place ∨ withoutHere (components p) = withoutHere (components q) := by
  rw [sameVerdict_forall_iff (isFile_of_find hp) (isFile_of_find hq)]
  by_cases hbelow : top <+: place
  · obtain ⟨names, rfl⟩ := hbelow
    have htext : relativeToBase t p base = relativeToBase t q base := by
      rw [relativeToBase_below ht hbase hp hsp, relativeToBase_below ht hbase hq hsq]
    exact iff_of_true htext (.inl (List.prefix_append top names))
  · rw [relativeToBase_outside ht hbase hp hbelow hsp, relativeToBase_outside ht hbase hq hbelow hsq]
    constructor
    · intro htext
      exact .inr (render_withoutHere_inj htext)
    · rintro (h | h)
      · exact absurd h hbelow
      · rw [h]

theorem straight_of_no_up (h : .up ∉ components p) : Straight base p := by
  intro rest hrest hup
  have hcomponents : components p = components base ++ rest := strip?_eq_some_iff.mp hrest
  exact h (hcomponents ▸ List.mem_append_right (components base) hup)

theorem find_first : twoDocuments.find "b.md" = .ok (["b.md"], .file .empty) := by
  have hlocate : twoDocuments.locate "b.md" true = .ok ["b.md"] :=
    FileTree.locate_name rfl (by constructor <;> decide) (by decide) (by decide) rfl (by nofun) true
  exact FileTree.find_of_locate hlocate rfl

theorem find_first_from_root : twoDocuments.find "/b.md" = .ok (["b.md"], .file .empty) := by
  have hsteps : FileTree.steps "/b.md" = [.down "b.md"] := by decide +kernel
  have hlocate : twoDocuments.locate "/b.md" true = .ok ["b.md"] := by
    refine FileTree.locate_of_walk (by decide) (by decide) (by decide) hsteps ?_
    simp +decide [FileTree.walk, twoDocuments, Node.get?, Node.child?]
  exact FileTree.find_of_locate hlocate rfl

/-- From the directory of the document it does not matter which of its paths is given. -/
theorem sameVerdict_respelled_from_root :
    twoDocuments.find "." = .ok ([], twoDocuments.root) ∧
    twoDocuments.find "b.md" = .ok (["b.md"], .file .empty) ∧
    twoDocuments.find "/b.md" = .ok (["b.md"], .file .empty) ∧
    ∀ included excluded extensions f, make included excluded extensions = .ok f →
      SameVerdict f twoDocuments "." "b.md" "/b.md" := by
  have hhere : twoDocuments.find "." = .ok ([], twoDocuments.root) :=
    FileTree.find_of_locate (locate_here_twoDocuments true) rfl
  have hverdict := sameVerdict_respelled_iff plain_twoDocuments hhere find_first find_first_from_root
    (straight_of_no_up (by decide)) (straight_of_no_up (by decide))
  exact ⟨hhere, find_first, find_first_from_root, hverdict.mpr (.inl List.nil_prefix)⟩

def withoutFirst : Finder where
  included := none
  excluded := some [⟨"b.md", [.literal 'b', .literal '.', .literal 'm', .literal 'd']⟩]
  extensions := ["md"]

/-- From another directory it does: the filter leaves out the document by one path and not by the other. -/
theorem verdict_depends_on_spelling :
    twoDocuments.root.Plain ∧ twoDocuments.isDir "docs" = true ∧
    twoDocuments.find "b.md" = .ok (["b.md"], .file .empty) ∧
    twoDocuments.find "/b.md" = .ok (["b.md"], .file .empty) ∧
    make [] ["b.md"] ["md"] = .ok withoutFirst ∧
    withoutFirst.discover twoDocuments ["b.md"] "docs" = .ok [] ∧
    withoutFirst.discover twoDocuments ["/b.md"] "docs" = .ok ["/b.md"] := by
  have hdocs : twoDocuments.find "docs" = .ok (["docs"], .dir [("a.md", .file .empty)]) := by
    have hlocate : twoDocuments.locate "docs" true = .ok ["docs"] :=
      FileTree.locate_name rfl (by constructor <;> decide) (by decide) (by decide) rfl (by nofun) true
    exact FileTree.find_of_locate hlocate rfl
  have houtside : ¬ ["docs"] <+: ["b.md"] := by decide
  have hname := relativeToBase_outside plain_twoDocuments hdocs find_first houtside (straight_of_no_up (by decide))
  have hpath := relativeToBase_outside plain_twoDocuments hdocs find_first_from_root houtside
    (straight_of_no_up (by decide))
  have hleft : withoutFirst.ignores (render (withoutHere (components "b.md"))) = true := by decide +kernel
  have hkept : withoutFirst.ignores (render (withoutHere (components "/b.md"))) = false := by decide +kernel
  refine ⟨plain_twoDocuments, isDir_of_find hdocs, find_first, find_first_from_root, rfl, ?_, ?_⟩
  · rw [discover_file (isFile_of_find find_first), hname, hleft]
    rfl
  · rw [discover_file (isFile_of_find find_first_from_root), hpath, hkept]
    rfl

end LineLimit.Finder

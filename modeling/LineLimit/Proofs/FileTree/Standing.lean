import LineLimit.FileTree
import Mathlib.Logic.Function.Basic
/-!
A tree of files as what stands at each place. Writing a file where nothing stands and removing one that stands there change
what stands at that place and nowhere else.
-/

namespace LineLimit

/-- What stands at a place by itself. What is in a directory stands at the places below it. -/
inductive Standing
  | file (data : ByteArray)
  | dir
  | link (target : String)

namespace Node

def standing : Node → Standing
  | .file data => .file data
  | .dir _ => .dir
  | .link target => .link target

def standing? (n : Node) (place : Place) : Option Standing := (n.get? place).map standing

variable {n : Node} {entries : List (String × Node)} {name m : String} {place rest : Place}

theorem standing?_nil : n.standing? [] = some n.standing := by
  rw [standing?, get?, Option.map_some]

theorem standing?_cons : (Node.dir entries).standing? (name :: rest) =
    (child? name entries).bind (standing? · rest) := by
  rw [standing?, get?, Option.map_bind]
  rfl

theorem standing?_cons_of_ne_dir (h : n.standing ≠ .dir) : n.standing? (name :: rest) = none := by
  cases n with
  | file data => simp [standing?, get?]
  | link target => simp [standing?, get?]
  | dir entries => exact absurd rfl h

theorem exists_entries (h : n.standing = .dir) : ∃ entries, n = .dir entries := by
  cases n with
  | dir entries => exact ⟨entries, rfl⟩
  | file data => nomatch h
  | link target => nomatch h

theorem exists_entries_of_cons {s : Standing} (h : n.standing? (name :: rest) = some s) :
    ∃ entries, n = .dir entries := by
  apply exists_entries
  by_contra hne
  rw [standing?_cons_of_ne_dir hne] at h
  nomatch h

/-- Nothing stands below what is no directory. -/
theorem standing?_below (h : n.standing? place ≠ some .dir) (hne : rest ≠ []) :
    n.standing? (place ++ rest) = none := by
  induction place generalizing n with
  | nil =>
      rw [standing?_nil, ne_eq, Option.some.injEq] at h
      obtain ⟨name, below, rfl⟩ := List.exists_cons_of_ne_nil hne
      exact standing?_cons_of_ne_dir h
  | cons name place ih =>
      cases n with
      | file data => exact standing?_cons_of_ne_dir nofun
      | link target => exact standing?_cons_of_ne_dir nofun
      | dir entries =>
          rw [List.cons_append, standing?_cons]
          rw [standing?_cons] at h
          cases hchild : child? name entries with
          | none => rfl
          | some inner =>
              rw [hchild] at h
              exact ih h

theorem standing?_setEntry (new : Node) : (Node.dir (setEntry name new entries)).standing? (m :: rest) =
    if m = name then new.standing? rest else (Node.dir entries).standing? (m :: rest) := by
  rw [standing?_cons, standing?_cons, child?_setEntry]
  split <;> rfl

theorem standing?_filter : (Node.dir (entries.filter (·.1 != name))).standing? (m :: rest) =
    if m = name then none else (Node.dir entries).standing? (m :: rest) := by
  rw [standing?_cons, standing?_cons, child?_filter]
  split <;> rfl

/-- Erasing what is no directory leaves all other places as they are. -/
theorem standing?_erase {s : Standing} (hne : place ≠ []) (hs : n.standing? place = some s) (hleaf : s ≠ .dir)
    (other : Place) : (n.erase place).standing? other = if other = place then none else n.standing? other := by
  -- Down to the last name a directory is replaced by itself with one entry changed. There the entry goes.
  induction place generalizing n other with
  | nil => exact absurd rfl hne
  | cons name below ih =>
      obtain ⟨entries, rfl⟩ := exists_entries_of_cons hs
      obtain ⟨inner, hchild, hinner⟩ := Option.bind_eq_some_iff.mp (standing?_cons.symm.trans hs)
      cases below with
      | nil =>
          rw [erase]
          cases other with
          | nil => rfl
          | cons m rest =>
              rw [standing?_filter]
              by_cases hm : m = name
              · subst hm
                cases rest with
                | nil => rw [if_pos rfl, if_pos rfl]
                | cons first rest =>
                    have hbelow : (Node.dir entries).standing? ([m] ++ first :: rest) = none :=
                      standing?_below (by rw [hs]; simpa using hleaf) (List.cons_ne_nil first rest)
                    rw [if_pos rfl, if_neg (by simp)]
                    exact hbelow.symm
              · rw [if_neg hm, if_neg (by simp [hm])]
      | cons next below =>
          have herase : (Node.dir entries).erase (name :: next :: below) =
              .dir (setEntry name (inner.erase (next :: below)) entries) := by
            simp only [erase, hchild]
          rw [herase]
          cases other with
          | nil => rfl
          | cons m rest =>
              rw [standing?_setEntry]
              by_cases hm : m = name
              · subst hm
                rw [if_pos rfl, ih (List.cons_ne_nil next below) hinner, standing?_cons, hchild]
                simp
              · rw [if_neg hm, if_neg (by simp [hm])]

/-- Writing a file where nothing stands leaves all other places as they are. -/
theorem standing?_set {above : Place} (data : ByteArray) (hdir : n.standing? above = some .dir)
    (hfree : n.standing? (above ++ [name]) = none) (other : Place) :
    (set (.file data) n (above ++ [name])).standing? other =
      if other = above ++ [name] then some (.file data) else n.standing? other := by
  induction above generalizing n other with
  | nil =>
      rw [standing?_nil, Option.some.injEq] at hdir
      obtain ⟨entries, rfl⟩ := exists_entries hdir
      rw [List.nil_append, set, set]
      cases other with
      | nil => rfl
      | cons m rest =>
          rw [standing?_setEntry]
          by_cases hm : m = name
          · subst hm
            cases rest with
            | nil =>
                rw [if_pos rfl, if_pos rfl]
                rfl
            | cons first rest =>
                have hbelow : (Node.dir entries).standing? ([m] ++ first :: rest) = none :=
                  standing?_below (by rw [← List.nil_append [m], hfree]; simp) (List.cons_ne_nil first rest)
                have hfile : (Node.file data).standing? (first :: rest) = none := standing?_cons_of_ne_dir nofun
                rw [if_pos rfl, if_neg (by simp), hfile]
                exact hbelow.symm
          · rw [if_neg hm, if_neg (by simp [hm])]
  | cons first above ih =>
      obtain ⟨entries, rfl⟩ := exists_entries_of_cons hdir
      obtain ⟨inner, hchild, hinner⟩ := Option.bind_eq_some_iff.mp (standing?_cons.symm.trans hdir)
      have hfree' : inner.standing? (above ++ [name]) = none := by
        rw [List.cons_append, standing?_cons, hchild] at hfree
        exact hfree
      rw [List.cons_append, set, hchild, Option.getD_some]
      cases other with
      | nil => rfl
      | cons m rest =>
          rw [standing?_setEntry]
          by_cases hm : m = first
          · subst hm
            rw [if_pos rfl, ih hinner hfree', standing?_cons, hchild]
            simp
          · rw [if_neg hm, if_neg (by simp [hm])]

end Node

namespace FileTree

def at? (t : FileTree) (place : Place) : Option Standing := t.root.standing? place

/-- A tree that differs from another one in what stands at one place, and in nothing else. -/
structure Changes (t : FileTree) (place : Place) (s : Option Standing) (t' : FileTree) : Prop where
  cwd : t'.cwd = t.cwd
  at? : t'.at? = Function.update t.at? place s

variable {t t' t'' : FileTree} {place : Place} {name : String} {s s' : Option Standing}

theorem Changes.trans (h : t.Changes place s t') (h' : t'.Changes place s' t'') : t.Changes place s' t'' := by
  refine ⟨h'.cwd.trans h.cwd, ?_⟩
  rw [h'.at?, h.at?, Function.update_idem]

theorem Changes.placeOf (h : t.Changes place s t') : t'.placeOf name = t.placeOf name := by
  rw [FileTree.placeOf, h.cwd, FileTree.placeOf]

theorem Changes.at?_self (h : t.Changes place s t') : t'.at? place = s := by
  rw [h.at?, Function.update_self]

theorem Changes.at?_of_ne (h : t.Changes place s t') {other : Place} (hne : other ≠ place) :
    t'.at? other = t.at? other := by
  rw [h.at?, Function.update_of_ne hne]

theorem cwd_ne_placeOf : t.cwd ≠ t.placeOf name := by
  simp [FileTree.placeOf]

theorem Changes.at?_cwd (h : t.Changes (t.placeOf name) s t') : t'.at? t'.cwd = t.at? t.cwd := by
  rw [h.cwd, h.at?_of_ne cwd_ne_placeOf]

theorem createNew_of_free (data : ByteArray) (hdir : t.at? t.cwd = some .dir) (hfree : t.at? (t.placeOf name) = none) :
    ∃ t', t.createNew name data = .ok t' ∧ t.Changes (t.placeOf name) (some (.file data)) t' := by
  have hcreate : t.createNew name data = .ok { t with root := Node.set (.file data) t.root (t.placeOf name) } := by
    rw [createNew, Option.map_eq_none_iff.mp hfree]
  refine ⟨_, hcreate, rfl, ?_⟩
  funext other
  rw [Function.update_apply]
  exact Node.standing?_set data hdir hfree other

theorem createNew_of_taken (data : ByteArray) {held : Standing} (h : t.at? (t.placeOf name) = some held) :
    t.createNew name data = .error .alreadyExists := by
  obtain ⟨n, hn, _⟩ := Option.map_eq_some_iff.mp h
  rw [createNew, hn]

theorem removeFile_of_dir (h : t.at? (t.placeOf name) = some .dir) : t.removeFile name = .error .isADirectory := by
  obtain ⟨n, hn, hdir⟩ := Option.map_eq_some_iff.mp h
  obtain ⟨entries, rfl⟩ := Node.exists_entries hdir
  rw [removeFile, hn]

theorem removeFile_of_leaf {held : Standing} (h : t.at? (t.placeOf name) = some held) (hleaf : held ≠ .dir) :
    ∃ t', t.removeFile name = .ok t' ∧ t.Changes (t.placeOf name) none t' := by
  have hremove : t.removeFile name = .ok { t with root := t.root.erase (t.placeOf name) } := by
    obtain ⟨n, hn, rfl⟩ := Option.map_eq_some_iff.mp h
    rw [removeFile, hn]
    cases n with
    | file data => rfl
    | link target => rfl
    | dir entries => exact absurd rfl hleaf
  refine ⟨_, hremove, rfl, ?_⟩
  funext other
  rw [Function.update_apply]
  exact Node.standing?_erase (t.placeOf_ne_nil name) h hleaf other

end FileTree

end LineLimit

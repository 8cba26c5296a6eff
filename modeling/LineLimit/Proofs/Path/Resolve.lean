import LineLimit.FileTree
import LineLimit.Proofs.Outcome
import LineLimit.Proofs.Path.Components
/-!
Where paths lead. A path is resolved by its text alone when dots are taken out of it and nothing is looked up. In a
tree of files and directories, which holds no links, this is the place that looking up the path gives. Names
lead on from the place of a directory, and files below a directory are named by proper names.
-/

namespace LineLimit

namespace Path

/-- The place after one more component. Nothing is above the root. -/
def Component.follow (place : Place) : Component → Place
  | .root => []
  | .here => place
  | .up => place.dropLast
  | .name s => place ++ [s]

/-- The place that a path names from a directory, by its text alone. -/
def resolve (cwd : Place) (p : String) : Place := (components p).foldl Component.follow cwd

theorem foldl_follow_names (place : Place) (names : List String) :
    (names.map Component.name).foldl Component.follow place = place ++ names := by
  induction names generalizing place with
  | nil => exact (List.append_nil place).symm
  | cons s names ih => rw [List.map_cons, List.foldl_cons, ih, Component.follow, List.append_assoc]; rfl

theorem resolve_congr {cwd : Place} {p q : String} (h : components p = components q) :
    resolve cwd p = resolve cwd q := by
  rw [resolve, h, resolve]

theorem resolve_of_components {cwd : Place} {p q : String} {names : List String}
    (h : components q = components p ++ names.map .name) : resolve cwd q = resolve cwd p ++ names := by
  rw [resolve, h, List.foldl_append, foldl_follow_names, resolve]

end Path

mutual

/-- A node that holds files and directories only, whose entries have different proper names. -/
def Node.Plain : Node → Prop
  | .file _ => True
  | .link _ => False
  | .dir entries => (entries.map (·.1)).Nodup ∧ Node.PlainEntries entries

def Node.PlainEntries : List (String × Node) → Prop
  | [] => True
  | (name, n) :: rest => Path.IsName name ∧ n.Plain ∧ Node.PlainEntries rest

end

namespace Node

theorem PlainEntries.of_mem {name : String} {n : Node} {entries : List (String × Node)}
    (h : PlainEntries entries) (hm : (name, n) ∈ entries) : n.Plain := by
  induction entries with
  | nil => exact nomatch hm
  | cons first rest ih =>
      rcases List.mem_cons.mp hm with rfl | hm
      · exact h.2.1
      · exact ih h.2.2 hm

theorem PlainEntries.child {name : String} {n : Node} {entries : List (String × Node)}
    (h : PlainEntries entries) (hc : child? name entries = some n) : n.Plain := by
  obtain ⟨entry, hfind, rfl⟩ := Option.map_eq_some_iff.mp hc
  exact h.of_mem (List.mem_of_find?_eq_some hfind)

theorem Plain.get? {n m : Node} {place : Place} (h : n.Plain) (hm : n.get? place = some m) : m.Plain := by
  induction place generalizing n with
  | nil =>
      simp only [Node.get?, Option.some.injEq] at hm
      exact hm ▸ h
  | cons name rest ih =>
      cases n with
      | file data => cases hm
      | link target => exact h.elim
      | dir entries =>
          obtain ⟨child, hchild, hget⟩ := Option.bind_eq_some_iff.mp hm
          exact ih (h.2.child hchild) hget

mutual

theorem isName_of_mem_files : (n : Node) → n.Plain → ∀ names ∈ n.files, ∀ s ∈ names, Path.IsName s
  | .file _, _, names, hn, s, hs => by
      rw [files, List.mem_singleton] at hn
      subst hn
      exact nomatch hs
  | .link _, h, _, _, _, _ => h.elim
  | .dir entries, h, names, hn, s, hs =>
      isName_of_mem_filesOf entries h.2 names (by rwa [files] at hn) s hs

theorem isName_of_mem_filesOf : (entries : List (String × Node)) → PlainEntries entries →
    ∀ names ∈ filesOf entries, ∀ s ∈ names, Path.IsName s
  | [], _, _, hn, _, _ => nomatch hn
  | (name, n) :: rest, h, names, hn, s, hs => by
      rw [filesOf, List.mem_append] at hn
      rcases hn with hn | hn
      · obtain ⟨below, hbelow, rfl⟩ := List.mem_map.mp hn
        rcases List.mem_cons.mp hs with rfl | hs
        · exact h.1
        · exact isName_of_mem_files n h.2.1 below hbelow s hs
      · exact isName_of_mem_filesOf rest h.2.2 names hn s hs

end

end Node

namespace FileTree

def resolve (t : FileTree) (p : String) : Place := Path.resolve t.cwd p

def Step.follow (place : Place) : Step → Place
  | .stay => place
  | .up => place.dropLast
  | .down name => place ++ [name]

def followPart (place : Place) (s : String) : Place :=
  if s = "" ∨ s = "." then place else if s = ".." then place.dropLast else place ++ [s]

theorem no_link {root : Node} (hroot : root.Plain) {place : Place} {entries : List (String × Node)}
    {name target : String} (hdir : root.get? place = some (.dir entries))
    (hc : Node.child? name entries = some (.link target)) : False :=
  (hroot.get? hdir).2.child hc

/-- Without links, looking up steps only goes from place to place as the steps say. -/
theorem walk_eq {root : Node} (hroot : root.Plain) {follow : Bool} {links : Nat} {place found : Place}
    {todo : List Step} (h : walk root follow links place todo = .ok found) :
    found = todo.foldl Step.follow place := by
  fun_induction walk root follow links place todo with
  | case1 =>
      cases h
      rfl
  | case2 _ _ _ _ _ ih => exact ih h
  | case3 _ _ _ _ _ ih => exact ih h
  | case4 => exact nomatch h
  | case5 => exact nomatch h
  | case6 _ _ _ _ hdir _ _ _ hc => exact (no_link hroot hdir hc).elim
  | case7 => exact nomatch h
  | case8 => exact nomatch h
  | case9 _ _ _ hdir _ _ _ hc => exact (no_link hroot hdir hc).elim
  | case10 _ _ _ _ _ _ _ _ _ _ ih => exact ih h
  | case11 => exact nomatch h
  | case12 => exact nomatch h

/-- Dots and empty parts lead nowhere: a path can be followed part by part. -/
theorem resolve_eq_foldl (cwd : Place) (p : String) :
    Path.resolve cwd p = (Path.parts p).foldl followPart (if Path.isAbsolute p then [] else cwd) := by
  have hlead : (Path.lead (Path.isAbsolute p) (Path.parts p).head?).foldl Path.Component.follow cwd =
      if Path.isAbsolute p then [] else cwd := by
    unfold Path.lead
    split
    · rfl
    · split <;> rfl
  rw [Path.resolve, Path.components_eq, List.foldl_append, hlead, List.foldl_filterMap]
  congr 1
  funext place s
  by_cases hnone : s = "" ∨ s = "."
  · simp only [Path.Component.ofPart?, followPart, if_pos hnone]
  by_cases hup : s = ".."
  · simp only [Path.Component.ofPart?, followPart, if_neg hnone, if_pos hup, Path.Component.follow]
  · simp only [Path.Component.ofPart?, followPart, if_neg hnone, if_neg hup, Path.Component.follow]

/-- The steps of a path lead where its parts do. A step that asks for a directory stays where it is. -/
theorem foldl_steps (place : Place) (p : String) :
    (steps p).foldl Step.follow place = (Path.parts p).foldl followPart place := by
  have hfst : (Path.parts p).foldl followPart place =
      (Path.parts p).zipIdx.foldl (fun place part => followPart place part.1) place := by
    rw [← List.foldl_map (f := Prod.fst), List.zipIdx_map_fst]
  rw [hfst, steps, List.foldl_filterMap]
  congr 1
  funext place part
  obtain ⟨s, i⟩ := part
  by_cases hempty : s = ""
  · simp only [followPart, if_pos hempty, if_pos (Or.inl hempty)]
    split
    · next hlast =>
        split at hlast <;> cases hlast
        rfl
    · rfl
  by_cases hhere : s = "."
  · simp only [followPart, if_neg hempty, if_pos hhere, if_pos (Or.inr hhere), Step.follow]
  by_cases hup : s = ".."
  · simp only [followPart, if_neg hempty, if_neg hhere, if_neg (not_or_intro hempty hhere), if_pos hup, Step.follow]
  · simp only [followPart, if_neg hempty, if_neg hhere, if_neg (not_or_intro hempty hhere), if_neg hup, Step.follow]

/-- In a plain tree, what a path names is where its text leads. -/
theorem locate_eq {t : FileTree} (ht : t.root.Plain) {p : String} {follow : Bool} {place : Place}
    (h : t.locate p follow = .ok place) : place = t.resolve p := by
  unfold locate at h
  split at h
  · exact nomatch h
  split at h
  · exact nomatch h
  split at h
  · exact nomatch h
  rw [walk_eq ht h, foldl_steps, resolve, resolve_eq_foldl]

theorem locate_of_walk {t : FileTree} {p : String} {follow : Bool} {todo : List Step} {found : Except FileError Place}
    (hnul : p.toList.contains (Char.ofNat 0) = false) (hne : p ≠ "") (hsize : p.utf8ByteSize ≤ maxPath)
    (hsteps : steps p = todo)
    (hwalk : walk t.root follow maxLinks (if Path.isAbsolute p then [] else t.cwd) todo = found) :
    t.locate p follow = found := by
  rw [locate, if_neg (Bool.eq_false_iff.mp hnul), if_neg hne, if_neg (Nat.not_lt.mpr hsize), hsteps, hwalk]

theorem locate_here {t : FileTree} {entries : List (String × Node)} (h : t.root.get? t.cwd = some (.dir entries))
    (follow : Bool) : t.locate "." follow = .ok t.cwd := by
  have hsteps : steps "." = [.stay] := by decide +kernel
  have habs : Path.isAbsolute "." = false := by decide
  refine locate_of_walk (by decide) (by decide) (by decide) hsteps ?_
  rw [habs]
  simp [walk, h]

theorem locate_name {t : FileTree} {entries : List (String × Node)} {s : String} {n : Node}
    (h : t.root.get? t.cwd = some (.dir entries)) (hs : Path.IsName s)
    (hnul : s.toList.contains (Char.ofNat 0) = false) (hsize : s.utf8ByteSize ≤ maxName)
    (hchild : Node.child? s entries = some n) (hn : ∀ target, n ≠ .link target) (follow : Bool) :
    t.locate s follow = .ok (t.cwd ++ [s]) := by
  have hslash : ∀ s' ∈ [s], '/' ∉ s'.toList := fun s' hs' => List.mem_singleton.mp hs' ▸ hs.no_slash
  have hempty : "" ∉ [s] := fun hs' => hs.nonempty (List.mem_singleton.mp hs').symm
  have htext : Path.nameText [s] = s := String.intercalate_singleton
  have hparts : Path.parts s = [s] := htext ▸ Path.parts_nameText hslash (List.cons_ne_nil s [])
  have habs : Path.isAbsolute s = false := htext ▸ Path.isAbsolute_nameText hslash hempty
  have hsteps : steps s = [.down s] := by
    simp [steps, hparts, hs.nonempty, hs.not_here, hs.not_up]
  have hpath : s.utf8ByteSize ≤ maxPath := by
    unfold maxPath
    unfold maxName at hsize
    omega
  refine locate_of_walk hnul hs.nonempty hpath hsteps ?_
  rw [habs]
  cases n with
  | file data => simp [walk, h, hchild, Nat.not_lt.mpr hsize]
  | dir below => simp [walk, h, hchild, Nat.not_lt.mpr hsize]
  | link target => exact absurd rfl (hn target)

theorem find_of_locate {t : FileTree} {p : String} {place : Place} {n : Node} (h : t.locate p true = .ok place)
    (hget : t.root.get? place = some n) : t.find p = .ok (place, n) := by
  rw [find, h]
  simp only [bind, Except.bind, hget]
  rfl

theorem isFile_of_locate {t : FileTree} {p : String} {place : Place} {data : ByteArray}
    (h : t.locate p true = .ok place) (hget : t.root.get? place = some (.file data)) : t.isFile p = true := by
  rw [isFile, find_of_locate h hget]

theorem isDir_of_locate {t : FileTree} {p : String} {place : Place} {entries : List (String × Node)}
    (h : t.locate p true = .ok place) (hget : t.root.get? place = some (.dir entries)) : t.isDir p = true := by
  rw [isDir, find_of_locate h hget]

theorem not_isFile_of_locate {t : FileTree} {p : String} {e : FileError} (h : t.locate p true = .error e) :
    t.isFile p = false := by
  rw [isFile, find, h]
  rfl

theorem not_isDir_of_locate {t : FileTree} {p : String} {e : FileError} (h : t.locate p true = .error e) :
    t.isDir p = false := by
  rw [isDir, find, h]
  rfl

theorem filesBelow_of_locate {t : FileTree} {p : String} {place : Place} {entries : List (String × Node)}
    (h : t.locate p false = .ok place) (hget : t.root.get? place = some (.dir entries)) :
    t.filesBelow p = Node.filesOf entries := by
  have hfind : t.findLink p = .ok (.dir entries) := by
    rw [findLink, h]
    simp only [bind, Except.bind, hget]
    rfl
  rw [filesBelow, hfind]
  exact Node.files.eq_def (.dir entries)

theorem exists_find {t : FileTree} {p : String} (h : t.isFile p = true ∨ t.isDir p = true) :
    ∃ found, t.find p = .ok found := by
  cases hfind : t.find p with
  | ok found => exact ⟨found, rfl⟩
  | error e =>
      rw [isFile, isDir, hfind] at h
      rcases h with h | h
      · exact nomatch h
      · exact nomatch h

theorem isFile_eq_false_of_isDir {t : FileTree} {p : String} (h : t.isDir p = true) : t.isFile p = false := by
  unfold isDir at h
  unfold isFile
  split at h
  · next hfind => rw [hfind]
  · exact nomatch h

theorem canonical?_eq {t : FileTree} (ht : t.root.Plain) {p : String} {found : Place × Node}
    (h : t.find p = .ok found) : t.canonical? p = some (.root :: (t.resolve p).map .name) := by
  obtain ⟨place, hplace, _⟩ := of_bind_eq_ok h
  rw [canonical?, hplace, ← locate_eq ht hplace]

theorem ne_empty_of_find {t : FileTree} {p : String} {found : Place × Node} (h : t.find p = .ok found) : p ≠ "" := by
  rintro rfl
  obtain ⟨place, hplace, _⟩ := of_bind_eq_ok h
  exact nomatch hplace

theorem plain_of_findLink {t : FileTree} (ht : t.root.Plain) {p : String} {n : Node}
    (h : t.findLink p = .ok n) : n.Plain := by
  obtain ⟨place, _, hget⟩ := of_bind_eq_ok h
  split at hget
  · next hn =>
      cases hget
      exact ht.get? hn
  · exact nomatch hget

theorem isName_of_mem_filesBelow {t : FileTree} (ht : t.root.Plain) {p : String} {names : Place}
    (h : names ∈ t.filesBelow p) : ∀ s ∈ names, Path.IsName s := by
  unfold filesBelow at h
  split at h
  · next hlink => exact (plain_of_findLink ht hlink).elim
  · next n _ hn => exact n.isName_of_mem_files (plain_of_findLink ht hn) names h
  · exact nomatch h

end FileTree

end LineLimit

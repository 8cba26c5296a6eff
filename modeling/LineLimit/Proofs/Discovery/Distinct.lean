import LineLimit.Proofs.Discovery.Found
import LineLimit.Proofs.Linter.Files
import Mathlib.Data.Finset.Card
/-!
Whether files are found once. Discovery merges paths with the same components and not paths to the same place, so a
file is found once for every list of components that ways to it have.
-/

namespace LineLimit.Finder

open LineLimit.Path

/-- Ways that are taken to one file have the same components. -/
def SpelledAlike (f : Finder) (t : FileTree) (patterns : List String) (base : String) : Prop :=
  ∀ v w, Takes f t patterns base v → Takes f t patterns base w → v.place t = w.place t → v.trail = w.trail

variable {f : Finder} {t : FileTree} {patterns files : List String} {base : String}

/-- Ways from roots that begin alike and go on with names only are spelled alike. -/
theorem spelledAlike_of_start (start : List Component)
    (h : ∀ w, Takes f t patterns base w → ∃ names : Place, components w.root = start ++ names.map .name) :
    SpelledAlike f t patterns base := by
  intro v w hv hw hplace
  obtain ⟨namesV, hnamesV⟩ := h v hv
  obtain ⟨namesW, hnamesW⟩ := h w hw
  have hresolve : ∀ {p : String} {names : List String}, components p = start ++ names.map .name →
      t.resolve p = start.foldl Component.follow t.cwd ++ names := by
    intro p names hp
    rw [FileTree.resolve, Path.resolve, hp, List.foldl_append, foldl_follow_names]
  rw [Way.place, Way.place, hresolve hnamesV, hresolve hnamesW, List.append_assoc, List.append_assoc] at hplace
  have hnames : namesV ++ v.names = namesW ++ w.names := List.append_cancel_left hplace
  rw [Way.trail, Way.trail, hnamesV, hnamesW, List.append_assoc, List.append_assoc, ← List.map_append,
    ← List.map_append, hnames]

/-- Found paths lead to different places exactly when ways to one file are spelled alike. -/
theorem nodup_places_iff (ht : t.root.Plain) (h : f.discover t patterns base = .ok files) :
    (files.map t.resolve).Nodup ↔ SpelledAlike f t patterns base := by
  obtain ⟨hasc, hsound, hcomplete⟩ := discover_spec h
  constructor
  · intro hnodup v w hv hw hplace
    obtain ⟨p, hp, hcomponentsV⟩ := hcomplete v hv
    obtain ⟨q, hq, hcomponentsW⟩ := hcomplete w hw
    have hresolve : t.resolve p = t.resolve q := by
      calc t.resolve p = t.resolve v.path := (resolve_congr hcomponentsV).symm
        _ = v.place t := hv.resolve_path ht
        _ = w.place t := hplace
        _ = t.resolve w.path := (hw.resolve_path ht).symm
        _ = t.resolve q := resolve_congr hcomponentsW
    have hpq : p = q := List.inj_on_of_nodup_map hnodup hp hq hresolve
    calc v.trail = components v.path := (hv.components_path ht).symm
      _ = components p := hcomponentsV
      _ = components q := by rw [hpq]
      _ = components w.path := hcomponentsW.symm
      _ = w.trail := hw.components_path ht
  · intro halike
    refine List.pairwise_map.mpr (hasc.imp_of_mem fun {p q} hp hq hlt hresolve => ?_)
    obtain ⟨v, hv, rfl⟩ := hsound p hp
    obtain ⟨w, hw, rfl⟩ := hsound q hq
    rw [hv.resolve_path ht, hw.resolve_path ht] at hresolve
    apply hlt.ne
    rw [hv.components_path ht, hw.components_path ht, halike v w hv hw hresolve]

/-- Discovery finds every file once exactly when ways to one file are spelled alike. A linter then reports each
file at most once and counts different files. It always reports a found path or fails on it, and does so once. -/
theorem discover_distinct_iff (ht : t.root.Plain) (h : f.discover t patterns base = .ok files) :
    ((files.map t.resolve).Nodup ↔ SpelledAlike f t patterns base) ∧
    ∀ l : Linter, l.finder = f → l.baseDir.getD "." = base →
      ∃ out, l.lintPatterns t patterns = .ok out ∧
        (out.reports.map (·.path) ++ out.failures.map (·.1)).Perm files ∧
        (SpelledAlike f t patterns base →
          (out.reports.map fun r => t.resolve r.path).Nodup ∧
          (Summary.ofReports out.reports).files =
            (out.reports.map fun r => t.resolve r.path).toFinset.card) := by
  refine ⟨nodup_places_iff ht h, fun l hfinder hbase => ?_⟩
  have hlint : l.lintPatterns t patterns = .ok (l.lintFiles t files) := by
    rw [Linter.lintPatterns, hfinder, hbase, h]
    rfl
  refine ⟨l.lintFiles t files, hlint, l.perm_lintFiles t files, fun halike => ?_⟩
  have hplaces : ((l.lintFiles t files).reports.map fun r => t.resolve r.path) =
      ((l.lintFiles t files).reports.map (·.path)).map t.resolve := by
    rw [List.map_map]
    rfl
  have hnodup : ((l.lintFiles t files).reports.map fun r => t.resolve r.path).Nodup := by
    rw [hplaces]
    exact ((l.sublist_reports t files).map t.resolve).nodup ((nodup_places_iff ht h).mpr halike)
  refine ⟨hnodup, ?_⟩
  rw [List.toFinset_card_of_nodup hnodup, List.length_map]
  rfl

def oneDocument : FileTree := ⟨.dir [("a.md", .file .empty)], []⟩

def allDocuments : Finder where
  included := none
  excluded := none
  extensions := ["md"]

theorem plain_oneDocument : oneDocument.root.Plain := by
  have hname : IsName "a.md" := by constructor <;> decide
  simp [oneDocument, Node.Plain, Node.PlainEntries, hname]

theorem discover_searched_named {p : String} (hfile : oneDocument.isFile p = true)
    (hle : Path.le "./a.md" p = true) :
    allDocuments.discover oneDocument [".", p] "." = .ok (sortPaths.dedup ["./a.md", p]) := by
  have hlocate : ∀ follow, oneDocument.locate "." follow = .ok [] := FileTree.locate_here rfl
  have hdir : oneDocument.isDir "." = true := FileTree.isDir_of_locate (hlocate true) rfl
  have hbelow : oneDocument.filesBelow "." = [["a.md"]] := FileTree.filesBelow_of_locate (hlocate false) rfl
  have htargets : [".", p].mapM (Finder.target oneDocument) = .ok [.dir ".", .file p] := by
    rw [List.mapM_cons, target_of_isDir hdir, List.mapM_cons, target_of_isFile hfile]
    rfl
  have hsearched : allDocuments.filesOf oneDocument "." (.dir ".") = ["./a.md"] := by
    rw [filesOf, walk, hbelow]
    decide +kernel
  have htaken : allDocuments.filesOf oneDocument "." (.file p) = [p] := rfl
  have hfound : allDocuments.found oneDocument "." [.dir ".", .file p] = ["./a.md", p] := by
    rw [found, List.flatMap_cons, hsearched, List.flatMap_cons, htaken]
    rfl
  have hsorted : sortPaths ["./a.md", p] = sortPaths.dedup ["./a.md", p] :=
    sortPaths_of_pairwise (List.pairwise_pair.mpr hle)
  rw [discover, htargets]
  change Except.ok (sortPaths (allDocuments.found oneDocument "." [.dir ".", .file p])) = _
  rw [hfound, hsorted]

/-- Named from the current directory, as it is searched, the document is found and reported once. -/
theorem discover_distinct_alike :
    let l : Linter := ⟨none, Markdown.reader, allDocuments, none⟩
    (["./a.md"].map oneDocument.resolve).Nodup ∧
    ∃ out, l.lintPatterns oneDocument [".", "./a.md"] = .ok out ∧
      (out.reports.map fun r => oneDocument.resolve r.path).Nodup := by
  intro l
  have hsteps : FileTree.steps "./a.md" = [.stay, .down "a.md"] := by decide +kernel
  have hsize : ¬ FileTree.maxName < "a.md".utf8ByteSize := by decide
  have hplace : oneDocument.locate "./a.md" true = .ok ["a.md"] := by
    rw [FileTree.locate, if_neg (by decide), if_neg (by decide), if_neg (by decide), hsteps]
    simp [FileTree.walk, oneDocument, Node.get?, Node.child?, hsize]
  have hfiles : allDocuments.discover oneDocument [".", "./a.md"] "." = .ok ["./a.md"] :=
    discover_searched_named (FileTree.isFile_of_locate hplace rfl) (by decide)
  have hdot : ∃ names : Place, components "." = [.here] ++ names.map .name := ⟨[], by decide⟩
  have hfile : ∃ names : Place, components "./a.md" = [.here] ++ names.map .name := ⟨["a.md"], by decide⟩
  have hpattern : ∀ p ∈ [".", "./a.md"], ∃ names : Place, components p = [.here] ++ names.map .name := by
    simp only [List.forall_mem_cons, hdot, hfile, true_and]
    exact List.forall_mem_nil _
  have halike : SpelledAlike allDocuments oneDocument [".", "./a.md"] "." := by
    refine spelledAlike_of_start [.here] fun w hw => ?_
    obtain ⟨text, hreach, _⟩ := hw
    cases hreach with
    | file hp _ => exact hpattern _ hp
    | below hd _ _ _ _ => exact hpattern _ hd
    | glob _ _ _ _ _ _ => exact hdot
  obtain ⟨hnodup, hlint⟩ := discover_distinct_iff plain_oneDocument hfiles
  obtain ⟨out, hout, _, hreports⟩ := hlint l rfl rfl
  exact ⟨hnodup.mpr halike, out, hout, (hreports halike).1⟩

/-- Named without the dot, the document is found twice. -/
theorem discover_finds_twice :
    oneDocument.root.Plain ∧
    allDocuments.discover oneDocument [".", "a.md"] "." = .ok ["./a.md", "a.md"] ∧
    ¬ (["./a.md", "a.md"].map oneDocument.resolve).Nodup := by
  have hname : IsName "a.md" := by constructor <;> decide
  have hlocate : oneDocument.locate "a.md" true = .ok ["a.md"] :=
    FileTree.locate_name (n := .file .empty) rfl hname (by decide) (by decide) rfl (fun _ => nofun) true
  have hfile : oneDocument.isFile "a.md" = true := FileTree.isFile_of_locate hlocate rfl
  exact ⟨plain_oneDocument, discover_searched_named hfile (by decide), by decide⟩

end LineLimit.Finder

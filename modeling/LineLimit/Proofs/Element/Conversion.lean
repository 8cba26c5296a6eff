import LineLimit.Element
import LineLimit.Proofs.Text.Conversion
/-!
Elements whose literal texts are converted to one kind of ending. This changes neither how many lines a literal text
has nor which elements a search finds.
-/

namespace LineLimit.Element

mutual

/-- The element with the literal texts in its tree converted. -/
def convert (e : Ending) : Element → Element
  | ⟨kind, location, value, children⟩ => ⟨kind, location, value.map (convertText e), convertAll e children⟩

def convertAll (e : Ending) : List Element → List Element
  | [] => []
  | x :: rest => convert e x :: convertAll e rest

end

@[simp] theorem kind_convert (e : Ending) (x : Element) : (convert e x).kind = x.kind := by
  cases x
  rfl

@[simp] theorem location_convert (e : Ending) (x : Element) : (convert e x).location = x.location := by
  cases x
  rfl

@[simp] theorem children_convert (e : Ending) (x : Element) :
    (convert e x).children = convertAll e x.children := by
  cases x
  rfl

theorem convertAll_eq_map (e : Ending) (trees : List Element) : convertAll e trees = trees.map (convert e) := by
  induction trees with
  | nil => rfl
  | cons x rest ih => rw [convertAll, ih, List.map_cons]

@[simp] theorem valueLines_convert (e : Ending) (x : Element) : (convert e x).valueLines = x.valueLines := by
  obtain ⟨kind, location, value, children⟩ := x
  cases value with
  | none => rfl
  | some v => simp only [convert, valueLines, Option.map_some, split_convertText, List.length_map]

theorem findIn_map_convert (e : Ending) (k : Kind) (trees : List Element) :
    findIn k (trees.map (convert e)) = (findIn k trees).map (convert e) := by
  fun_induction findIn k trees with
  | case1 => rw [List.map_nil, findIn]
  | case2 x rest found hk ih =>
      rw [List.map_cons, findIn, kind_convert, if_pos hk, children_convert, convertAll_eq_map,
        ← List.map_append, ih, List.map_cons]
  | case3 x rest found hk ih =>
      rw [List.map_cons, findIn, kind_convert, if_neg hk, children_convert, convertAll_eq_map,
        ← List.map_append, ih]

end LineLimit.Element

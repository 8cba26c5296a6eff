import LineLimit.Proofs.Element.Conversion
import LineLimit.Rule.Check
/-!
The check does not depend on how lines end. Converting a document to one kind of ending keeps the texts of its lines,
their numbers, and the number of lines in every literal text. Nothing else enters the check, and only the bytes that
a diagnostic points at are counted with the endings.
-/

namespace LineLimit

/-- The document with all endings of one kind, those of literal texts included. -/
def Document.convert (e : Ending) (d : Document) : Document :=
  .new (convertText e d.source) (Element.convertAll e d.elements)

/-- The diagnostic without the bytes that it points at. -/
def Diagnostic.unplaced (x : Diagnostic) : Diagnostic := { x with span := ⟨0, 0⟩ }

namespace Document

theorem lines_convert (e : Ending) (d : Document) : (d.convert e).lines = d.lines.map (Line.endWith e) := by
  rw [lines_eq, d.lines_eq]
  exact split_convertText e d.source

theorem elements_convert (e : Ending) (d : Document) :
    (d.convert e).elements = d.elements.map (Element.convert e) :=
  Element.convertAll_eq_map e d.elements

theorem lineCount_convert (e : Ending) (d : Document) : (d.convert e).lineCount = d.lineCount := by
  simp only [lineCount, lines_convert, List.length_map]

theorem numbered_convert (e : Ending) (d : Document) : (d.convert e).numbered = d.numbered := by
  simp only [numbered, lines_convert, List.zipIdx_map, List.map_map]
  rfl

theorem matchingLines_convert (e : Ending) (d : Document) (p : List Char → Bool) :
    (d.convert e).matchingLines p = d.matchingLines p := by
  rw [matchingLines, numbered_convert, matchingLines]

theorem map_chars_table (offset : Nat) (lines : List Line) :
    (LineInfo.table offset lines).map (·.chars) = lines.map fun l => .ofNat l.text.length := by
  induction lines generalizing offset with
  | nil => rfl
  | cons l rest ih => rw [LineInfo.table, List.map_cons, ih, List.map_cons]

theorem map_chars_lineInfo? (d : Document) (n : UInt32) :
    (d.lineInfo? n).map (·.chars) =
      if n = 0 then none else d.lines[n.toNat - 1]?.map fun l => .ofNat l.text.length := by
  rw [lineInfo?]
  split
  · rfl
  · rw [d.infos_eq, List.getElem?_toArray, ← List.getElem?_map, map_chars_table, List.getElem?_map]

theorem map_chars_convert (e : Ending) (d : Document) (n : UInt32) :
    ((d.convert e).lineInfo? n).map (·.chars) = (d.lineInfo? n).map (·.chars) := by
  simp only [map_chars_lineInfo?, lines_convert, List.getElem?_map, Option.map_map]
  rfl

end Document

namespace Exemption

theorem ofCodeBlock_convert (e : Ending) (count : UInt32) (x : Element) :
    ofCodeBlock count (x.convert e) = ofCodeBlock count x := by
  simp only [ofCodeBlock, Element.location_convert, Element.valueLines_convert]

theorem codeBlocks_convert (e : Ending) (d : Document) : codeBlocks (d.convert e) = codeBlocks d := by
  rw [codeBlocks, Document.elementsOf, Document.elements_convert, Element.findIn_map_convert,
    List.filterMap_map, Document.lineCount_convert]
  congr 1
  funext x
  exact ofCodeBlock_convert e d.lineCount x

theorem located_map_convert (e : Ending) (elements : List Element) :
    located (elements.map (Element.convert e)) = (located elements).map fun (l, x) => (l, x.convert e) := by
  simp only [located, List.filterMap_map, List.map_filterMap]
  congr 1
  funext x
  simp [Function.comp_def]

theorem ofTable_convert (e : Ending) (count start : UInt32) (x : Element) (below : List (UInt32 × Element)) :
    ofTable count start (x.convert e) (below.map fun (l, y) => (l, y.convert e)) = ofTable count start x below := by
  rw [ofTable, ofTable, Element.kind_convert]
  -- the span of a table looks one place ahead
  cases below with
  | nil => rfl
  | cons next rest => rfl

theorem tablesIn_map_convert (e : Ending) (count : UInt32) (places : List (UInt32 × Element)) :
    tablesIn count (places.map fun (l, x) => (l, x.convert e)) = tablesIn count places := by
  induction places with
  | nil => rfl
  | cons first rest ih => rw [List.map_cons, tablesIn, ofTable_convert, ih, tablesIn]

theorem spans_convert (e : Ending) (d : Document) (o : Options) : spans (d.convert e) o = spans d o := by
  have htables : tables (d.convert e) = tables d := by
    rw [tables, Document.elements_convert, located_map_convert, tablesIn_map_convert,
      Document.lineCount_convert, tables]
  rw [spans, codeBlocks_convert, htables, spans]

end Exemption

namespace Check

theorem violations_convert (e : Ending) (d : Document) (o : Options) :
    violations (d.convert e) o = violations d o := by
  simp only [violations, Exemption.spans_convert, Document.matchingLines_convert]

/-- Without its bytes, the report of a line is made of the number of its characters. -/
theorem map_unplaced_diagnostics (d : Document) (s : Settings) :
    (diagnostics d s).map (·.unplaced) = (violations d s.options).filterMap fun n =>
      ((d.lineInfo? n).map (·.chars)).map fun chars => diagnostic s n ⟨0, 0, chars⟩ := by
  rw [diagnostics, List.map_filterMap]
  congr 1
  funext n
  rw [Option.map_map, Option.map_map]
  rfl

theorem unplaced_diagnostics_convert (e : Ending) (d : Document) (s : Settings) :
    (diagnostics (d.convert e) s).map (·.unplaced) = (diagnostics d s).map (·.unplaced) := by
  rw [map_unplaced_diagnostics, map_unplaced_diagnostics, violations_convert]
  simp only [Document.map_chars_convert]

/-- The check of a text and its outline gives the same lines whatever ending is written for all endings, and reports
them in the same words, in the same order and at the same places but for the bytes. -/
theorem endings_irrelevant (e : Ending) (source : String) (elements : List Element) (o : Options)
    (severity : Severity) :
    violations (.new (convertText e source) (Element.convertAll e elements)) o =
      violations (.new source elements) o ∧
    (diagnostics (.new (convertText e source) (Element.convertAll e elements)) ⟨severity, o⟩).map (·.unplaced) =
      (diagnostics (.new source elements) ⟨severity, o⟩).map (·.unplaced) := by
  let d : Document := .new source elements
  have hviolations : violations (d.convert e) o = violations d o := violations_convert e d o
  have hdiagnostics : (diagnostics (d.convert e) ⟨severity, o⟩).map (·.unplaced) =
      (diagnostics d ⟨severity, o⟩).map (·.unplaced) := unplaced_diagnostics_convert e d ⟨severity, o⟩
  exact ⟨hviolations, hdiagnostics⟩

end Check

end LineLimit

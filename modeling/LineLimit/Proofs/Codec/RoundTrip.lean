import LineLimit.Codec.Element
import LineLimit.Command.Output
import LineLimit.Proofs.Json.Members
import LineLimit.Proofs.Json.ReadBack
/-!
Elements, diagnostics and reports that are written as JSON and read again. What writing leaves out is what reading takes
for granted, so each of them comes back as it was.
-/

namespace LineLimit

open Json (Reading)

namespace Json

theorem readWord_ofWord (n : UInt32) : readWord (ofWord n) = .ok n := by
  have hn : n.toNat < UInt32.size := n.toNat_lt
  have hbelow : readBelow UInt32.size "u32" (ofWord n) = .ok n.toNat := by
    rw [ofWord, readBelow, if_pos (by omega), Int.toNat_natCast]
  rw [readWord, hbelow, Except.map, UInt32.ofNat_toNat]

theorem readName_str {α : Type} {known : List String} {ofName? : String → Option α} {name : String} {a : α}
    (h : ofName? name = some a) : readName known ofName? (.str name) = .ok a := by
  rw [readName, h]

theorem readList_map {α : Type} {read : Json → Reading α} {write : α → Json} (h : ∀ a, read (write a) = .ok a)
    (as : List α) : readList read (.arr (as.map write)) = .ok as := by
  rw [readList]
  induction as with
  | nil => rfl
  | cons a as ih =>
      rw [List.map_cons, List.mapM_cons, h, ih]
      rfl

theorem Shape.read_of_visit {σ : Type} {shape : Shape σ} {draft draft' : σ} {name : String} {v : Json}
    {members : List (String × Json)} (h : shape.visit name v draft = .ok draft') :
    shape.read draft (.obj ((name, v) :: members)) = shape.read draft' (.obj members) := by
  rw [read, visitAll_cons, h]
  rfl

end Json

theorem Position.ofJson_toJson (p : Position) : ofJson p.toJson = .ok p := by
  have hcolumn (d : Draft) : shape.visit "column" (.ofWord p.column) d = .ok { d with column := some p.column } := by
    simp only [shape, Json.readWord_ofWord]
    rfl
  have hline (d : Draft) : shape.visit "line" (.ofWord p.line) d = .ok { d with line := some p.line } := by
    simp only [shape, Json.readWord_ofWord]
    rfl
  rw [ofJson, toJson, Json.Shape.read_of_visit (hcolumn _), Json.Shape.read_of_visit (hline _)]
  rfl

theorem Span.ofJson_toJson (s : Span) : ofJson s.toJson = .ok s := by
  have hstop (d : Draft) : shape.visit "end" (.ofWord s.stop) d = .ok { d with stop := some s.stop } := by
    simp only [shape, Json.readWord_ofWord]
    rfl
  have hstart (d : Draft) : shape.visit "start" (.ofWord s.start) d = .ok { d with start := some s.start } := by
    simp only [shape, Json.readWord_ofWord]
    rfl
  rw [ofJson, toJson, Json.Shape.read_of_visit (hstop _), Json.Shape.read_of_visit (hstart _)]
  rfl

theorem Location.ofJson_toJson (l : Location) : ofJson l.toJson = .ok l := by
  have hstop (d : Draft) : shape.visit "end" l.stop.toJson d = .ok { d with stop := some l.stop } := by
    simp only [shape, Position.ofJson_toJson]
    rfl
  have hstart (d : Draft) : shape.visit "start" l.start.toJson d = .ok { d with start := some l.start } := by
    simp only [shape, Position.ofJson_toJson]
    rfl
  rw [ofJson, toJson, Json.Shape.read_of_visit (hstop _), Json.Shape.read_of_visit (hstart _)]
  rfl

theorem Severity.ofJson_toJson (s : Severity) : ofJson s.toJson = .ok s := Json.readName_str s.ofName?_name

namespace Diagnostic

variable {draft : Draft}

theorem visit_loc (l : Location) : shape.visit "loc" l.toJson draft = .ok { draft with loc := some l } := by
  have hoption : Json.readOption Location.ofJson l.toJson = (Location.ofJson l.toJson).map some := rfl
  simp only [shape, hoption, Location.ofJson_toJson]
  rfl

/-- The members that are always written. They leave the place as it has been read before. -/
theorem read_always (d : Diagnostic) :
    shape.read draft (.obj [("message", .str d.message), ("rule_id", .str d.rule), ("severity", d.severity.toJson),
      ("span", d.span.toJson)]) = .ok ⟨some d.rule, some d.message, some d.span, draft.loc, d.severity⟩ := by
  have hmessage : shape.visit "message" (.str d.message) draft = .ok { draft with message := some d.message } := rfl
  have hrule (draft : Draft) : shape.visit "rule_id" (.str d.rule) draft = .ok { draft with rule := some d.rule } := rfl
  have hseverity (draft : Draft) :
      shape.visit "severity" d.severity.toJson draft = .ok { draft with severity := d.severity } := by
    simp only [shape, Severity.ofJson_toJson]
    rfl
  have hspan (draft : Draft) : shape.visit "span" d.span.toJson draft = .ok { draft with span := some d.span } := by
    simp only [shape, Span.ofJson_toJson]
    rfl
  rw [Json.Shape.read_of_visit hmessage, Json.Shape.read_of_visit (hrule _), Json.Shape.read_of_visit (hseverity _),
    Json.Shape.read_of_visit (hspan _)]
  rfl

theorem ofJson_toJson (d : Diagnostic) : ofJson d.toJson = .ok d := by
  have hread : shape.read {} d.toJson = .ok ⟨some d.rule, some d.message, some d.span, d.loc, d.severity⟩ := by
    rw [toJson]
    cases hloc : d.loc with
    | none => exact read_always d
    | some l =>
        rw [List.cons_append, Json.Shape.read_of_visit (visit_loc l)]
        exact read_always d
  rw [ofJson, hread]
  rfl

end Diagnostic

theorem Kind.ofJson_toJson (k : Kind) : ofJson k.toJson = .ok k := Json.readName_str k.ofName?_name

namespace Element

variable {d : Draft} {kind : Kind} {location : Option UInt32} {value : Option String} {children : List Element}
  {members : List (String × Json)}

/-- The member of a value that is left out where it is missing. -/
def optional {α : Type} (name : String) (write : α → Json) : Option α → List (String × Json)
  | some a => [(name, write a)]
  | none => []

def childMember : List Element → List (String × Json)
  | [] => []
  | c :: rest => [("children", .arr (toJsonList (c :: rest)))]

theorem toJson_eq : toJson ⟨kind, location, value, children⟩ =
    .obj (childMember children ++
      ("kind", kind.toJson) :: (optional "location" .ofWord location ++ optional "value" .str value)) := by
  cases children <;> cases location <;> cases value <;> rfl

theorem readMembers_children (hread : readAll (toJsonList children) = .ok children) (hnone : d.children = []) :
    readMembers d (childMember children ++ members) = readMembers { d with children } members := by
  cases children with
  | nil =>
      obtain ⟨_, _, _, _⟩ := d
      subst hnone
      rfl
  | cons c rest =>
      rw [childMember, List.singleton_append, readMembers, readChildren, hread]
      rfl

theorem readMembers_kind :
    readMembers d (("kind", kind.toJson) :: members) = readMembers { d with kind := some kind } members := by
  rw [readMembers, Draft.visitLeaf, Kind.ofJson_toJson]
  · rfl
  · decide

theorem readMembers_location (hnone : d.location = none) :
    readMembers d (optional "location" .ofWord location ++ members) = readMembers { d with location } members := by
  cases location with
  | none =>
      obtain ⟨_, _, _, _⟩ := d
      subst hnone
      rfl
  | some n =>
      have hoption : Json.readOption Json.readWord (.ofWord n) = (Json.readWord (.ofWord n)).map some := rfl
      rw [optional, List.singleton_append, readMembers, Draft.visitLeaf, hoption, Json.readWord_ofWord]
      · rfl
      · decide

theorem readMembers_value (hnone : d.value = none) :
    readMembers d (optional "value" .str value) = .ok { d with value } := by
  cases value with
  | none =>
      obtain ⟨_, _, _, _⟩ := d
      subst hnone
      rfl
  | some s => rfl

mutual

theorem ofJson_toJson (e : Element) : ofJson e.toJson = .ok e := by
  obtain ⟨kind, location, value, children⟩ := e
  have hread := readAll_toJsonList children
  rw [toJson_eq, ofJson, readMembers_children hread rfl, readMembers_kind, readMembers_location rfl,
    readMembers_value rfl]
  rfl

theorem readAll_toJsonList (es : List Element) : readAll (toJsonList es) = .ok es := by
  cases es with
  | nil => rfl
  | cons e rest =>
      rw [toJsonList, readAll, ofJson_toJson e, readAll_toJsonList rest]
      rfl

end

end Element

namespace Report

/-- A value that tells the path of a report, and a list that is read as its diagnostics. -/
def Tells (v : Json) (r : Report) : Prop :=
  ∃ members list, v = .obj members ∧ Json.member? "path" members = some (.str r.path) ∧
    Json.member? "diagnostics" members = some list ∧ Json.readList Diagnostic.ofJson list = .ok r.diagnostics

theorem tells_toJson (r : Report) : Tells r.toJson r := by
  refine ⟨_, .arr (r.diagnostics.map Diagnostic.toJson), rfl, ?_, Json.member?_cons_of_eq, ?_⟩
  · rw [Json.member?_cons_of_ne (by decide), Json.member?_cons_of_eq]
  · exact Json.readList_map Diagnostic.ofJson_toJson r.diagnostics

theorem tells_map_toJson (rs : List Report) : List.Forall₂ Tells (rs.map toJson) rs := by
  rw [List.forall₂_map_left_iff, List.forall₂_same]
  exact fun r _ => tells_toJson r

end Report

namespace Json

variable {v : Json}

theorem exactItems_iff {items : List Json} : ExactItems items ↔ ∀ v ∈ items, Exact v := by
  induction items with
  | nil => exact iff_of_true trivial nofun
  | cons v rest ih => rw [ExactItems, List.forall_mem_cons, ih]

theorem exact_ofWord (n : UInt32) : Exact (ofWord n) := by
  have hn : n.toNat < 2 ^ 32 := n.toNat_lt
  have hfits : -2 ^ 63 ≤ (n.toNat : Int) ∧ (n.toNat : Int) < 2 ^ 64 := by omega
  exact hfits

theorem exact_pair {first second : String} {w : Json} (hlt : first < second) (hv : Exact v) (hw : Exact w) :
    Exact (.obj [(first, v), (second, w)]) := by
  refine ⟨?_, hv, hw, trivial⟩
  simpa using hlt

end Json

theorem Diagnostic.exact_toJson (d : Diagnostic) : d.toJson.Exact := by
  have hspan : d.span.toJson.Exact := Json.exact_pair (by decide) (Json.exact_ofWord _) (Json.exact_ofWord _)
  have hposition (p : Position) : p.toJson.Exact :=
    Json.exact_pair (by decide) (Json.exact_ofWord _) (Json.exact_ofWord _)
  rw [toJson]
  cases d.loc with
  | none =>
      have hnames : ["message", "rule_id", "severity", "span"].Pairwise (· < ·) := by decide
      exact ⟨hnames, trivial, trivial, trivial, hspan, trivial⟩
  | some l =>
      have hloc : l.toJson.Exact := Json.exact_pair (by decide) (hposition _) (hposition _)
      have hnames : ["loc", "message", "rule_id", "severity", "span"].Pairwise (· < ·) := by decide
      exact ⟨hnames, hloc, trivial, trivial, trivial, hspan, trivial⟩

theorem Report.exact_toJson (r : Report) : r.toJson.Exact := by
  have hdiagnostics : (Json.arr (r.diagnostics.map Diagnostic.toJson)).Exact := by
    refine Json.exactItems_iff.mpr fun v hv => ?_
    obtain ⟨d, _, rfl⟩ := List.mem_map.mp hv
    exact d.exact_toJson
  exact Json.exact_pair (by decide) hdiagnostics trivial

theorem Command.parse_reportsJson (rs : List Report) :
    Json.Relaxed.parse (reportsJson rs) = .ok (some (.arr (rs.map Report.toJson))) := by
  refine Json.parse_pretty _ (Json.exactItems_iff.mpr fun v hv => ?_)
  obtain ⟨r, _, rfl⟩ := List.mem_map.mp hv
  exact r.exact_toJson

/-- A reader of texts that takes a value from the lines it is printed on. -/
def Json.ReadBack (read : String → Option Json) (v : Json) : Prop := read (v.pretty 0 ++ "\n") = some v

/-- Elements and diagnostics come back from their JSON values, and so do the diagnostics of each report, in order, from
the text of the reports, when it is read as what has been printed. -/
theorem Codec.round_trip :
    (∀ e : Element, Element.ofJson e.toJson = .ok e) ∧
    (∀ d : Diagnostic, Diagnostic.ofJson d.toJson = .ok d) ∧
    ∀ (read : String → Option Json) (rs : List Report), Json.ReadBack read (.arr (rs.map Report.toJson)) →
      ∃ items, read (Command.reportsJson rs) = some (.arr items) ∧ List.Forall₂ Report.Tells items rs := by
  refine ⟨Element.ofJson_toJson, Diagnostic.ofJson_toJson, ?_⟩
  intro read rs hread
  exact ⟨rs.map Report.toJson, hread, Report.tells_map_toJson rs⟩

/-- The value of a relaxed text, none if there is none or the text is at fault. -/
def Json.valueOf? (text : String) : Option Json := (Relaxed.parse text).toOption.join

/-- The reports of two files, of which the second one has no diagnostics. -/
def Report.pair : List Report :=
  [⟨"a.md", [{ rule := "MY000", message := "too \"long\"", span := ⟨0, 9⟩, loc := some ⟨⟨1, 0⟩, ⟨1, 9⟩⟩ }]⟩, ⟨"b.md", []⟩]

theorem Codec.round_trip_pair :
    Json.ReadBack Json.valueOf? (.arr (Report.pair.map Report.toJson)) ∧
    ∃ items, Json.valueOf? (Command.reportsJson Report.pair) = some (.arr items) ∧
      List.Forall₂ Report.Tells items Report.pair := by
  have hread : Json.ReadBack Json.valueOf? (.arr (Report.pair.map Report.toJson)) := by
    have hparse := Command.parse_reportsJson Report.pair
    rw [Command.reportsJson] at hparse
    rw [Json.ReadBack, Json.valueOf?, hparse]
    rfl
  exact ⟨hread, Codec.round_trip.2.2 Json.valueOf? Report.pair hread⟩

end LineLimit

import LineLimit.Config.RuleOption
import LineLimit.Proofs.Config.Fields
/-!
What a value says about the rule. Every JSON value turns the rule off, gives settings for it, or is an error, and
which of these holds is said here of the value alone: an object that turns the rule off may hold anything else, and one
that gives settings may hold nothing but a severity and options.
-/

namespace LineLimit

namespace Severity

def names : Severity → List String
  | error => ["error"]
  | warning => ["warning", "warn"]
  | info => ["info"]

theorem parse_eq_ok_iff {name : String} {s : Severity} : parse name = .ok s ↔ Ascii.lower name ∈ s.names := by
  rw [parse]
  split
  · next h => cases s <;> simp [h, names]
  · next h => cases s <;> simp [h, names]
  · next h => cases s <;> simp [h, names]
  · next h => cases s <;> simp [h, names]
  · next herror hwarning hwarn hinfo =>
      refine iff_of_false nofun fun hmem => ?_
      cases s with
      | error => exact herror (List.mem_singleton.mp hmem)
      | warning =>
          rw [names, List.mem_cons, List.mem_singleton] at hmem
          exact hmem.elim hwarning hwarn
      | info => exact hinfo (List.mem_singleton.mp hmem)

end Severity

namespace RuleOption

/-- A text is the word for no check at all, or the name of a severity, in any case of letters. -/
def Word (name : String) : Option Severity → Prop
  | none => Ascii.lower name = "off"
  | some s => Ascii.lower name ∈ s.names

theorem readSeverity_eq_ok_iff {name : String} {r : Option Severity} : readSeverity name = .ok r ↔ Word name r := by
  have hoff : Ascii.lower "off" = "off" := Ascii.lower_eq_of_toList (by decide)
  rw [readSeverity, mapError_eq_ok_iff, Severity.parseOrOff]
  by_cases h : Ascii.lower name = "off"
  · rw [if_pos (Ascii.sameName_iff.mpr (h.trans hoff.symm))]
    cases r with
    | none => exact iff_of_true rfl h
    | some s =>
        refine iff_of_false nofun ?_
        rw [Word, h]
        cases s <;> decide
  · rw [if_neg fun hsame => h ((Ascii.sameName_iff.mp hsame).trans hoff)]
    cases r with
    | none =>
        refine iff_of_false ?_ h
        cases Severity.parse name <;> nofun
    | some s =>
        rw [Word, ← Severity.parse_eq_ok_iff]
        cases Severity.parse name with
        | ok s' => simp [Except.map]
        | error e => simp [Except.map]

variable {members : List (String × Json)}

theorem severityOf_eq_ok_iff (hn : (members.map (·.1)).Nodup) {r : Option Severity} :
    severityOf members = .ok r ↔
      (∃ name, ("severity", .str name) ∈ members ∧ Word name r) ∨
        (r = some .error ∧ ∀ v, ("severity", v) ∉ members) := by
  rw [severityOf]
  split
  · next hnone =>
      rw [Json.member?_eq_none_iff] at hnone
      constructor
      · intro h
        cases h
        exact .inr ⟨rfl, hnone⟩
      · rintro (⟨name, hmem, _⟩ | ⟨rfl, _⟩)
        · exact absurd hmem (hnone _)
        · rfl
  · next name hsome =>
      have hname := (Json.member?_eq_some_iff hn).mp hsome
      rw [readSeverity_eq_ok_iff]
      constructor
      · intro h
        exact .inl ⟨name, hname, h⟩
      · rintro (⟨other, hother, hword⟩ | ⟨_, hnone⟩)
        · cases Json.value_unique hn hname hother
          exact hword
        · exact absurd hname (hnone _)
  · next v hstr hsome =>
      have hv := (Json.member?_eq_some_iff hn).mp hsome
      refine iff_of_false nofun ?_
      rintro (⟨name, hname, _⟩ | ⟨_, hnone⟩)
      · exact hstr name (Json.value_unique hn hv hname)
      · exact absurd hv (hnone v)

def others (members : List (String × Json)) : List (String × Json) := members.filter (·.1 != "severity")

theorem mem_others_iff {x : String × Json} : x ∈ others members ↔ x ∈ members ∧ x.1 ≠ "severity" := by
  rw [others, List.mem_filter, bne_iff_ne]

theorem nodup_others (hn : (members.map (·.1)).Nodup) : ((others members).map (·.1)).Nodup :=
  hn.sublist (List.filter_sublist.map _)

theorem member?_others (hn : (members.map (·.1)).Nodup) (f : Options.Field) :
    Json.member? f.name (others members) = Json.member? f.name members := by
  have hne : f.name ≠ "severity" := by cases f <;> decide
  apply Option.ext
  intro v
  rw [Json.member?_eq_some_iff (nodup_others hn), Json.member?_eq_some_iff hn, mem_others_iff]
  exact and_iff_left hne

theorem resolveMembers_eq_none_iff : resolveMembers members = .ok none ↔ severityOf members = .ok none := by
  constructor
  · intro h
    obtain ⟨r, hr, h⟩ := of_bind_eq_ok h
    cases r with
    | none => exact hr
    | some s =>
        obtain ⟨o, _, h⟩ := of_bind_eq_ok h
        nomatch h
  · intro h
    rw [resolveMembers, h]
    rfl

theorem resolveMembers_eq_some_iff {s : Settings} :
    resolveMembers members = .ok (some s) ↔
      severityOf members = .ok (some s.severity) ∧ Options.shape.visitAll {} (others members) = .ok s.options := by
  constructor
  · intro h
    obtain ⟨r, hr, h⟩ := of_bind_eq_ok h
    cases r with
    | none => nomatch h
    | some severity =>
        obtain ⟨o, ho, h⟩ := of_bind_eq_ok h
        cases h
        exact ⟨hr, of_mapError_eq_ok ho⟩
  · intro ⟨hseverity, ho⟩
    have hread : (Options.ofJson (.obj (others members))).mapError ConfigError.options = .ok s.options :=
      mapError_eq_ok_iff.mpr ho
    rw [others] at hread
    rw [resolveMembers, hseverity]
    simp only [bind, Except.bind, hread]
    rfl

/-- The rule is off for `false`, for the word, and for an object with the word for its severity, whatever else the
object holds. -/
def Disables : Json → Prop
  | .bool b => b = false
  | .str name => Word name none
  | .obj members => ∃ name, ("severity", .str name) ∈ members ∧ Word name none
  | _ => False

/-- There are settings for `true`, for the name of a severity, and for an object of options with the name of a severity
or without one. -/
def Enables : Json → Prop
  | .bool b => b = true
  | .str name => ∃ s, Word name (some s)
  | .obj members =>
    (∀ v, ("severity", v) ∈ members → ∃ name s, v = .str name ∧ Word name (some s)) ∧
      ∀ x ∈ members, x.1 ≠ "severity" → Options.Sets x
  | _ => False

/-- The settings have the severity that is named and the options that are given, and are the usual ones otherwise. -/
def Gives : Json → Settings → Prop
  | .str name, s => Word name (some s.severity) ∧ s.options = {}
  | .obj members, s =>
    (∀ name, ("severity", .str name) ∈ members → Word name (some s.severity)) ∧
      ((∀ v, ("severity", v) ∉ members) → s.severity = .error) ∧
      ∀ f : Options.Field, (∀ v, (f.name, v) ∈ members → s.options.get f = v) ∧
        ((∀ v, (f.name, v) ∉ members) → s.options.get f = ({} : Options).get f)
  | _, s => s = {}

theorem enables_of_resolveMembers (hn : (members.map (·.1)).Nodup) {s : Settings}
    (h : resolveMembers members = .ok (some s)) : Enables (.obj members) := by
  obtain ⟨hseverity, ho⟩ := resolveMembers_eq_some_iff.mp h
  constructor
  · intro v hv
    rcases (severityOf_eq_ok_iff hn).mp hseverity with ⟨name, hmem, hword⟩ | ⟨_, hnone⟩
    · exact ⟨name, s.severity, Json.value_unique hn hv hmem, hword⟩
    · exact absurd hv (hnone v)
  · intro x hx hne
    exact Options.sets_of_visitAll_eq_ok ho x (mem_others_iff.mpr ⟨hx, hne⟩)

theorem gives_of_resolveMembers (hn : (members.map (·.1)).Nodup) {s : Settings}
    (h : resolveMembers members = .ok (some s)) : Gives (.obj members) s := by
  obtain ⟨hseverity, ho⟩ := resolveMembers_eq_some_iff.mp h
  rw [severityOf_eq_ok_iff hn] at hseverity
  refine ⟨?_, ?_, ?_⟩
  · intro name hmem
    rcases hseverity with ⟨other, hother, hword⟩ | ⟨_, hnone⟩
    · cases Json.value_unique hn hmem hother
      exact hword
    · exact absurd hmem (hnone _)
  · intro hnone
    rcases hseverity with ⟨other, hother, _⟩ | ⟨herror, _⟩
    · exact absurd hother (hnone _)
    · exact Option.some.inj herror
  · -- The members are read in one way only, so these are the options that they set.
    intro f
    obtain ⟨o, hall, hget⟩ := Options.visitAll_eq_ok (o := {}) (nodup_others hn) (Options.sets_of_visitAll_eq_ok ho)
    rw [ho] at hall
    cases hall
    rw [hget f, member?_others hn]
    constructor
    · intro v hv
      rw [(Json.member?_eq_some_iff hn).mpr hv]
      rfl
    · intro hnone
      rw [Json.member?_eq_none_iff.mpr hnone]
      rfl

theorem exists_resolveMembers (hn : (members.map (·.1)).Nodup) (h : Enables (.obj members)) :
    ∃ s, resolveMembers members = .ok (some s) := by
  obtain ⟨hseverity, hothers⟩ := h
  have hsets : ∀ x ∈ others members, Options.Sets x := by
    intro x hx
    obtain ⟨hmem, hne⟩ := mem_others_iff.mp hx
    exact hothers x hmem hne
  obtain ⟨o, ho, _⟩ := Options.visitAll_eq_ok (o := {}) (nodup_others hn) hsets
  by_cases hpresent : ∃ v, ("severity", v) ∈ members
  · obtain ⟨v, hv⟩ := hpresent
    obtain ⟨name, severity, rfl, hword⟩ := hseverity v hv
    have hok := (severityOf_eq_ok_iff hn).mpr (.inl ⟨name, hv, hword⟩)
    exact ⟨⟨severity, o⟩, resolveMembers_eq_some_iff.mpr ⟨hok, ho⟩⟩
  · have hok := (severityOf_eq_ok_iff hn).mpr (.inr ⟨rfl, not_exists.mp hpresent⟩)
    exact ⟨⟨.error, o⟩, resolveMembers_eq_some_iff.mpr ⟨hok, ho⟩⟩

theorem resolve_severity_eq_none_iff {name : String} :
    (RuleOption.severity name).resolve = .ok none ↔ Word name none := by
  rw [resolve, map_eq_ok_iff, ← readSeverity_eq_ok_iff]
  constructor
  · rintro ⟨r, hr, hnone⟩
    rw [Option.map_eq_none_iff] at hnone
    exact hnone ▸ hr
  · intro h
    exact ⟨none, h, rfl⟩

theorem resolve_severity_eq_some_iff {name : String} {s : Settings} :
    (RuleOption.severity name).resolve = .ok (some s) ↔ Word name (some s.severity) ∧ s.options = {} := by
  rw [resolve, map_eq_ok_iff, ← readSeverity_eq_ok_iff]
  constructor
  · rintro ⟨r, hr, hsome⟩
    obtain ⟨level, rfl, rfl⟩ := Option.map_eq_some_iff.mp hsome
    exact ⟨hr, rfl⟩
  · intro ⟨hr, hoptions⟩
    exact ⟨some s.severity, hr, by rw [Option.map_some, ← hoptions]⟩

variable {v : Json}

theorem resolve_eq_none_iff (hv : v.NamesOnce) : (ofJson v).resolve = .ok none ↔ Disables v := by
  cases v with
  | bool b => cases b <;> simp [ofJson, resolve, Disables]
  | str name => exact resolve_severity_eq_none_iff
  | obj members =>
      refine resolveMembers_eq_none_iff.trans ((severityOf_eq_ok_iff hv).trans ?_)
      exact or_iff_left nofun
  | _ => exact iff_of_false nofun nofun

theorem exists_resolve_eq_some_iff (hv : v.NamesOnce) :
    (∃ s, (ofJson v).resolve = .ok (some s)) ↔ Enables v := by
  cases v with
  | bool b => cases b <;> simp [ofJson, resolve, Enables]
  | str name =>
      simp only [ofJson, resolve_severity_eq_some_iff, Enables]
      constructor
      · intro ⟨s, hword, _⟩
        exact ⟨s.severity, hword⟩
      · intro ⟨level, hword⟩
        exact ⟨⟨level, {}⟩, hword, rfl⟩
  | obj members =>
      constructor
      · intro ⟨s, hs⟩
        exact enables_of_resolveMembers hv hs
      · exact exists_resolveMembers hv
  | _ => exact iff_of_false nofun nofun

theorem gives_of_resolve (hv : v.NamesOnce) {s : Settings} (h : (ofJson v).resolve = .ok (some s)) : Gives v s := by
  cases v with
  | bool b =>
      cases b with
      | false => nomatch h
      | true =>
          cases h
          rfl
  | str name => exact resolve_severity_eq_some_iff.mp h
  | obj members => exact gives_of_resolveMembers hv h
  | _ => nomatch h

theorem Word.unique {name : String} {s s' : Severity} (h : Word name (some s)) (h' : Word name (some s')) : s = s' := by
  rw [← readSeverity_eq_ok_iff] at h h'
  rw [h] at h'
  cases h'
  rfl

/-- A value says everything about its settings. -/
theorem Gives.unique (hv : Enables v) {s s' : Settings} (h : Gives v s) (h' : Gives v s') : s = s' := by
  cases v with
  | str name =>
      obtain ⟨hword, hoptions⟩ := h
      obtain ⟨hword', hoptions'⟩ := h'
      exact Settings.ext (hword.unique hword') (hoptions.trans hoptions'.symm)
  | obj members =>
      obtain ⟨hnamed, husual, hfields⟩ := h
      obtain ⟨hnamed', husual', hfields'⟩ := h'
      have hseverity : s.severity = s'.severity := by
        by_cases hpresent : ∃ v, ("severity", v) ∈ members
        · obtain ⟨v, hmem⟩ := hpresent
          obtain ⟨name, _, rfl, _⟩ := hv.1 v hmem
          exact (hnamed name hmem).unique (hnamed' name hmem)
        · rw [husual (not_exists.mp hpresent), husual' (not_exists.mp hpresent)]
      have hoptions : s.options = s'.options := by
        apply Options.ext_get
        intro f
        by_cases hpresent : ∃ v, (f.name, v) ∈ members
        · obtain ⟨v, hmem⟩ := hpresent
          rw [(hfields f).1 v hmem, (hfields' f).1 v hmem]
        · rw [(hfields f).2 (not_exists.mp hpresent), (hfields' f).2 (not_exists.mp hpresent)]
      exact Settings.ext hseverity hoptions
  | _ => exact h.trans h'.symm

/-- A value turns the rule off, or gives settings which are those it says, or else is an error. -/
theorem resolve_ofJson (hv : v.NamesOnce) :
    ((ofJson v).resolve = .ok none ↔ Disables v) ∧
    ((∃ s, (ofJson v).resolve = .ok (some s)) ↔ Enables v) ∧
    (∀ s, (ofJson v).resolve = .ok (some s) ↔ Enables v ∧ Gives v s) ∧
    ((∃ e, (ofJson v).resolve = .error e) ↔ ¬ Disables v ∧ ¬ Enables v) := by
  have hoff := resolve_eq_none_iff hv
  have hon := exists_resolve_eq_some_iff hv
  refine ⟨hoff, hon, ?_, ?_⟩
  · intro s
    constructor
    · intro h
      exact ⟨hon.mp ⟨s, h⟩, gives_of_resolve hv h⟩
    · intro ⟨henables, hgives⟩
      obtain ⟨s', h⟩ := hon.mpr henables
      rwa [hgives.unique henables (gives_of_resolve hv h)]
  · rw [exists_error_iff, hon, ne_eq, hoff]

/-- Two of the options with a severity, an option of the wrong type in an object that turns the rule off, and a number
that is too small. -/
theorem resolve_ofJson_mixed :
    let given : Json := .obj [("ignore_links", .bool false), ("line_length", .int 80), ("severity", .str "WARN")]
    let off : Json := .obj [("line_length", .str "long"), ("severity", .str "Off")]
    let negative : Json := .obj [("line_length", .int (-1))]
    (given.NamesOnce ∧ off.NamesOnce ∧ negative.NamesOnce) ∧
      (ofJson given).resolve = .ok (some ⟨.warning, { lineLength := 80, ignoreLinks := false }⟩) ∧
      (ofJson off).resolve = .ok none ∧ ∃ e, (ofJson negative).resolve = .error e := by
  intro given off negative
  have hgiven : given.NamesOnce := by simp [given, Json.NamesOnce]
  have hoff : off.NamesOnce := by simp [off, Json.NamesOnce]
  have hnegative : negative.NamesOnce := by simp [negative, Json.NamesOnce]
  refine ⟨⟨hgiven, hoff, hnegative⟩, ?_, ?_, ?_⟩
  · have hlower : Ascii.lower "WARN" = "warn" := Ascii.lower_eq_of_toList (by decide)
    have hword : Word "WARN" (some .warning) := by
      rw [Word, hlower]
      decide
    refine ((resolve_ofJson hgiven).2.2.1 _).mpr ⟨⟨?_, ?_⟩, ?_, ?_, ?_⟩
    · intro v hv
      simp at hv
      exact ⟨"WARN", .warning, hv, hword⟩
    · simp only [List.forall_mem_cons]
      exact ⟨fun _ => ⟨.ignoreLinks, rfl, false, rfl⟩, fun _ => ⟨.lineLength, rfl, 80, by decide, rfl⟩,
        fun h => absurd rfl h, nofun⟩
    · intro name hname
      simp at hname
      exact hname ▸ hword
    · intro hnone
      exact absurd (by simp) (hnone (.str "WARN"))
    · intro f
      cases f <;> simp [Options.get, Options.Field.name]
  · exact (resolve_ofJson hoff).1.mpr ⟨"Off", by simp, Ascii.lower_eq_of_toList (by decide)⟩
  · refine (resolve_ofJson hnegative).2.2.2.mpr ⟨?_, ?_⟩
    · rintro ⟨name, hname, _⟩
      simp at hname
    · rintro ⟨_, hothers⟩
      obtain ⟨f, hf, hfits⟩ := hothers ("line_length", .int (-1)) (by simp) (by decide)
      cases f with
      | lineLength =>
          obtain ⟨n, _, hn⟩ := hfits
          rw [Json.int.injEq] at hn
          omega
      | _ => exact absurd hf (by decide)

end RuleOption

end LineLimit

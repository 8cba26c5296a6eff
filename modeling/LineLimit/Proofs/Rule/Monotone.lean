import LineLimit.Command.Invocation
import LineLimit.Proofs.Rule.LinkTail
import LineLimit.Proofs.Rule.Violations
/-!
Laxer options report less. Options are laxer when they allow longer lines or leave out more kinds of lines. What
laxer options report is a part of what the others do, and so options of the command line only ever add
lines to what the configuration reports, as long as they keep the length.
-/

namespace LineLimit

/-- The first options allow lines at least as long, and leave out whatever the second ones leave out. -/
structure Options.Laxer (o₁ o₂ : Options) : Prop where
  lineLength : o₂.lineLength ≤ o₁.lineLength
  codeBlocks : o₂.ignoreCodeBlocks = true → o₁.ignoreCodeBlocks = true
  tables : o₂.ignoreTables = true → o₁.ignoreTables = true
  links : o₂.ignoreLinks = true → o₁.ignoreLinks = true
  linkPunctuation : o₂.ignoreLinkPunctuation = true → o₁.ignoreLinkPunctuation = true

/-- The second overrides agree on the length, and switch off whatever the first ones switch off. -/
structure Overrides.Milder (x₁ x₂ : Overrides) : Prop where
  lineLength : x₁.lineLength = x₂.lineLength
  codeBlocks : x₁.noIgnoreCodeBlocks = true → x₂.noIgnoreCodeBlocks = true
  tables : x₁.noIgnoreTables = true → x₂.noIgnoreTables = true
  links : x₁.noIgnoreLinks = true → x₂.noIgnoreLinks = true
  linkPunctuation : x₁.noIgnoreLinkPunctuation = true → x₂.noIgnoreLinkPunctuation = true

theorem Overrides.kept_of_switch {kept off₁ off₂ : Bool} (h : off₁ = true → off₂ = true) :
    (kept && !off₂) = true → (kept && !off₁) = true := by
  intro hkept
  rw [Bool.and_eq_true, Bool.not_eq_true'] at hkept ⊢
  refine ⟨hkept.1, ?_⟩
  cases hoff : off₁ with
  | false => rfl
  | true =>
      rw [h hoff] at hkept
      exact nomatch hkept.2

theorem Overrides.Milder.laxer {x₁ x₂ : Overrides} (h : x₁.Milder x₂) (s : Settings) :
    (x₁.apply s).options.Laxer (x₂.apply s).options where
  lineLength := by
    simp only [Overrides.apply, h.lineLength]
    exact UInt64.le_refl _
  codeBlocks := kept_of_switch h.codeBlocks
  tables := kept_of_switch h.tables
  links := kept_of_switch h.links
  linkPunctuation := kept_of_switch h.linkPunctuation

theorem Exemption.spans_subset {o₁ o₂ : Options} (h : o₁.Laxer o₂) (d : Document) :
    spans d o₂ ⊆ spans d o₁ := by
  intro x hx
  rw [spans, List.mem_append] at hx ⊢
  rcases hx with hx | hx
  · left
    by_cases hcode : o₂.ignoreCodeBlocks = true
    · rw [if_pos hcode] at hx
      rw [if_pos (h.codeBlocks hcode)]
      exact hx
    · rw [if_neg hcode] at hx
      cases hx
  · right
    by_cases htable : o₂.ignoreTables = true
    · rw [if_pos htable] at hx
      rw [if_pos (h.tables htable)]
      exact hx
    · rw [if_neg htable] at hx
      cases hx

theorem Document.matchingLines_sublist (d : Document) {p q : List Char → Bool}
    (h : ∀ text, p text = true → q text = true) : (d.matchingLines p).Sublist (d.matchingLines q) := by
  apply List.Sublist.map
  apply List.monotone_filter_right
  intro ⟨n, text⟩ hp
  exact h text hp

namespace Check

theorem tooLong_of_laxer {o₁ o₂ : Options} (h : o₁.Laxer o₂) {text : List Char}
    (hlong : tooLong o₁ text = true) : tooLong o₂ text = true := by
  rw [tooLong_iff] at hlong ⊢
  obtain ⟨hlen, hlink⟩ := hlong
  have hle : o₂.lineLength.toNat ≤ o₁.lineLength.toNat := UInt64.le_iff_toNat_le.mp h.lineLength
  refine ⟨by omega, ?_⟩
  rintro ⟨hignore, hends⟩
  exact hlink ⟨h.links hignore, LinkTail.ends_mono h.linkPunctuation hends⟩

theorem uncovered_of_laxer {o₁ o₂ : Options} (h : o₁.Laxer o₂) (d : Document) (n : UInt32)
    (hn : (!(Exemption.spans d o₁).any (·.covers n)) = true) :
    (!(Exemption.spans d o₂).any (·.covers n)) = true := by
  rw [Bool.not_eq_true', List.any_eq_false] at hn ⊢
  intro x hx
  exact hn x (Exemption.spans_subset h d hx)

/-- What laxer options report is in order a part of what the others report. -/
theorem violations_sublist {o₁ o₂ : Options} (h : o₁.Laxer o₂) (d : Document) :
    (violations d o₁).Sublist (violations d o₂) := by
  -- first with the spans exchanged, then with the lines that are too long
  have hspans : (violations d o₁).Sublist
      ((d.matchingLines (tooLong o₁)).filter fun n => !(Exemption.spans d o₂).any (·.covers n)) := by
    apply List.monotone_filter_right
    exact uncovered_of_laxer h d
  have hlines : (d.matchingLines (tooLong o₁)).Sublist (d.matchingLines (tooLong o₂)) :=
    d.matchingLines_sublist fun _ => tooLong_of_laxer h
  exact hspans.trans (hlines.filter _)

theorem diagnostics_sublist {x₁ x₂ : Overrides} (h : x₁.Milder x₂) (d : Document) (s : Settings) :
    (diagnostics d (x₁.apply s)).Sublist (diagnostics d (x₂.apply s)) := by
  -- the words of a report depend on the length and the severity, and overrides differ in neither
  have hsame : diagnostic (x₁.apply s) = diagnostic (x₂.apply s) := by
    funext n info
    simp only [diagnostic, Overrides.apply, h.lineLength]
  rw [diagnostics, diagnostics, hsame]
  exact (violations_sublist (h.laxer s) d).filterMap _

/-- Laxer options report fewer lines, and so do overrides that switch off less. -/
theorem reports_antitone :
    (∀ (d : Document) (o₁ o₂ : Options), o₁.Laxer o₂ → violations d o₁ ⊆ violations d o₂) ∧
    ∀ (d : Document) (s : Settings) (x₁ x₂ : Overrides), x₁.Milder x₂ →
      (diagnostics d (x₁.apply s)).filterMap (·.line?) ⊆ (diagnostics d (x₂.apply s)).filterMap (·.line?) := by
  constructor
  · intro d o₁ o₂ h
    exact (violations_sublist h d).subset
  · intro d s x₁ x₂ h
    exact ((diagnostics_sublist h d s).filterMap _).subset

/-- A link excuses its line in spite of the full stop after it, until the overrides forbid marks after links. -/
theorem reports_antitone_marks :
    let d := Document.ofSource "see [a](b).\nmore text"
    let s : Settings := { options := { lineLength := 6 } }
    let x : Overrides := { noIgnoreLinkPunctuation := true }
    s.options.Laxer (x.apply s).options ∧ ({} : Overrides).Milder x ∧
      violations d s.options = [2] ∧ violations d (x.apply s).options = [1, 2] ∧
      violations d s.options ⊆ violations d (x.apply s).options ∧
      (diagnostics d (({} : Overrides).apply s)).filterMap (·.line?) ⊆
        (diagnostics d (x.apply s)).filterMap (·.line?) := by
  intro d s x
  have hmilder : ({} : Overrides).Milder x := by
    constructor <;> decide
  have hlaxer : s.options.Laxer (x.apply s).options := hmilder.laxer s
  have hfirst : violations d s.options = [2] := by cbv
  have hsecond : violations d (x.apply s).options = [1, 2] := by cbv
  exact ⟨hlaxer, hmilder, hfirst, hsecond, reports_antitone.1 d _ _ hlaxer, reports_antitone.2 d s _ _ hmilder⟩

end Check

end LineLimit

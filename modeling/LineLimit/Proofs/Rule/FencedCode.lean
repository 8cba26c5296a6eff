import LineLimit.Markdown.Outline
import LineLimit.Proofs.Rule.Violations
/-!
Code between fences. The literal text of such a block is its lines joined by line feeds, and the lines are counted
by splitting that text again. An empty line at the end gets lost on the way, so that its span ends on the last
line of the block unless this line is empty.
-/

namespace LineLimit

namespace Line

theorem split_append_lf {text : List Char} (h : Unbroken text) (rest : List Char) :
    split (text ++ '\n' :: rest) = ⟨text, some .lf⟩ :: split rest := by
  rw [split_append, split_cons, push_lf, foldr_push_text h, List.append_nil]

theorem split_unbroken {text : List Char} (h : Unbroken text) (hne : text ≠ []) : split text = [⟨text, none⟩] :=
  foldr_push_last h hne

/-- Splitting joined lines gives as many lines, or one less when the last one is empty. -/
theorem length_split_intercalate {contents : List (List Char)} (h : ∀ text ∈ contents, Unbroken text)
    (hne : contents ≠ []) :
    (split (['\n'].intercalate contents)).length =
      if contents.getLast? = some [] then contents.length - 1 else contents.length := by
  induction contents with
  | nil => exact absurd rfl hne
  | cons text rest ih =>
      have htext : Unbroken text := h text List.mem_cons_self
      cases rest with
      | nil =>
          rw [List.intercalate_singleton, List.getLast?_singleton]
          by_cases hempty : text = []
          · rw [hempty]
            rfl
          · rw [split_unbroken htext hempty, if_neg fun heq => hempty (Option.some.inj heq)]
            rfl
      | cons next more =>
          have hrest := ih (fun text' ht => h text' (List.mem_cons_of_mem text ht)) (List.cons_ne_nil next more)
          rw [List.intercalate_cons_cons, List.append_assoc, List.singleton_append, split_append_lf htext,
            List.length_cons, hrest, List.getLast?_cons_cons]
          split
          · rfl
          · rfl

end Line

namespace Exemption

theorem toNat_saturatingAdd {a b : UInt32} (h : a.toNat + b.toNat < 2 ^ 32) :
    (saturatingAdd a b).toNat = a.toNat + b.toNat := by
  have hsize : UInt32.size = 2 ^ 32 := rfl
  rw [saturatingAdd, toNat_word (by omega)]
  omega

theorem within_of_le {count first last : UInt32} (hpos : 1 ≤ first.toNat) (hle : first.toNat ≤ last.toNat)
    (hlast : last.toNat ≤ count.toNat) (reason : Reason) :
    within count first last reason = some ⟨first, last, reason⟩ := by
  have hmin : min last count = last := if_pos (UInt32.le_iff_toNat_le.mpr hlast)
  have hin : ¬ (first = 0 ∨ count < first ∨ last < first) := by
    rintro (rfl | h | h)
    · exact absurd hpos (by decide)
    · have hlt := UInt32.lt_iff_toNat_lt.mp h
      omega
    · have hlt := UInt32.lt_iff_toNat_lt.mp h
      omega
  simp only [within, hmin, if_neg hin]

theorem ofCodeBlock_of_le {count n : UInt32} {e : Element} (hl : e.location = some n) (hpos : 1 ≤ n.toNat)
    (hlast : n.toNat + e.valueLines.toNat ≤ count.toNat) :
    ∃ x, ofCodeBlock count e = some x ∧ x.first = n ∧ x.last.toNat = n.toNat + e.valueLines.toNat ∧
      x.reason = .codeBlock := by
  have hcount := count.toNat_lt
  have hadd : (saturatingAdd n e.valueLines).toNat = n.toNat + e.valueLines.toNat := toNat_saturatingAdd (by omega)
  refine ⟨⟨n, saturatingAdd n e.valueLines, .codeBlock⟩, ?_, rfl, hadd, rfl⟩
  rw [ofCodeBlock, hl, Option.bind_some]
  exact within_of_le hpos (by omega) (by omega) .codeBlock

/-- A block of code between fences. The opening fence stands on line `n` and the lines of the block on the lines
after it, where other text may come before them. The literal text is the lines joined by line feeds. -/
structure Fenced (d : Document) (e : Element) (n : UInt32) (contents : List (List Char)) : Prop where
  within : e.Within d.elements
  kind : e.kind = .codeBlock
  location : e.location = some n
  pos : 1 ≤ n.toNat
  value : e.value = some (String.ofList (['\n'].intercalate contents))
  nonempty : contents ≠ []
  unbroken : ∀ text ∈ contents, Line.Unbroken text
  fits : n.toNat + contents.length ≤ d.lineCount.toNat
  shown : ∀ i, (hi : i < contents.length) → ∃ l ∈ d.lines[n.toNat + i]?, contents[i] <:+ l.text

variable {d : Document} {e : Element} {n : UInt32} {contents : List (List Char)}

theorem Fenced.toNat_valueLines (h : Fenced d e n contents) :
    e.valueLines.toNat = if contents.getLast? = some [] then contents.length - 1 else contents.length := by
  have hcount := d.lineCount.toNat_lt
  have hfits := h.fits
  have hlines := Line.length_split_intercalate h.unbroken h.nonempty
  simp only [Element.valueLines, h.value, String.toList_ofList]
  rw [toNat_word, hlines]
  rw [hlines]
  split <;> omega

theorem Fenced.mem_spans (h : Fenced d e n contents) {x : Exemption} (hx : ofCodeBlock d.lineCount e = some x)
    {o : Options} (ho : o.ignoreCodeBlocks = true) : x ∈ spans d o := by
  have hfound : e ∈ d.elementsOf .codeBlock := Element.mem_findIn_iff.mpr ⟨h.within, h.kind⟩
  rw [spans, if_pos ho]
  exact List.mem_append_left _ (List.mem_filterMap.mpr ⟨e, hfound, hx⟩)

end Exemption

namespace Check

open Exemption

theorem not_mem_violations_of_covers {d : Document} {o : Options} {n : UInt32} {x : Exemption} (hx : x ∈ spans d o)
    (hcover : x.covers n = true) : n ∉ violations d o := by
  intro hn
  have hfree := (List.mem_filter.mp hn).2
  rw [Bool.not_eq_true', List.any_eq_false] at hfree
  exact hfree x hx hcover

variable {d : Document} {e : Element} {n : UInt32} {contents : List (List Char)}

/-- The span of a block between fences goes from the opening fence to the last line of the block exactly when this
line is not empty, and to the line before it otherwise. When code blocks are left out, no line of the block is
reported but a last one whose own part is empty. -/
theorem fenced_span_iff (h : Fenced d e n contents) :
    ∃ x, ofCodeBlock d.lineCount e = some x ∧ x.first = n ∧ x.reason = .codeBlock ∧
      (x.last.toNat = n.toNat + contents.length ↔ contents.getLast? ≠ some []) ∧
      (contents.getLast? = some [] → x.last.toNat + 1 = n.toNat + contents.length) ∧
      ∀ o : Options, o.ignoreCodeBlocks = true → x ∈ spans d o ∧
        ∀ i, 1 ≤ i → i ≤ contents.length → .ofNat (n.toNat + i) ∈ violations d o →
          i = contents.length ∧ contents.getLast? = some [] := by
  have hfits := h.fits
  have hcount := d.lineCount.toNat_lt
  have hpositive : 0 < contents.length := List.length_pos_iff.mpr h.nonempty
  have hlines := h.toNat_valueLines
  have hle : e.valueLines.toNat ≤ contents.length := by
    rw [hlines]
    split <;> omega
  obtain ⟨x, hx, hfirst, hlast, hreason⟩ := ofCodeBlock_of_le h.location h.pos (Nat.le_trans (by omega) hfits)
  rw [hlines] at hlast
  refine ⟨x, hx, hfirst, hreason, ?_, ?_, ?_⟩
  · rw [hlast]
    split
    · next hempty => exact ⟨fun heq => by omega, fun hne => absurd hempty hne⟩
    · next hempty => exact ⟨fun _ => hempty, fun _ => rfl⟩
  · intro hempty
    rw [hlast, if_pos hempty]
    omega
  · intro o ho
    have hmem := h.mem_spans hx ho
    refine ⟨hmem, ?_⟩
    intro i hpos hi hviolation
    by_contra hother
    have hline : (UInt32.ofNat (n.toNat + i)).toNat = n.toNat + i := toNat_word (by omega)
    have hreach : n.toNat + i ≤ x.last.toNat := by
      rw [hlast]
      split
      · next hempty =>
          have hbefore : i ≠ contents.length := fun heq => hother ⟨heq, hempty⟩
          omega
      · omega
    have hcover : x.covers (.ofNat (n.toNat + i)) = true := by
      apply decide_eq_true
      rw [UInt32.le_iff_toNat_le, UInt32.le_iff_toNat_le, hline, hfirst]
      omega
    exact not_mem_violations_of_covers hmem hcover hviolation

/-- A block of two lines, the first of which is empty. -/
theorem fenced_span_iff_quoted :
    let e : Element := ⟨.codeBlock, some 1, some "\naaaaaa", []⟩
    let d := Document.new "> ```\n>\n> aaaaaa\n> ```\n" [⟨.blockQuote, some 1, none, [e]⟩]
    Markdown.outline d.source = d.elements ∧ Fenced d e 1 [[], ['a', 'a', 'a', 'a', 'a', 'a']] ∧
      (∃ x, ofCodeBlock d.lineCount e = some x ∧ x.last.toNat = 3) ∧
      violations d { lineLength := 5 } = [] ∧ violations d { lineLength := 5, ignoreCodeBlocks := false } = [3] := by
  intro e d
  have hfenced : Fenced d e 1 [[], ['a', 'a', 'a', 'a', 'a', 'a']] := by
    constructor
    case within => exact .inner _ (.root _)
    all_goals decide
  obtain ⟨x, hx, _, _, hlast, _⟩ := fenced_span_iff hfenced
  exact ⟨by cbv, hfenced, ⟨x, hx, hlast.mpr (by decide)⟩, by cbv, by cbv⟩

/-- A block of two lines, the second of which is empty. Its line is reported for the signs of the quotes around. -/
theorem fenced_span_ends_early :
    let e : Element := ⟨.codeBlock, some 1, some "a\n", []⟩
    let inner : Element := ⟨.blockQuote, some 1, none, [⟨.blockQuote, some 1, none, [e]⟩]⟩
    let d := Document.new ">>>```\n>>>a\n>   >   >\n>>>```\n" [⟨.blockQuote, some 1, none, [inner]⟩]
    Markdown.outline d.source = d.elements ∧ Fenced d e 1 [['a'], []] ∧
      ofCodeBlock d.lineCount e = some ⟨1, 2, .codeBlock⟩ ∧ violations d { lineLength := 8 } = [3] := by
  intro e inner d
  have hfenced : Fenced d e 1 [['a'], []] := by
    constructor
    case within => exact .inner _ (.inner _ (.inner _ (.root _)))
    all_goals decide
  exact ⟨by cbv, hfenced, by cbv, by cbv⟩

end Check

end LineLimit

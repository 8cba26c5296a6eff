import LineLimit.Text.Line
/-!
Lines as a grammar. A regular list of lines can be read back from the text that it makes: no text of a line
holds an ending, only the last line lacks one, and no two endings join. Splitting gives regular lines, so that
splitting and writing undo each other.
-/

namespace LineLimit.Line

def Unbroken (text : List Char) : Prop := '\n' ∉ text ∧ '\r' ∉ text

instance : DecidablePred Unbroken := fun text => inferInstanceAs (Decidable ('\n' ∉ text ∧ '\r' ∉ text))

/-- Whether a line can stand directly before others. The last line needs an ending or some text. Any other line
needs an ending, and a bare carriage return would take in a line feed that directly follows. -/
def Before (l : Line) : List Line → Prop
  | [] => l.ending = none → l.text ≠ []
  | next :: _ =>
    l.ending ≠ none ∧ ¬ (l.ending = some .cr ∧ next.text = [] ∧ next.ending = some .lf)

inductive Regular : List Line → Prop
  | nil : Regular []
  | cons {l : Line} {rest : List Line} : Unbroken l.text → l.Before rest → Regular rest → Regular (l :: rest)

theorem Unbroken.cons {c : Char} {text : List Char} (hn : c ≠ '\n') (hr : c ≠ '\r') (h : Unbroken text) :
    Unbroken (c :: text) :=
  ⟨List.not_mem_cons_of_ne_of_not_mem hn.symm h.1, List.not_mem_cons_of_ne_of_not_mem hr.symm h.2⟩

theorem Unbroken.of_cons {c : Char} {text : List Char} (h : Unbroken (c :: text)) :
    c ≠ '\n' ∧ c ≠ '\r' ∧ Unbroken text := by
  simp only [Unbroken, List.mem_cons, not_or] at h
  exact ⟨fun e => h.1.1 e.symm, fun e => h.2.1 e.symm, h.1.2, h.2.2⟩

theorem unbroken_nil : Unbroken [] := ⟨List.not_mem_nil, List.not_mem_nil⟩

@[simp] theorem write_nil : write [] = [] := rfl

@[simp] theorem write_cons (l : Line) (rest : List Line) : write (l :: rest) = l.chars ++ write rest := rfl

@[simp] theorem write_append (xs ys : List Line) : write (xs ++ ys) = write xs ++ write ys :=
  List.flatMap_append

theorem push_lf (lines : List Line) : push '\n' lines = ⟨[], some .lf⟩ :: lines := rfl

theorem push_cr_lf (rest : List Line) : push '\r' (⟨[], some .lf⟩ :: rest) = ⟨[], some .crlf⟩ :: rest := rfl

theorem push_cr {lines : List Line} (h : ∀ rest, lines ≠ ⟨[], some .lf⟩ :: rest) :
    push '\r' lines = ⟨[], some .cr⟩ :: lines := by
  unfold push
  rw [if_neg (by decide), if_pos rfl]
  split
  · exact absurd rfl (h _)
  · rfl

theorem push_text_nil {c : Char} (hn : c ≠ '\n') (hr : c ≠ '\r') : push c [] = [⟨[c], none⟩] := by
  simp only [push, if_neg hn, if_neg hr]

theorem push_text {c : Char} (hn : c ≠ '\n') (hr : c ≠ '\r') (l : Line) (rest : List Line) :
    push c (l :: rest) = ⟨c :: l.text, l.ending⟩ :: rest := by
  simp only [push, if_neg hn, if_neg hr]

theorem Regular.cons_empty {e : Ending} {lines : List Line} (h : Regular lines)
    (hj : e = .cr → ∀ rest, lines ≠ ⟨[], some .lf⟩ :: rest) : Regular (⟨[], some e⟩ :: lines) := by
  refine .cons unbroken_nil ?_ h
  cases lines with
  | nil => exact fun he => nomatch he
  | cons next rest =>
      refine ⟨nofun, ?_⟩
      rintro ⟨he, ht, hf⟩
      obtain ⟨text, ending⟩ := next
      cases he
      cases ht
      cases hf
      exact hj rfl rest rfl

theorem Before.longer {c : Char} {text : List Char} {ending : Option Ending} {rest : List Line}
    (h : Before ⟨text, ending⟩ rest) : Before ⟨c :: text, ending⟩ rest := by
  cases rest with
  | nil => exact fun _ => List.cons_ne_nil c text
  | cons next more => exact h

/-- The step of the splitter: lines stay regular when a character is put in front of them. -/
theorem Regular.push {lines : List Line} (h : Regular lines) (c : Char) : Regular (push c lines) := by
  by_cases hn : c = '\n'
  · subst hn
    exact h.cons_empty nofun
  by_cases hr : c = '\r'
  · subst hr
    by_cases hj : ∃ rest, lines = ⟨[], some .lf⟩ :: rest
    · obtain ⟨rest, rfl⟩ := hj
      cases h with
      | cons _ _ hrest => exact hrest.cons_empty nofun
    · have hj' : ∀ rest, lines ≠ ⟨[], some .lf⟩ :: rest := fun rest e => hj ⟨rest, e⟩
      rw [push_cr hj']
      exact h.cons_empty fun _ => hj'
  cases h with
  | nil =>
      rw [push_text_nil hn hr]
      exact .cons (unbroken_nil.cons hn hr) (fun _ => List.cons_ne_nil c []) .nil
  | @cons l rest hl hb hrest =>
      rw [push_text hn hr]
      exact .cons (hl.cons hn hr) hb.longer hrest

/-- The run of the splitter: every text is split into regular lines. -/
theorem regular_split (s : List Char) : Regular (split s) := by
  induction s with
  | nil => exact .nil
  | cons c s ih => exact ih.push c

theorem foldr_push_text {text : List Char} (h : Unbroken text) (l : Line) (rest : List Line) :
    text.foldr push (l :: rest) = ⟨text ++ l.text, l.ending⟩ :: rest := by
  induction text with
  | nil => rfl
  | cons c text ih =>
      obtain ⟨hn, hr, ht⟩ := h.of_cons
      rw [List.foldr_cons, ih ht, push_text hn hr]
      rfl

theorem foldr_push_last {text : List Char} (h : Unbroken text) (hne : text ≠ []) :
    text.foldr push [] = [⟨text, none⟩] := by
  induction text with
  | nil => exact absurd rfl hne
  | cons c text ih =>
      obtain ⟨hn, hr, ht⟩ := h.of_cons
      by_cases he : text = []
      · subst he
        exact push_text_nil hn hr
      · rw [List.foldr_cons, ih ht he, push_text hn hr]

theorem foldr_push_ending {text : List Char} {e : Ending} {rest : List Line}
    (h : Before ⟨text, some e⟩ rest) : e.chars.foldr push rest = ⟨[], some e⟩ :: rest := by
  cases e with
  | lf => exact push_lf rest
  | crlf => exact push_cr_lf rest
  | cr =>
      refine push_cr fun more he => ?_
      subst he
      exact h.2 ⟨rfl, rfl, rfl⟩

theorem split_append (s t : List Char) : split (s ++ t) = s.foldr push (split t) :=
  List.foldr_append

/-- Splitting what regular lines make gives the lines back. -/
theorem split_write {lines : List Line} (h : Regular lines) : split (write lines) = lines := by
  induction h with
  | nil => rfl
  | @cons l rest hl hb hrest ih =>
      obtain ⟨text, ending⟩ := l
      rw [write_cons, chars, List.append_assoc, split_append, split_append, ih]
      cases ending with
      | some e => rw [endingChars, foldr_push_ending hb, foldr_push_text hl, List.append_nil]
      | none =>
          cases rest with
          | nil => exact foldr_push_last hl (hb rfl)
          | cons next more => exact absurd rfl hb.1

/-- The regular lists of lines are those that splitting gives. -/
theorem regular_iff {lines : List Line} : Regular lines ↔ split (write lines) = lines :=
  ⟨split_write, fun h => h ▸ regular_split (write lines)⟩

theorem Regular.tail {l : Line} {rest : List Line} (h : Regular (l :: rest)) : Regular rest := by
  cases h with
  | cons _ _ hrest => exact hrest

/-- A line at some place of regular lines is unbroken and can come before the lines after it, which are
regular. -/
theorem Regular.split_at {before after : List Line} {l : Line} (h : Regular (before ++ l :: after)) :
    Unbroken l.text ∧ l.Before after ∧ Regular after := by
  induction before with
  | nil =>
      cases h with
      | cons hl hb hr => exact ⟨hl, hb, hr⟩
  | cons _ before ih => exact ih h.tail

theorem Before.head?_write_ne {l : Line} {rest : List Line} (h : l.Before rest) (hr : Regular rest)
    (he : l.ending = some .cr) : (write rest).head? ≠ some '\n' := by
  cases hr with
  | nil => exact nofun
  | @cons next more ht hb _ =>
      obtain ⟨text, ending⟩ := next
      cases text with
      | cons c text =>
          intro hc
          exact ht.of_cons.1 (Option.some.inj hc)
      | nil =>
          match ending with
          | some .lf => exact absurd ⟨he, rfl, rfl⟩ h.2
          | some .crlf => exact (by decide : some '\r' ≠ some '\n')
          | some .cr => exact (by decide : some '\r' ≠ some '\n')
          | none =>
              cases more with
              | nil => exact absurd rfl (hb rfl)
              | cons _ _ => exact absurd rfl hb.1

theorem Before.of_ending_none {l : Line} {rest : List Line} (h : l.Before rest) (he : l.ending = none) :
    rest = [] ∧ l.text ≠ [] := by
  cases rest with
  | nil => exact ⟨rfl, h he⟩
  | cons next more => exact absurd he h.1

theorem length_push_le (c : Char) (lines : List Line) : (push c lines).length ≤ lines.length + 1 := by
  unfold push
  split
  · exact Nat.le_refl _
  · split
    · split
      · exact Nat.le_succ _
      · exact Nat.le_refl _
    · split
      · exact Nat.le_refl _
      · exact Nat.le_succ _

theorem length_split_le (s : List Char) : (split s).length ≤ s.length := by
  induction s with
  | nil => exact Nat.le_refl 0
  | cons c s ih =>
      have hp := length_push_le c (split s)
      rw [split_cons, List.length_cons]
      omega

end LineLimit.Line

import LineLimit.Proofs.Text.Grammar
/-!
Texts with one kind of ending. Converting a text writes another ending for every one that it has. The lines stay the
same but for their endings, since equal endings never join: of a carriage return and a line feed that would
become one ending, only one can be there.
-/

namespace LineLimit

namespace Line

/-- The text with all its endings written as one kind. A carriage return is one ending with the line feed that
directly follows it. -/
def convert (e : Ending) : List Char → List Char
  | [] => []
  | '\r' :: '\n' :: rest => e.chars ++ convert e rest
  | c :: rest => if c = '\n' ∨ c = '\r' then e.chars ++ convert e rest else c :: convert e rest

def endWith (e : Ending) (l : Line) : Line := { l with ending := l.ending.map fun _ => e }

@[simp] theorem text_endWith (e : Ending) (l : Line) : (l.endWith e).text = l.text := rfl

theorem ending_endWith {e e' : Ending} {l : Line} (h : (l.endWith e).ending = some e') : e = e' := by
  obtain ⟨_, _, heq⟩ := Option.map_eq_some_iff.mp h
  exact heq

theorem ending_endWith_eq_none_iff {e : Ending} {l : Line} : (l.endWith e).ending = none ↔ l.ending = none :=
  Option.map_eq_none_iff

theorem Before.endWith (e : Ending) {l : Line} {rest : List Line} (h : l.Before rest) :
    (l.endWith e).Before (rest.map (Line.endWith e)) := by
  cases rest with
  | nil =>
      intro hnone
      exact h (ending_endWith_eq_none_iff.mp hnone)
  | cons next rest =>
      refine ⟨fun hnone => h.1 (ending_endWith_eq_none_iff.mp hnone), ?_⟩
      -- the endings of both lines would be of the one kind
      rintro ⟨hcr, _, hlf⟩
      have hkind : Ending.cr = .lf := (ending_endWith hcr).symm.trans (ending_endWith hlf)
      exact nomatch hkind

theorem Regular.endWith (e : Ending) {lines : List Line} (h : Regular lines) :
    Regular (lines.map (Line.endWith e)) := by
  induction h with
  | nil => exact .nil
  | cons hl hb hrest ih => exact .cons hl (hb.endWith e) ih

theorem convert_text {e : Ending} {c : Char} (hn : c ≠ '\n') (hr : c ≠ '\r') (s : List Char) :
    convert e (c :: s) = c :: convert e s := by
  simp [convert, hn, hr]

theorem convert_append {e : Ending} {text : List Char} (h : Unbroken text) (s : List Char) :
    convert e (text ++ s) = text ++ convert e s := by
  induction text with
  | nil => rfl
  | cons c text ih =>
      obtain ⟨hn, hr, ht⟩ := h.of_cons
      rw [List.cons_append, convert_text hn hr, ih ht, List.cons_append]

theorem convert_cr {e : Ending} {s : List Char} (h : s.head? ≠ some '\n') :
    convert e ('\r' :: s) = e.chars ++ convert e s := by
  cases s with
  | nil => rfl
  | cons c s =>
      have hc : c ≠ '\n' := fun heq => h (congrArg some heq)
      simp [convert, hc]

theorem convert_ending {e e' : Ending} {s : List Char} (h : e' = .cr → s.head? ≠ some '\n') :
    convert e (e'.chars ++ s) = e.chars ++ convert e s := by
  cases e' with
  | lf => rfl
  | crlf => rfl
  | cr => exact convert_cr (h rfl)

/-- Converting what regular lines make gives what the lines make with the other ending. -/
theorem convert_write {lines : List Line} (h : Regular lines) (e : Ending) :
    convert e (write lines) = write (lines.map (Line.endWith e)) := by
  induction h with
  | nil => rfl
  | @cons l rest hl hb hrest ih =>
      have hhead := hb.head?_write_ne hrest
      obtain ⟨text, ending⟩ := l
      rw [List.map_cons, write_cons, write_cons, chars, chars, List.append_assoc, convert_append hl,
        text_endWith, List.append_assoc]
      cases ending with
      | some e' =>
          -- a bare carriage return is no half of an ending, since no line feed can follow it
          change text ++ convert e (e'.chars ++ write rest) = text ++ (e.chars ++ _)
          rw [convert_ending fun hcr => hhead (congrArg some hcr), ih]
      | none =>
          obtain ⟨rfl, _⟩ := hb.of_ending_none rfl
          rfl

/-- The lines of a converted text are the lines of the text with the other ending. -/
theorem split_convert (e : Ending) (s : List Char) : split (convert e s) = (split s).map (Line.endWith e) := by
  have hreg := regular_split s
  calc split (convert e s) = split (convert e (write (split s))) := by rw [write_split]
    _ = split (write ((split s).map (Line.endWith e))) := by rw [convert_write hreg]
    _ = (split s).map (Line.endWith e) := split_write (hreg.endWith e)

example : convert .crlf ['a', '\r', '\r', '\n', '\n', 'b'] =
    ['a', '\r', '\n', '\r', '\n', '\r', '\n', 'b'] := by decide

end Line

def convertText (e : Ending) (s : String) : String := String.ofList (Line.convert e s.toList)

theorem split_convertText (e : Ending) (s : String) :
    Line.split (convertText e s).toList = (Line.split s.toList).map (Line.endWith e) := by
  rw [convertText, String.toList_ofList, Line.split_convert]

end LineLimit

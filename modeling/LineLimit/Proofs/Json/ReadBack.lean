import LineLimit.Json.Relaxed.Parser
import LineLimit.Proofs.Json.Members
import LineLimit.Proofs.Json.Spelling
/-!
Printed values that are read again. The lexemes of a value are those of its printed text, and parsing them gives the value
back, as long as its numbers are whole and the members of its objects are in order.
-/

namespace LineLimit.Json

open Relaxed (Lexeme Breaks Spells Spelled Mark)

mutual

/-- A value whose printed text says all of it: it has whole numbers of 64 bits only, and its members are in ascending order
of their names. -/
def Exact : Json → Prop
  | .int n => Relaxed.Fits n
  | .float _ => False
  | .arr items => ExactItems items
  | .obj members => (members.map (·.1)).Pairwise (· < ·) ∧ ExactMembers members
  | _ => True

def ExactItems : List Json → Prop
  | [] => True
  | v :: rest => Exact v ∧ ExactItems rest

def ExactMembers : List (String × Json) → Prop
  | [] => True
  | (_, v) :: rest => Exact v ∧ ExactMembers rest

end

mutual

def lexemes : Json → List Lexeme
  | .null => [.null]
  | .bool b => [.bool b]
  | .int n => [.number (toString n) (.int n)]
  | .float x => [.number x.write (.float x)]
  | .str s => [.str s]
  | .arr items => .openBracket :: ([.comma].intercalate (itemLexemes items) ++ [.closeBracket])
  | .obj members => .openBrace :: ([.comma].intercalate (memberLexemes members) ++ [.closeBrace])

def itemLexemes : List Json → List (List Lexeme)
  | [] => []
  | v :: rest => lexemes v :: itemLexemes rest

def memberLexemes : List (String × Json) → List (List Lexeme)
  | [] => []
  | (n, v) :: rest => (.str n :: .colon :: lexemes v) :: memberLexemes rest

end

/-- Parts of a text that consist of some lexemes each. -/
def SpelledAll (parts : List String) (lss : List (List Lexeme)) : Prop :=
  List.Forall₂ (fun part ls => Spelled part.toList ls) parts lss

variable {parts : List String} {lss : List (List Lexeme)} {rest : List Char} {more : List Lexeme}

theorem spells_newLine (level : Nat) (h : Spells rest more) : Spells ((newLine level).toList ++ rest) more := by
  have hblank : ∀ c ∈ (newLine level).toList, Unicode.isBlank c = true := by
    intro c hc
    have hcases : c = '\n' ∨ c = ' ' := by
      simp only [newLine, String.toList_append, String.toList_ofList, List.mem_append, List.mem_replicate] at hc
      rcases hc with hc | ⟨_, rfl⟩
      · exact .inl (List.mem_singleton.mp hc)
      · exact .inr rfl
    rcases hcases with rfl | rfl <;> decide
  exact h.gap hblank

theorem breaks_newLine (level : Nat) (rest : List Char) : Breaks ((newLine level).toList ++ rest) :=
  .inr ⟨_, .inr (by rw [newLine, String.toList_append]; rfl)⟩

/-- Parts with commas between them, each on a line of its own. -/
theorem spells_parts (h : SpelledAll parts lss) (level : Nat)
    (hbreaks : Breaks rest) (hrest : Spells rest more) :
    Spells ((",".intercalate (parts.map (newLine level ++ ·))).toList ++ rest) ([.comma].intercalate lss ++ more) := by
  induction h with
  | nil => exact hrest
  | @cons part ls parts lss hpart hparts ih =>
      cases hparts with
      | nil =>
          simp only [List.map_cons, List.map_nil, String.intercalate_singleton, List.intercalate_singleton,
            String.toList_append, List.append_assoc]
          exact spells_newLine level (hpart rest more hbreaks hrest)
      | cons hnext hparts =>
          simp only [List.map_cons, String.intercalate_cons_cons, List.intercalate_cons_cons,
            String.toList_append, List.append_assoc] at ih ⊢
          refine spells_newLine level (hpart _ _ (.inr ⟨_, .inl rfl⟩) ?_)
          exact Relaxed.mark_comma.spells ih

theorem spelled_block {opening closing : Char} {first last : Lexeme} (hopening : Mark opening first)
    (hclosing : Mark closing last) (h : SpelledAll parts lss) (level : Nat) :
    Spelled (block level opening.toString closing.toString parts).toList
      (first :: ([.comma].intercalate lss ++ [last])) := by
  intro rest more _ hrest
  have hclose : Spells (closing :: rest) (last :: more) := hclosing.spells hrest
  rw [List.cons_append, List.append_assoc]
  cases h with
  | nil =>
      have htext : (block level opening.toString closing.toString []).toList ++ rest = opening :: closing :: rest := by
        simp [block]
      rw [htext]
      exact hopening.spells hclose
  | @cons part ls parts lss hpart hparts =>
      have htext : (block level opening.toString closing.toString (part :: parts)).toList ++ rest =
          opening :: ((",".intercalate ((part :: parts).map (newLine (level + 1) ++ ·))).toList ++
            ((newLine level).toList ++ closing :: rest)) := by
        simp [block, -List.map_cons]
      rw [htext]
      exact hopening.spells (spells_parts (.cons hpart hparts) _ (breaks_newLine level _) (spells_newLine level hclose))

mutual

theorem spelled_pretty (v : Json) (h : Exact v) (level : Nat) : Spelled (pretty level v).toList (lexemes v) := by
  cases v with
  | null =>
      have hnull : ("null", Lexeme.null) ∈ Relaxed.keywords := by simp [Relaxed.keywords]
      exact Relaxed.spelled_keyword hnull
  | bool b =>
      have hbool : (if b then "true" else "false", Lexeme.bool b) ∈ Relaxed.keywords := by
        cases b <;> simp [Relaxed.keywords]
      exact Relaxed.spelled_keyword hbool
  | int n => exact Relaxed.spelled_int h
  | float x => exact h.elim
  | str s => exact fun rest more _ hrest => Relaxed.spells_quote s hrest
  | arr items =>
      exact spelled_block Relaxed.mark_openBracket Relaxed.mark_closeBracket (spelled_items items h (level + 1)) level
  | obj members =>
      exact spelled_block Relaxed.mark_openBrace Relaxed.mark_closeBrace (spelled_members members h.2 (level + 1)) level

theorem spelled_items (items : List Json) (h : ExactItems items) (level : Nat) :
    SpelledAll (prettyItems level items) (itemLexemes items) := by
  cases items with
  | nil => exact .nil
  | cons v rest => exact .cons (spelled_pretty v h.1 level) (spelled_items rest h.2 level)

theorem spelled_members (members : List (String × Json)) (h : ExactMembers members) (level : Nat) :
    SpelledAll (prettyMembers level members) (memberLexemes members) := by
  cases members with
  | nil => exact .nil
  | cons first rest =>
      obtain ⟨name, v⟩ := first
      refine .cons ?_ (spelled_members rest h.2 level)
      intro after more hbreaks hafter
      -- A colon is no break. The name before it is a string, which ends by itself.
      have hvalue := (spelled_pretty v h.1 level) after more hbreaks hafter
      have hgap : ∀ c ∈ [' '], Unicode.isBlank c = true := List.forall_mem_singleton.mpr rfl
      simp only [String.toList_append, List.append_assoc]
      exact Relaxed.spells_quote name (Relaxed.mark_colon.spells (hvalue.gap hgap))

end

section Parsing

open Relaxed (Token parseValue parseItems parseMembers)
open Relaxed.Input (peek skipComma)

variable {i : List Token} {l : Lexeme} {ls : List Lexeme}

def Shows (i : List Token) (ls : List Lexeme) : Prop := i.map (·.content) = ls.map .ok

theorem peek_of_shows (h : Shows i (l :: ls)) : peek i = .ok (some l) ∧ Shows i.tail ls := by
  obtain ⟨t, i, rfl, hcontent, hrest⟩ := List.map_eq_cons_iff.mp h
  refine ⟨?_, hrest⟩
  rw [peek]
  simp only [hcontent]

theorem eq_nil_of_shows (h : Shows i []) : i = [] := List.map_eq_nil_iff.mp h

theorem length_of_shows (h : Shows i ls) : i.length = ls.length := by
  have hlength := congrArg List.length h
  rwa [List.length_map, List.length_map] at hlength

def afterPart : List (List Lexeme) → List Lexeme
  | [] => []
  | lss => .comma :: [.comma].intercalate lss

theorem intercalate_cons (ls : List Lexeme) (lss : List (List Lexeme)) :
    [Lexeme.comma].intercalate (ls :: lss) = ls ++ afterPart lss := by
  cases lss with
  | nil => rw [List.intercalate_singleton, afterPart, List.append_nil]
  | cons next lss =>
      rw [List.intercalate_cons_cons, List.append_assoc]
      rfl

theorem length_le_afterPart (lss : List (List Lexeme)) :
    ([Lexeme.comma].intercalate lss).length ≤ (afterPart lss).length := by
  cases lss with
  | nil => exact Nat.le_refl 0
  | cons next lss => exact Nat.le_succ _

theorem skipComma_of_shows {last : Lexeme} (hlast : last ≠ .comma) (h : Shows i (afterPart lss ++ last :: more)) :
    ∃ i', skipComma i = .ok i' ∧ Shows i' ([.comma].intercalate lss ++ last :: more) := by
  cases lss with
  | nil =>
      obtain ⟨hpeek, _⟩ := peek_of_shows h
      refine ⟨i, ?_, h⟩
      simp [skipComma, hpeek, bind, Except.bind, pure, Except.pure, hlast]
  | cons next lss =>
      obtain ⟨hpeek, hrest⟩ := peek_of_shows h
      refine ⟨i.tail, ?_, hrest⟩
      simp [skipComma, hpeek, bind, Except.bind, pure, Except.pure]

/-- The first lexeme of a value does not end an array. -/
theorem exists_lexemes_eq_cons (v : Json) : ∃ l ls, lexemes v = l :: ls ∧ l ≠ .closeBracket := by
  cases v with
  | null | bool _ | int _ | float _ | str _ | arr _ | obj _ => exact ⟨_, _, rfl, nofun⟩

theorem length_lexemes_pos (v : Json) : 0 < (lexemes v).length := by
  obtain ⟨l, ls, hcons, _⟩ := exists_lexemes_eq_cons v
  rw [hcons]
  exact Nat.succ_pos _

mutual

theorem parseValue_lexemes (v : Json) (h : Exact v) {fuel : Nat} {i : List Token} {more : List Lexeme}
    (hfuel : (lexemes v).length ≤ fuel) (hi : Shows i (lexemes v ++ more)) :
    ∃ i', parseValue fuel i = .ok (v, i') ∧ Shows i' more := by
  -- the fuel lasts because it goes down by one where at least one lexeme is read
  cases fuel with
  | zero =>
      have hpositive := length_lexemes_pos v
      omega
  | succ fuel =>
      cases v with
      | null | bool _ | int _ | str _ =>
          obtain ⟨hpeek, hrest⟩ := peek_of_shows hi
          refine ⟨i.tail, ?_, hrest⟩
          simp only [parseValue, hpeek]
          rfl
      | float x => exact h.elim
      | arr items =>
          rw [lexemes, List.length_cons, List.length_append, List.length_singleton] at hfuel
          rw [lexemes, List.cons_append, List.append_assoc] at hi
          obtain ⟨hpeek, hrest⟩ := peek_of_shows hi
          obtain ⟨i', hparse, hshows⟩ :=
            parseItems_lexemes items h (Relaxed.Input.rest i) [] (Nat.le_of_succ_le_succ hfuel) hrest
          refine ⟨i', ?_, hshows⟩
          simp only [parseValue, hpeek, bind, Except.bind, hparse]
          rfl
      | obj members =>
          rw [lexemes, List.length_cons, List.length_append, List.length_singleton] at hfuel
          rw [lexemes, List.cons_append, List.append_assoc] at hi
          obtain ⟨hpeek, hrest⟩ := peek_of_shows hi
          obtain ⟨i', hparse, hshows⟩ :=
            parseMembers_lexemes members h.2 (Relaxed.Input.rest i) [] (Nat.le_of_succ_le_succ hfuel) hrest
          refine ⟨i', ?_, hshows⟩
          simp only [parseValue, hpeek, bind, Except.bind, hparse, List.reverse_nil, List.nil_append,
            object_of_ascending h.1]
          rfl

theorem parseItems_lexemes (items : List Json) (h : ExactItems items) (opened : List Char) (done : List Json)
    {fuel : Nat} {i : List Token} {more : List Lexeme}
    (hfuel : ([Lexeme.comma].intercalate (itemLexemes items)).length < fuel)
    (hi : Shows i ([Lexeme.comma].intercalate (itemLexemes items) ++ .closeBracket :: more)) :
    ∃ i', parseItems fuel opened done i = .ok (done.reverse ++ items, i') ∧ Shows i' more := by
  cases fuel with
  | zero => omega
  | succ fuel =>
      cases items with
      | nil =>
          obtain ⟨hpeek, hrest⟩ := peek_of_shows hi
          refine ⟨i.tail, ?_, hrest⟩
          simp only [parseItems, hpeek, List.append_nil]
          rfl
      | cons v rest =>
          rw [itemLexemes, intercalate_cons, List.length_append] at hfuel
          rw [itemLexemes, intercalate_cons, List.append_assoc] at hi
          -- The parser looks at the first lexeme of the item to see that the array goes on.
          obtain ⟨l, ls, hcons, hl⟩ := exists_lexemes_eq_cons v
          have hpeek : peek i = .ok (some l) := by
            rw [hcons] at hi
            exact (peek_of_shows hi).1
          have hpositive := length_lexemes_pos v
          have hafter := length_le_afterPart (itemLexemes rest)
          have hvaluefuel : (lexemes v).length ≤ fuel := by omega
          have hrestfuel : ([Lexeme.comma].intercalate (itemLexemes rest)).length < fuel := by omega
          have hlast : Lexeme.closeBracket ≠ .comma := nofun
          obtain ⟨i₁, hvalue, hi₁⟩ := parseValue_lexemes v h.1 hvaluefuel hi
          obtain ⟨i₂, hcomma, hi₂⟩ := skipComma_of_shows hlast hi₁
          obtain ⟨i₃, hparse, hi₃⟩ := parseItems_lexemes rest h.2 opened (v :: done) hrestfuel hi₂
          refine ⟨i₃, ?_, hi₃⟩
          simp only [parseItems, hpeek, bind, Except.bind, hvalue, hcomma, hparse]
          simp

theorem parseMembers_lexemes (members : List (String × Json)) (h : ExactMembers members) (opened : List Char)
    (done : List (String × Json)) {fuel : Nat} {i : List Token} {more : List Lexeme}
    (hfuel : ([Lexeme.comma].intercalate (memberLexemes members)).length < fuel)
    (hi : Shows i ([Lexeme.comma].intercalate (memberLexemes members) ++ .closeBrace :: more)) :
    ∃ i', parseMembers fuel opened done i = .ok (done.reverse ++ members, i') ∧ Shows i' more := by
  cases fuel with
  | zero => omega
  | succ fuel =>
      cases members with
      | nil =>
          obtain ⟨hpeek, hrest⟩ := peek_of_shows hi
          refine ⟨i.tail, ?_, hrest⟩
          simp only [parseMembers, hpeek, List.append_nil]
          rfl
      | cons first rest =>
          obtain ⟨name, v⟩ := first
          rw [memberLexemes, intercalate_cons, List.length_append, List.length_cons, List.length_cons] at hfuel
          rw [memberLexemes, intercalate_cons, List.append_assoc, List.cons_append, List.cons_append] at hi
          obtain ⟨hname, hi⟩ := peek_of_shows hi
          obtain ⟨hcolon, hi⟩ := peek_of_shows hi
          have hafter := length_le_afterPart (memberLexemes rest)
          have hvaluefuel : (lexemes v).length ≤ fuel := by omega
          have hrestfuel : ([Lexeme.comma].intercalate (memberLexemes rest)).length < fuel := by omega
          have hlast : Lexeme.closeBrace ≠ .comma := nofun
          obtain ⟨i₁, hvalue, hi₁⟩ := parseValue_lexemes v h.1 hvaluefuel hi
          obtain ⟨i₂, hcomma, hi₂⟩ := skipComma_of_shows hlast hi₁
          obtain ⟨i₃, hparse, hi₃⟩ := parseMembers_lexemes rest h.2 opened ((name, v) :: done) hrestfuel hi₂
          refine ⟨i₃, ?_, hi₃⟩
          simp only [parseMembers, hname, Relaxed.memberName?, hcolon, bind, Except.bind, hvalue, hcomma, hparse]
          simp

end

theorem shows_pretty (v : Json) (h : Exact v) {text : List Char} (htext : text = (v.pretty 0 ++ "\n").toList) :
    Shows (Relaxed.tokens (text.length + 1) text) (lexemes v) := by
  have hline : Spells ['\n'] [] := .blanks (List.forall_mem_singleton.mpr rfl)
  have hspells := spelled_pretty v h 0 ['\n'] [] (.inr ⟨[], .inr rfl⟩) hline
  rw [htext, String.toList_append]
  rw [List.append_nil] at hspells
  exact Relaxed.tokens_of_spells hspells (Nat.lt_succ_self _)

/-- What is printed is read as what has been printed. -/
theorem parse_pretty (v : Json) (h : Exact v) : Relaxed.parse (v.pretty 0 ++ "\n") = .ok (some v) := by
  have hshows := shows_pretty v h rfl
  rw [Relaxed.parse]
  generalize Relaxed.tokens _ _ = i at hshows ⊢
  obtain ⟨l, ls, hcons, _⟩ := exists_lexemes_eq_cons v
  have hpeek : peek i = .ok (some l) := by
    rw [hcons] at hshows
    exact (peek_of_shows hshows).1
  have hfuel : (lexemes v).length ≤ 2 * i.length + 2 := by
    rw [length_of_shows hshows]
    omega
  obtain ⟨i', hparse, hnone⟩ := parseValue_lexemes v h hfuel (by rwa [List.append_nil])
  have hend : i' = [] := eq_nil_of_shows hnone
  subst hend
  simp only [hpeek, bind, Except.bind, hparse]
  rfl

end Parsing

end LineLimit.Json

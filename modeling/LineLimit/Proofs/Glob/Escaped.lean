import LineLimit.Glob.Basic
import LineLimit.Proofs.Text.Bytes
/-!
Globs for one text. A text with a backslash before each of its characters is read as those characters, whatever they
mean in a glob, and matches that text and no other.
-/

namespace LineLimit.Glob

def escape (s : String) : String := .ofList (s.toList.flatMap fun c => ['\\', c])

theorem flatMap_bytes (cs : List Char) : cs.flatMap bytes = (String.ofList cs).toUTF8.toList := by
  rw [Utf8.toList_toUTF8, String.toList_ofList, Utf8.encode]
  congr 1
  funext c
  rw [bytes, Utf8.toList_toUTF8, Char.toString_eq_singleton, String.toList_singleton, Utf8.encode_cons, Utf8.encode_nil,
    List.append_nil]

theorem readAll_escaped (cs : List Char) {fuel : Nat} (hfuel : cs.length ≤ fuel) (previous : Option Char)
    (read : List Token) : readAll fuel previous ⟨[], ⟨[], read⟩⟩ (cs.flatMap fun c => ['\\', c]) =
      .ok ⟨[], ⟨[], (cs.map Token.literal).reverse ++ read⟩⟩ := by
  induction cs generalizing fuel previous read with
  | nil => cases fuel <;> rfl
  | cons c cs ih =>
      obtain ⟨fuel, rfl⟩ := Nat.exists_eq_add_one_of_ne_zero (Nat.ne_zero_of_lt hfuel)
      have hrest := ih (Nat.le_of_succ_le_succ hfuel) (some c) (.literal c :: read)
      rw [List.map_cons, List.reverse_cons, List.append_assoc, List.singleton_append, ← hrest]
      rfl

theorem parse_escape (s : String) : parse (escape s) = .ok ⟨escape s, s.toList.map .literal⟩ := by
  have hfuel : s.toList.length ≤ (s.toList.flatMap fun c => ['\\', c]).length := by
    simp [List.length_flatMap]
    omega
  have htokens : readTokens (escape s).toList = .ok (s.toList.map .literal) := by
    rw [escape, String.toList_ofList, readTokens, readAll_escaped s.toList hfuel none [], List.append_nil]
    exact congrArg Except.ok (List.reverse_reverse _)
  rw [parse, htokens]

theorem mem_restsOfAll_literals_iff {cs : List Char} {starts : List (List UInt8)} {rest : List UInt8} :
    rest ∈ restsOfAll (cs.map .literal) starts ↔ cs.flatMap bytes ++ rest ∈ starts := by
  induction cs generalizing starts with
  | nil => rfl
  | cons c cs ih =>
      rw [List.map_cons, restsOfAll, ih, List.mem_eraseDups, List.mem_flatMap]
      simp only [Token.rests, Option.mem_toList, List.isPrefixOf?_eq_some_iff_append_eq, List.flatMap_cons,
        List.append_assoc, exists_eq_right']

theorem literals?_map (cs : List Char) : literals? (cs.map .literal) = some cs := by
  induction cs with
  | nil => rfl
  | cons c cs ih => rw [List.map_cons, literals?, ih, Option.map_some]

theorem isLive_literals (cs : List Char) : isLive (cs.map .literal) = true := by
  have hends : comparesEnd (cs.map .literal) = true := by
    cases cs with
    | nil => rfl
    | cons c cs => exact congrArg Option.isSome (literals?_map (c :: cs))
  unfold isLive
  split
  · exact hends
  · rfl

/-- An escaped text matches itself and nothing else. -/
theorem isMatch_escape_iff {s path : String} {g : Glob} (h : parse (escape s) = .ok g) :
    g.isMatch path = true ↔ path = s := by
  rw [parse_escape] at h
  cases h
  have hmatch : matchesBytes (s.toList.map .literal) path.toUTF8.toList = true ↔
      s.toList.flatMap bytes = path.toUTF8.toList := by
    have hplain : matchesBytes (s.toList.map .literal) path.toUTF8.toList =
        (restsOfAll (s.toList.map .literal) [path.toUTF8.toList]).contains [] := by
      unfold matchesBytes
      split
      · next hdirs => cases hs : s.toList <;> rw [hs] at hdirs <;> exact nomatch hdirs
      · rw [isLive_literals, Bool.true_and]
    rw [hplain, List.contains_iff_mem, mem_restsOfAll_literals_iff, List.append_nil, List.mem_singleton]
  rw [isMatch, hmatch, flatMap_bytes, String.ofList_toList]
  exact ⟨fun heq => (Utf8.toList_toUTF8_inj heq).symm, fun heq => heq ▸ rfl⟩

end LineLimit.Glob

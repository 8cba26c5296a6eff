import LineLimit.Codec.Options
import LineLimit.Proofs.Json.Members
import LineLimit.Proofs.Outcome
import Mathlib
/-!
Options read from the members of an object. Reading a member changes the option of its name, or is refused; reading
all of them sets each option that has a member and leaves the others.
-/

namespace LineLimit

attribute [ext] Options Settings

namespace Options

inductive Field
  | lineLength
  | ignoreCodeBlocks
  | ignoreTables
  | ignoreLinks
  | ignoreLinkPunctuation
  deriving DecidableEq, Repr

namespace Field

def name : Field → String
  | lineLength => "line_length"
  | ignoreCodeBlocks => "ignore_code_blocks"
  | ignoreTables => "ignore_tables"
  | ignoreLinks => "ignore_links"
  | ignoreLinkPunctuation => "ignore_link_punctuation"

/-- The values that an option can have: an unsigned whole number of 64 bits, or a truth value. -/
def Fits : Field → Json → Prop
  | lineLength, v => ∃ n : Nat, n < 2 ^ 64 ∧ v = .int n
  | _, v => ∃ b, v = .bool b

theorem name_inj {f g : Field} (h : f.name = g.name) : f = g := by
  cases f <;> cases g <;> first | rfl | exact absurd h (by decide)

end Field

def get (o : Options) : Field → Json
  | .lineLength => .int o.lineLength.toNat
  | .ignoreCodeBlocks => .bool o.ignoreCodeBlocks
  | .ignoreTables => .bool o.ignoreTables
  | .ignoreLinks => .bool o.ignoreLinks
  | .ignoreLinkPunctuation => .bool o.ignoreLinkPunctuation

theorem ext_get {o o' : Options} (h : ∀ f, o.get f = o'.get f) : o = o' := by
  have hlength := h .lineLength
  simp only [get, Json.int.injEq, Int.natCast_inj, UInt64.toNat_inj] at hlength
  apply Options.ext hlength
  · exact Json.bool.inj (h .ignoreCodeBlocks)
  · exact Json.bool.inj (h .ignoreTables)
  · exact Json.bool.inj (h .ignoreLinks)
  · exact Json.bool.inj (h .ignoreLinkPunctuation)

/-- A member sets an option when it has the option's name and a value that the option can have. -/
def Sets (x : String × Json) : Prop := ∃ f : Field, f.name = x.1 ∧ f.Fits x.2

variable {o o' : Options}

theorem readSize_eq_ok {n : Nat} (h : n < 2 ^ 64) : Json.readSize (.int n) = .ok (.ofNat n) := by
  have hin : 0 ≤ (n : Int) ∧ (n : Int) < UInt64.size := ⟨Int.natCast_nonneg n, Int.ofNat_lt.mpr h⟩
  rw [Json.readSize, Json.readBelow, if_pos hin]
  rfl

theorem of_readSize_eq_ok {v : Json} {n : UInt64} (h : Json.readSize v = .ok n) : Field.lineLength.Fits v := by
  cases v with
  | int m =>
      simp only [Json.readSize, Json.readBelow] at h
      split at h
      · next hin =>
          obtain ⟨hpos, hlt⟩ := hin
          have hsize : UInt64.size = 2 ^ 64 := rfl
          exact ⟨m.toNat, by omega, by rw [Int.toNat_of_nonneg hpos]⟩
      · nomatch h
  | _ => nomatch h

theorem of_readBool_eq_ok {v : Json} {b : Bool} (h : Json.readBool v = .ok b) : v = .bool b := by
  cases v with
  | bool b' =>
      cases h
      rfl
  | _ => nomatch h

/-- Reading a member sets the option of its name and keeps the others. -/
theorem visit_eq_ok {f : Field} {v : Json} (h : f.Fits v) :
    ∃ o', shape.visit f.name v o = .ok o' ∧ ∀ g, o'.get g = if g = f then v else o.get g := by
  cases f with
  | lineLength =>
      obtain ⟨n, hn, rfl⟩ := h
      refine ⟨{ o with lineLength := .ofNat n }, ?_, ?_⟩
      · change (Json.readSize (.int n) >>= _) = _
        rw [readSize_eq_ok hn]
        rfl
      · intro g
        cases g with
        | lineLength => simp [get, UInt64.toNat_ofNat_of_lt' hn]
        | _ => rfl
  | _ =>
      obtain ⟨b, rfl⟩ := h
      refine ⟨_, rfl, ?_⟩
      intro g
      cases g <;> rfl

theorem sets_of_visit_eq_ok {name : String} {v : Json} (h : shape.visit name v o = .ok o') : Sets (name, v) := by
  simp only [shape] at h
  split at h
  · obtain ⟨n, hn, _⟩ := of_bind_eq_ok h
    exact ⟨.lineLength, rfl, of_readSize_eq_ok hn⟩
  · obtain ⟨b, hb, _⟩ := of_bind_eq_ok h
    exact ⟨.ignoreCodeBlocks, rfl, b, of_readBool_eq_ok hb⟩
  · obtain ⟨b, hb, _⟩ := of_bind_eq_ok h
    exact ⟨.ignoreTables, rfl, b, of_readBool_eq_ok hb⟩
  · obtain ⟨b, hb, _⟩ := of_bind_eq_ok h
    exact ⟨.ignoreLinks, rfl, b, of_readBool_eq_ok hb⟩
  · obtain ⟨b, hb, _⟩ := of_bind_eq_ok h
    exact ⟨.ignoreLinkPunctuation, rfl, b, of_readBool_eq_ok hb⟩
  · nomatch h

/-- An option with a member has its value, and the others are kept. -/
theorem visitAll_eq_ok {members : List (String × Json)} (hn : (members.map (·.1)).Nodup)
    (h : ∀ x ∈ members, Sets x) :
    ∃ o', shape.visitAll o members = .ok o' ∧
      ∀ g : Field, o'.get g = (Json.member? g.name members).getD (o.get g) := by
  induction members generalizing o with
  | nil => exact ⟨o, rfl, fun g => rfl⟩
  | cons first rest ih =>
      obtain ⟨name, v⟩ := first
      rw [List.map_cons, List.nodup_cons] at hn
      rw [List.forall_mem_cons] at h
      obtain ⟨⟨f, rfl, hfits : f.Fits v⟩, hrest⟩ := h
      obtain ⟨o₁, hvisit, hget₁⟩ := visit_eq_ok (o := o) hfits
      obtain ⟨o₂, hall, hget₂⟩ := ih hn.2 hrest (o := o₁)
      refine ⟨o₂, ?_, ?_⟩
      · rw [Json.Shape.visitAll_cons, hvisit]
        exact hall
      · intro g
        rw [hget₂, hget₁]
        by_cases hg : g = f
        · -- The rest has no other member of this name, so the option keeps what the first one gave it.
          subst hg
          have hnone : Json.member? g.name rest = none := by
            rw [Json.member?_eq_none_iff]
            intro w hw
            exact hn.1 (List.mem_map.mpr ⟨_, hw, rfl⟩)
          rw [hnone, Json.member?_cons_of_eq, if_pos rfl]
          rfl
        · rw [Json.member?_cons_of_ne fun heq => hg (Field.name_inj heq.symm), if_neg hg]

theorem sets_of_visitAll_eq_ok {members : List (String × Json)} (h : shape.visitAll o members = .ok o') :
    ∀ x ∈ members, Sets x := by
  induction members generalizing o with
  | nil => nofun
  | cons first rest ih =>
      rw [Json.Shape.visitAll_cons] at h
      obtain ⟨o₁, hvisit, hall⟩ := of_bind_eq_ok h
      rw [List.forall_mem_cons]
      exact ⟨sets_of_visit_eq_ok hvisit, ih hall⟩

end Options

end LineLimit

import LineLimit.Config.Basic
import LineLimit.Proofs.Text.Bytes
/-!
Settings from what a configuration says under several names. A configuration may hold entries about anything, in any
order, with each name once. The settings come from the entries that mean the rule, and from nothing else: neither the
order nor another entry has a say, not even in the text of an error.
-/

namespace LineLimit

/-- A name means a rule when it is one of the rule's names, in any case of letters. -/
def Manifest.Means (m : Manifest) (name : String) : Prop :=
  ∃ known ∈ m.id :: m.aliases, Ascii.lower known = Ascii.lower name

instance (m : Manifest) : DecidablePred m.Means := fun name =>
  decidable_of_iff (∃ known ∈ m.id :: m.aliases, known.toList.map Char.toLower = name.toList.map Char.toLower)
    (by simp only [Manifest.Means, Ascii.lower_eq_iff])

theorem Manifest.isNamed_iff {m : Manifest} {name : String} : m.isNamed name = true ↔ m.Means name := by
  simp only [isNamed, Means, Bool.or_eq_true, List.any_eq_true, Ascii.sameName_iff, List.exists_mem_cons_iff]

namespace Config

def ascending (names : List String) : List String := names.mergeSort fun a b => decide (a ≤ b)

theorem ascending_perm (names : List String) : (ascending names).Perm names := List.mergeSort_perm names _

theorem pairwise_ascending (names : List String) : (ascending names).Pairwise (· ≤ ·) := by
  have hsorted : (ascending names).Pairwise fun a b => decide (a ≤ b) = true := by
    apply List.pairwise_mergeSort
    · intro a b c hab hbc
      exact decide_eq_true (String.le_trans (of_decide_eq_true hab) (of_decide_eq_true hbc))
    · intro a b
      rw [← Bool.decide_or]
      exact decide_eq_true (String.le_total a b)
  exact hsorted.imp of_decide_eq_true

theorem ascending_eq_of_perm {xs ys : List String} (h : xs.Perm ys) : ascending xs = ascending ys := by
  apply List.Perm.eq_of_pairwise (fun a b _ _ => String.le_antisymm) (pairwise_ascending xs) (pairwise_ascending ys)
  exact (ascending_perm xs).trans (h.trans (ascending_perm ys).symm)

/-- Different names in order are strictly in the order of their bytes. -/
theorem pairwise_bytes_ascending {names : List String} (h : names.Nodup) :
    (ascending names).Pairwise fun a b => a.toUTF8.toList < b.toUTF8.toList := by
  have hne : (ascending names).Pairwise (· ≠ ·) := (ascending_perm names).nodup_iff.mpr h
  apply (hne.and (pairwise_ascending names)).imp
  intro a b ⟨hab, hle⟩
  apply Utf8.lt_iff_bytes.mp
  rw [← String.not_le]
  exact fun hge => hab (String.le_antisymm hle hge)

variable {options options' : List (String × RuleOption)}

/-- What is said about the rule, under any of its names. -/
def mentions (options : List (String × RuleOption)) : List (String × RuleOption) :=
  options.filter fun (name, _) => Manifest.lineLength.isNamed name

theorem mem_mentions_iff {x : String × RuleOption} :
    x ∈ mentions options ↔ x ∈ options ∧ Manifest.lineLength.Means x.1 := by
  rw [mentions, List.mem_filter, Manifest.isNamed_iff]

theorem mem_map_mentions_iff {name : String} :
    name ∈ (mentions options).map (·.1) ↔ name ∈ options.map (·.1) ∧ Manifest.lineLength.Means name := by
  simp only [List.mem_map, mem_mentions_iff]
  constructor
  · rintro ⟨x, ⟨hx, hmeans⟩, rfl⟩
    exact ⟨⟨x, hx, rfl⟩, hmeans⟩
  · rintro ⟨⟨x, hx, rfl⟩, hmeans⟩
    exact ⟨x, ⟨hx, hmeans⟩, rfl⟩

theorem nodup_mentions (h : (options.map (·.1)).Nodup) : ((mentions options).map (·.1)).Nodup :=
  h.sublist (List.filter_sublist.map _)

theorem resolveOptions_of_none (h : mentions options = []) : resolveOptions options = .ok (some {}) := by
  rw [mentions] at h
  rw [resolveOptions, h]

theorem resolveOptions_of_one {x : String × RuleOption} (h : mentions options = [x]) :
    resolveOptions options = x.2.resolve := by
  rw [mentions] at h
  rw [resolveOptions, h]

theorem resolveOptions_of_several (h : 1 < (mentions options).length) :
    resolveOptions options = .error (.repeated (ascending ((mentions options).map (·.1)))) := by
  rw [mentions] at h ⊢
  rw [resolveOptions]
  split
  · next hnone => simp [hnone] at h
  · next hone => simp [hone] at h
  · rfl

/-- The entries that mean the rule, in any order, are all that counts. -/
theorem resolveOptions_eq_of_perm (h : (mentions options).Perm (mentions options')) :
    resolveOptions options = resolveOptions options' := by
  by_cases hseveral : 1 < (mentions options).length
  · -- The names are told in order, and a permutation is not seen in that.
    rw [resolveOptions_of_several hseveral, resolveOptions_of_several (h.length_eq ▸ hseveral),
      ascending_eq_of_perm (h.map _)]
  · cases hcase : mentions options with
    | nil =>
        rw [hcase] at h
        rw [resolveOptions_of_none hcase, resolveOptions_of_none h.nil_eq.symm]
    | cons x rest =>
        obtain rfl : rest = [] := by
          rw [hcase, List.length_cons] at hseveral
          exact List.length_eq_zero_iff.mp (by omega)
        rw [hcase] at h
        rw [resolveOptions_of_one hcase, resolveOptions_of_one (List.perm_singleton.mp h.symm)]

theorem message_repeated (names : List String) :
    (LintError.config (.repeated names)).message =
      "Configuration error: Rule 'MY000/stricter-line-length' is configured more than once: " ++
        ", ".intercalate names := by
  have hhead : "Configuration error: " ++ ("Rule '" ++ Manifest.lineLength.displayName ++
      "' is configured more than once: ") =
      "Configuration error: Rule 'MY000/stricter-line-length' is configured more than once: " := by decide
  rw [← hhead, String.append_assoc]
  rfl

def NamesOnce (c : Config) : Prop := (c.options.map (·.1)).Nodup

instance : DecidablePred NamesOnce := fun c => inferInstanceAs (Decidable (c.options.map (·.1)).Nodup)

variable {c c' : Config}

theorem NamesOnce.nodup (h : c.NamesOnce) : c.options.Nodup := List.Nodup.of_map _ h

theorem NamesOnce.mentions (h : c.NamesOnce) : (mentions c.options).Nodup := h.nodup.filter _

theorem mentions_perm (hc : c.NamesOnce) (hc' : c'.NamesOnce)
    (hsame : ∀ x, Manifest.lineLength.Means x.1 → (x ∈ c'.options ↔ x ∈ c.options)) :
    (mentions c'.options).Perm (mentions c.options) := by
  rw [List.perm_ext_iff_of_nodup hc'.mentions hc.mentions]
  intro x
  rw [mem_mentions_iff, mem_mentions_iff]
  exact and_congr_left (hsame x)

theorem mentions_eq_singleton (hc : c.NamesOnce) {x : String × RuleOption} (hx : x ∈ c.options)
    (hmeans : Manifest.lineLength.Means x.1)
    (honly : ∀ y ∈ c.options, Manifest.lineLength.Means y.1 → y = x) : mentions c.options = [x] := by
  apply List.perm_singleton.mp
  rw [List.perm_ext_iff_of_nodup hc.mentions (List.pairwise_singleton _ x)]
  intro y
  rw [mem_mentions_iff, List.mem_singleton]
  constructor
  · intro ⟨hy, hmeans'⟩
    exact honly y hy hmeans'
  · rintro rfl
    exact ⟨hx, hmeans⟩

theorem one_lt_length_mentions {x y : String × RuleOption} (hx : x ∈ options) (hy : y ∈ options)
    (hmeans : Manifest.lineLength.Means x.1) (hmeans' : Manifest.lineLength.Means y.1) (hne : x ≠ y) :
    1 < (mentions options).length := by
  have hpair : [x, y] ⊆ mentions options := by
    rw [List.cons_subset, List.cons_subset, mem_mentions_iff, mem_mentions_iff]
    exact ⟨⟨hx, hmeans⟩, ⟨hy, hmeans'⟩, List.nil_subset _⟩
  have hnodup : [x, y].Nodup := by
    rw [List.nodup_cons, List.mem_singleton]
    exact ⟨hne, List.pairwise_singleton _ y⟩
  exact (List.subperm_of_subset hnodup hpair).length_le

/-- Two configurations with the same entries about the rule, in whatever order and among whatever other entries, give
the same result. Without such an entry it is the usual settings, with one it is what that entry says, and several are
an error that tells all their names in the order of their bytes. -/
theorem settings_of_mentions (hc : c.NamesOnce) (hc' : c'.NamesOnce)
    (hsame : ∀ x, Manifest.lineLength.Means x.1 → (x ∈ c'.options ↔ x ∈ c.options)) :
    c'.settings = c.settings ∧
    ((∀ x ∈ c.options, ¬ Manifest.lineLength.Means x.1) → c.settings = .ok (some {})) ∧
    (∀ x ∈ c.options, Manifest.lineLength.Means x.1 →
      (∀ y ∈ c.options, Manifest.lineLength.Means y.1 → y = x) → c.settings = x.2.resolve) ∧
    ∀ x ∈ c.options, ∀ y ∈ c.options, Manifest.lineLength.Means x.1 → Manifest.lineLength.Means y.1 → x ≠ y →
      ∃ names, c.settings = .error (.repeated names) ∧
        (∀ name, name ∈ names ↔ name ∈ c.options.map (·.1) ∧ Manifest.lineLength.Means name) ∧
        names.Pairwise (fun a b => a.toUTF8.toList < b.toUTF8.toList) ∧
        (LintError.config (.repeated names)).message =
          "Configuration error: Rule 'MY000/stricter-line-length' is configured more than once: " ++
            ", ".intercalate names := by
  refine ⟨resolveOptions_eq_of_perm (mentions_perm hc hc' hsame), ?_, ?_, ?_⟩
  · intro hnone
    apply resolveOptions_of_none
    rw [mentions, List.filter_eq_nil_iff]
    intro x hx
    rw [Manifest.isNamed_iff]
    exact hnone x hx
  · intro x hx hmeans honly
    exact resolveOptions_of_one (mentions_eq_singleton hc hx hmeans honly)
  · intro x hx y hy hmeans hmeans' hne
    have hseveral := one_lt_length_mentions hx hy hmeans hmeans' hne
    refine ⟨_, resolveOptions_of_several hseveral, ?_, pairwise_bytes_ascending (nodup_mentions hc),
      message_repeated _⟩
    intro name
    rw [(ascending_perm _).mem_iff, mem_map_mentions_iff]

/-- Three names of the rule in different cases of letters, among entries about something else. -/
theorem settings_of_mentions_cases :
    let off : String × RuleOption := ("my000", .enabled false)
    let warn : String × RuleOption := ("Stricter-Line-Length", .severity "warn")
    let on : String × RuleOption := ("MY000", .enabled true)
    let c : Config := { options := [off, ("MD013", .enabled true), warn, on] }
    let c' : Config := { options := [on, warn, off, ("MD013", .severity "x"), ("MY0001", .enabled false)] }
    c.NamesOnce ∧ c'.NamesOnce ∧ c'.settings = .error (.repeated ["MY000", "Stricter-Line-Length", "my000"]) := by
  intro off warn on c c'
  have hc : c.NamesOnce := by decide
  have hc' : c'.NamesOnce := by decide
  have hsame : ∀ x, Manifest.lineLength.Means x.1 → (x ∈ c'.options ↔ x ∈ c.options) := by
    intro x hmeans
    simp only [c, c', List.mem_cons, List.not_mem_nil, or_false]
    constructor
    · rintro (rfl | rfl | rfl | rfl | rfl)
      · exact .inr (.inr (.inr rfl))
      · exact .inr (.inr (.inl rfl))
      · exact .inl rfl
      · exact absurd hmeans (by decide)
      · exact absurd hmeans (by decide)
    · rintro (rfl | rfl | rfl | rfl)
      · exact .inr (.inr (.inl rfl))
      · exact absurd hmeans (by decide)
      · exact .inr (.inl rfl)
      · exact .inl rfl
  obtain ⟨horder, _, _, hseveral⟩ := settings_of_mentions hc hc' hsame
  have hmem : off ∈ c.options ∧ on ∈ c.options := by simp [c]
  obtain ⟨names, herror, hnames, hsorted, _⟩ :=
    hseveral off hmem.1 on hmem.2 (by decide) (by decide) (by simp [off, on])
  have hlisted : ∀ name, name ∈ names ↔ name ∈ ["MY000", "Stricter-Line-Length", "my000"] := by
    intro name
    rw [hnames]
    constructor
    · simp only [c, List.map_cons, List.map_nil, List.mem_cons, List.not_mem_nil, or_false]
      rintro ⟨rfl | rfl | rfl | rfl, hmeans⟩
      · exact .inr (.inr rfl)
      · exact absurd hmeans (by decide)
      · exact .inr (.inl rfl)
      · exact .inl rfl
    · simp only [List.mem_cons, List.not_mem_nil, or_false]
      rintro (rfl | rfl | rfl) <;> decide
  have hlt : names.Pairwise (· < ·) := hsorted.imp Utf8.lt_iff_bytes.mpr
  have hperm : names.Perm ["MY000", "Stricter-Line-Length", "my000"] := by
    rw [List.perm_ext_iff_of_nodup (hlt.imp String.ne_of_lt) (by decide)]
    exact hlisted
  have heq := List.Perm.eq_of_pairwise (fun a b _ _ hab hba => absurd hab (String.lt_asymm hba)) hlt (by decide) hperm
  exact ⟨hc, hc', by rw [horder, herror, heq]⟩

end Config

end LineLimit

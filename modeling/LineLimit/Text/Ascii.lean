/-!
Names that are compared without regard to the case of the letters A to Z. Other letters keep theirs.
-/

namespace LineLimit.Ascii

def lower (s : String) : String := s.map Char.toLower

/-- Two texts are the same name when they differ in the case of A to Z at most. -/
def sameName (a b : String) : Bool := lower a == lower b

theorem toList_lower (s : String) : (lower s).toList = s.toList.map Char.toLower := String.toList_map

theorem lower_eq_iff {a b : String} : lower a = lower b ↔ a.toList.map Char.toLower = b.toList.map Char.toLower := by
  rw [← String.toList_inj, toList_lower, toList_lower]

theorem lower_eq_of_toList {a b : String} (h : a.toList.map Char.toLower = b.toList) : lower a = b := by
  rw [← String.toList_inj, toList_lower, h]

theorem sameName_iff {a b : String} : sameName a b = true ↔ lower a = lower b := by
  simp [sameName]

end LineLimit.Ascii

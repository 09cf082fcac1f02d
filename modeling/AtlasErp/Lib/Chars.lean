import Mathlib.Data.List.Basic

/-! # The characters of a text

- `decidableForallMemChars`: a condition on every character of a text is decided over the text, not over all characters
  there are;
- `decidableMemTexts`: whether a text is one of some;
- `toLower_toLower`: a text in lower case stays as it is. -/

namespace Lib

instance (priority := 2000) decidableForallMemChars (cs : List Char) (P : Char → Prop) [DecidablePred P] :
    Decidable (∀ c ∈ cs, P c) := List.decidableBAll P cs

instance decidableMemTexts (cs : List Char) (texts : List (List Char)) : Decidable (cs ∈ texts) := inferInstance

theorem char_toLower_toLower (c : Char) : c.toLower.toLower = c.toLower := by
  unfold Char.toLower
  split
  · split
    · rename_i hupper hagain
      simp only [ge_iff_le, UInt32.le_iff_toNat_le, UInt32.toNat_add] at hupper hagain
      simp at hupper hagain
      omega
    · rfl
  · rfl

theorem toLower_toLower (s : String) : s.toLower.toLower = s.toLower := by
  change (s.map Char.toLower).map Char.toLower = s.map Char.toLower
  rw [String.map_map]
  exact congrArg (String.map · s) (funext char_toLower_toLower)

end Lib

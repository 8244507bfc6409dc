import Mathlib

/-!
# Texts apart from letter case

When two texts differ only in the case of their letters from a to z. Letters outside of this range, and all
other characters, must be the same on both sides.
-/

namespace PlaceholderScripts.Text

/-- The texts are the same but for the case of the letters from a to z. -/
def SameLetters (cs ds : List Char) : Prop := cs.map Char.toLower = ds.map Char.toLower

variable {cs ds : List Char}

instance : Decidable (SameLetters cs ds) :=
  inferInstanceAs (Decidable (cs.map Char.toLower = ds.map Char.toLower))

/-- It makes no difference which of the two cases all letters are brought to. -/
theorem sameLetters_iff_toUpper : SameLetters cs ds ↔ cs.map Char.toUpper = ds.map Char.toUpper := by
  unfold SameLetters
  constructor
  · intro h
    simpa [Function.comp_def] using congrArg (List.map Char.toUpper) h
  · intro h
    simpa [Function.comp_def] using congrArg (List.map Char.toLower) h

/-- A text in lower case is what another one becomes in lower case. -/
theorem sameLetters_iff_of_lower (h : ds.map Char.toLower = ds) :
    SameLetters cs ds ↔ cs.map Char.toLower = ds := by
  rw [SameLetters, h]

/-- A text in upper case is what another one becomes in upper case. -/
theorem sameLetters_iff_of_upper (h : cs.map Char.toUpper = cs) :
    SameLetters cs ds ↔ cs = ds.map Char.toUpper := by
  rw [sameLetters_iff_toUpper, h]

end PlaceholderScripts.Text

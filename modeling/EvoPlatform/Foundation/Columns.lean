import Mathlib.Data.List.Basic

/-!
# Values of columns

What a PostgreSQL column takes: an `INTEGER` has 32 bits and a sign, and a text
holds no U+0000.  A statement with any other value is refused.
-/

namespace EvoPlatform

/-- An `INTEGER` column takes a number. -/
def FitsInteger (value : Int) : Prop :=
  -2147483648 ≤ value ∧ value ≤ 2147483647

instance (value : Int) : Decidable (FitsInteger value) :=
  inferInstanceAs (Decidable (_ ∧ _))

/-- PostgreSQL takes a text, as a value to store or to compare with. -/
def Storable (text : String) : Prop :=
  Char.ofNat 0 ∉ text.toList

instance (text : String) : Decidable (Storable text) :=
  inferInstanceAs (Decidable (¬ _))

/-- A number that is not negative fits by its upper bound. -/
theorem fitsInteger_natCast_iff (value : Nat) :
    FitsInteger value ↔ value < 2147483648 := by
  unfold FitsInteger
  omega

end EvoPlatform

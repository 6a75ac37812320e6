import Mathlib.Algebra.Group.Int.Defs
import JsonPath.Number.Integer

/-!
# The range of 64-bit integers

Checked arithmetic keeps just the integers that fit 64 bits.

* `Fits` — whether an integer is a 64-bit one.
* `ofInt?_of_fits`, `ofInt?_of_not_fits` — what is kept, and what is dropped.
* `fits_neg_iff` — the integers whose opposite fits too.
-/

namespace JsonPath.Number

/-- Whether an integer is one of the 64-bit integers. -/
def Fits (n : Int) : Prop := Int64.minValue.toInt ≤ n ∧ n ≤ Int64.maxValue.toInt

variable {n : Int}

instance : Decidable (Fits n) := inferInstanceAs (Decidable (_ ∧ _))

theorem fits_iff : Fits n ↔ -2 ^ 63 ≤ n ∧ n < 2 ^ 63 := by
  have hmin : Int64.minValue.toInt = -2 ^ 63 := by decide
  have hmax : Int64.maxValue.toInt = 2 ^ 63 - 1 := by decide
  rw [Fits, hmin, hmax]
  omega

theorem fits_toInt (k : Int64) : Fits k.toInt := ⟨Int64.minValue_le_toInt k, Int64.toInt_le k⟩

theorem ofInt?_of_fits (h : Fits n) : ofInt? n = some (Int64.ofInt n) := if_pos h

theorem ofInt?_of_not_fits (h : ¬Fits n) : ofInt? n = none := if_neg h

theorem toInt_ofInt_of_fits (h : Fits n) : (Int64.ofInt n).toInt = n :=
  toInt_of_ofInt? (ofInt?_of_fits h)

theorem minValue_lt_iff {k : Int64} : Int64.minValue.toInt < k.toInt ↔ k ≠ Int64.minValue := by
  have hle := Int64.minValue_le_toInt k
  rw [Ne, ← Int64.toInt_inj]
  omega

theorem fits_neg_iff {k : Int64} : Fits (-k.toInt) ↔ k ≠ Int64.minValue := by
  have hmin : Int64.minValue.toInt = -2 ^ 63 := by decide
  have hbounds := fits_iff.1 (fits_toInt k)
  rw [fits_iff, ← minValue_lt_iff, hmin]
  omega

end JsonPath.Number

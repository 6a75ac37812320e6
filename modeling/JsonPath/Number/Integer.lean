/-!
# Checked 64-bit integers

The integers of documents and expressions are the 64-bit ones. Arithmetic on them is exact or
refused: `ofInt?` keeps an integer that fits and drops every other.

* `ofInt?_toInt` — every 64-bit integer survives the round trip through `Int`.
* `toInt_of_ofInt?` — what `ofInt?` keeps, it keeps unchanged.
-/

namespace JsonPath.Number

/-- The 64-bit integer equal to `n`, if there is one. -/
def ofInt? (n : Int) : Option Int64 :=
  if Int64.minValue.toInt ≤ n ∧ n ≤ Int64.maxValue.toInt then some (Int64.ofInt n) else none

theorem ofInt?_toInt (n : Int64) : ofInt? n.toInt = some n := by
  have h₁ := Int64.minValue_le_toInt n
  have h₂ := Int64.toInt_le n
  have h₃ : Int64.minValue.toInt = -2 ^ 63 := by decide
  have h₄ : Int64.maxValue.toInt = 2 ^ 63 - 1 := by decide
  simp only [ofInt?, Int64.ofInt_toInt]
  rw [if_pos]
  omega

theorem toInt_of_ofInt? {n : Int} {k : Int64} (h : ofInt? n = some k) : k.toInt = n := by
  have h₃ : Int64.minValue.toInt = -2 ^ 63 := by decide
  have h₄ : Int64.maxValue.toInt = 2 ^ 63 - 1 := by decide
  simp only [ofInt?] at h
  split at h
  · cases h
    rw [Int64.toInt_ofInt_of_le] <;> omega
  · cases h

/-- The nearest 64-bit integer: one out of range goes to the end it passed. -/
def clampInt (n : Int) : Int64 :=
  Int64.ofInt (max Int64.minValue.toInt (min n Int64.maxValue.toInt))

/-- A count as a 64-bit integer, if it fits. -/
def ofNat? (n : Nat) : Option Int64 := ofInt? n

end JsonPath.Number

import Mathlib
import JsonPath.Number.Binary64

/-!
# Decimals rounded to doubles

A decimal is read by scaling its digits and rounding the outcome to 53 bits, with two residual bits
for what was cut off. Here it is shown that this gives the right double: a decimal that lies nearest
to a double, by less than half the gap to its neighbours or by half where the mantissa is even, is
read as that double.

* `Describes` — the residual bits tell on which side of the middle a fraction lies.
* `Canonical`, `IsNearest` — the mantissas and exponents of positive doubles, and the numbers that
  are rounded to one.
* `roundWithAccuracy_of_isNearest` — rounding with residual bits.
* `ofScientific_of_isNearest` — reading a decimal.
-/

namespace JsonPath.Number

open Float.Model Float.Model.UnpackedFloat

/-! ## Mantissas with residual bits -/

/-- The two residual bits of a mantissa tell where a fraction lies between it and the next one. -/
def Describes (em : ExtendedMantissa) (x : ℚ) : Prop :=
  match em.roundBit, em.stickyBit with
  | false, false => x = em.mantissa
  | false, true => em.mantissa < x ∧ x < em.mantissa + 1 / 2
  | true, false => x = em.mantissa + 1 / 2
  | true, true => em.mantissa + 1 / 2 < x ∧ x < em.mantissa + 1

@[simp] theorem mantissa_ofMantissaAndAccuracy (m : ℕ) (accuracy : Accuracy) :
    (ExtendedMantissa.ofMantissaAndAccuracy m accuracy).mantissa = m := by
  rcases accuracy with _ | _ | _ | _ <;> rfl

theorem describes_exact (m : ℕ) : Describes (.ofMantissaAndAccuracy m .exact) m := rfl

/-- What a division leaves over is described by the accuracy of its quotient. -/
theorem describes_fraction (n : ℕ) {d : ℕ} (hd : 0 < d) :
    Describes (.ofMantissaAndAccuracy (n / d) (accuracyOfFraction (n % d) d)) (n / d : ℚ) := by
  have hdq : (0 : ℚ) < d := by exact_mod_cast hd
  have hn : (n : ℚ) = (n / d : ℕ) * d + (n % d : ℕ) := by
    exact_mod_cast (Nat.div_add_mod' n d).symm
  have hx : (n / d : ℚ) = (n / d : ℕ) + (n % d : ℕ) / d := by
    conv_lhs => rw [hn, add_div, mul_div_assoc, div_self hdq.ne', mul_one]
  have hlt : ((n % d : ℕ) : ℚ) / d < 1 := by
    rw [div_lt_one hdq]
    exact_mod_cast Nat.mod_lt n hd
  rw [hx]
  unfold accuracyOfFraction
  split
  · rename_i h
    simp [Describes, ExtendedMantissa.ofMantissaAndAccuracy, h]
  · rename_i h
    have hpos : (0 : ℚ) < (n % d : ℕ) / d :=
      div_pos (by exact_mod_cast Nat.pos_of_ne_zero h) hdq
    cases hcmp : compare (2 * (n % d)) d with
    | lt =>
      have hhalf : ((n % d : ℕ) : ℚ) / d < 1 / 2 := by
        rw [div_lt_div_iff₀ hdq two_pos]
        exact_mod_cast (by have := Nat.compare_eq_lt.1 hcmp; omega)
      simpa [Describes, ExtendedMantissa.ofMantissaAndAccuracy] using
        And.intro hpos (by simpa using hhalf)
    | eq =>
      have hhalf : ((n % d : ℕ) : ℚ) / d = 1 / 2 := by
        rw [div_eq_div_iff hdq.ne' two_ne_zero]
        exact_mod_cast (by have := Nat.compare_eq_eq.1 hcmp; omega)
      simp [Describes, ExtendedMantissa.ofMantissaAndAccuracy, hhalf]
    | gt =>
      have hhalf : 1 / 2 < ((n % d : ℕ) : ℚ) / d := by
        rw [div_lt_div_iff₀ two_pos hdq]
        exact_mod_cast (by have := Nat.compare_eq_gt.1 hcmp; omega)
      simpa [Describes, ExtendedMantissa.ofMantissaAndAccuracy] using
        And.intro (by simpa using hhalf) hlt

variable {em : ExtendedMantissa} {x : ℚ}

theorem Describes.shiftRightOne (h : Describes em x) : Describes em.shiftRightOne (x / 2) := by
  obtain ⟨m, roundBit, stickyBit⟩ := em
  have hm : (m : ℚ) = 2 * (m / 2 : ℕ) + (m % 2 : ℕ) := by exact_mod_cast (Nat.div_add_mod m 2).symm
  rcases Nat.mod_two_eq_zero_or_one m with hbit | hbit <;> rw [hbit] at hm <;>
    cases roundBit <;> cases stickyBit <;>
    simp [Describes, ExtendedMantissa.shiftRightOne, hbit, hm] at h ⊢ <;>
    first | linarith | constructor <;> linarith

theorem Describes.shiftRight (h : Describes em x) (s : ℕ) : Describes (em >>> s) (x / 2 ^ s) := by
  change Describes (s.repeat ExtendedMantissa.shiftRightOne em) _
  induction s with
  | zero => simpa [Nat.repeat] using h
  | succ s ih =>
    rw [pow_succ, ← div_div]
    exact ih.shiftRightOne

/-- The fraction is nearer to a whole number than to any other, or half way to the next and the
number is even. -/
def RoundsTo (x : ℚ) (m : ℕ) : Prop :=
  (m - 1 / 2 < x ∧ x < m + 1 / 2) ∨ (m % 2 = 0 ∧ m - 1 / 2 ≤ x ∧ x ≤ m + 1 / 2)

theorem RoundsTo.bounds {m : ℕ} (h : RoundsTo x m) : m - 1 / 2 ≤ x ∧ x ≤ m + 1 / 2 := by
  rcases h with ⟨h₁, h₂⟩ | ⟨-, h⟩
  · exact ⟨h₁.le, h₂.le⟩
  · exact h

theorem Describes.bounds (h : Describes em x) : em.mantissa ≤ x ∧ x < em.mantissa + 1 := by
  obtain ⟨m, roundBit, stickyBit⟩ := em
  cases roundBit <;> cases stickyBit <;> simp only [Describes] at h ⊢ <;> constructor <;> linarith

theorem Describes.roundedMantissa_eq {m : ℕ} (h : Describes em x) (hm : RoundsTo x m) :
    em.roundedMantissa = m := by
  have hx := h.bounds
  have hxm := hm.bounds
  -- The number is the whole part of the fraction or the next one.
  have hle : em.mantissa ≤ m := by
    have : (em.mantissa : ℚ) < m + 1 := by linarith
    exact Nat.lt_succ_iff.1 (by exact_mod_cast this)
  have hge : m ≤ em.mantissa + 1 := by
    have : (m : ℚ) < em.mantissa + 1 + 1 := by linarith
    exact Nat.lt_succ_iff.1 (by exact_mod_cast this)
  obtain ⟨k, roundBit, stickyBit⟩ := em
  obtain rfl | rfl : m = k ∨ m = k + 1 := by
    dsimp only at hle hge
    omega
  all_goals
    cases roundBit <;> cases stickyBit <;>
      simp only [Describes, RoundsTo, Nat.cast_add, Nat.cast_one] at h hm <;>
      simp only [ExtendedMantissa.roundedMantissa, ExtendedMantissa.accuracy,
        Accuracy.roundToNearestEven]
  all_goals
    rcases hm with ⟨h₁, h₂⟩ | ⟨heven, h₁, h₂⟩ <;> first | linarith | omega

/-! ## Rounding -/

/-- A mantissa and an exponent in the form in which positive doubles have them. -/
structure Canonical (m : ℕ) (e : ℤ) : Prop where
  pos : 0 < m
  lt : m < 2 ^ 53
  le : -1074 ≤ e
  exponent_le : e ≤ 971
  normal : 2 ^ 52 ≤ m ∨ e = -1074

/-- The exponent aimed at leaves 53 bits of a mantissa, but is no less than that of the least
double. -/
theorem targetExponent_totalExponent (m : ℕ) (e : ℤ) :
    Format.binary64.targetExponent (totalExponent m e) = max (m.log2 + 1 + e - 53) (-1074) := rfl

variable {m M : ℕ} {e t E : ℤ} {accuracy : Accuracy}

theorem shiftToTargetExponent_eq (ht : Format.binary64.targetExponent (totalExponent m e) = t)
    (he : e ≤ t) :
    shiftToTargetExponent .binary64 m e accuracy =
      (ExtendedMantissa.ofMantissaAndAccuracy m accuracy >>> (t - e).toNat, t) := by
  rw [shiftToTargetExponent, ht, shiftToExponent]
  congr 1
  omega

/-- The mantissa of a double keeps its place. -/
theorem shiftToTargetExponent_canonical (h : Canonical M E) :
    shiftToTargetExponent .binary64 M E .exact = (⟨M, false, false⟩, E) := by
  have hlog : M.log2 < 53 := (Nat.log2_lt h.pos.ne').2 h.lt
  have ht : Format.binary64.targetExponent (totalExponent M E) = E := by
    have hle := h.le
    rw [targetExponent_totalExponent]
    rcases h.normal with hM | hE
    · have := (Nat.le_log2 h.pos.ne').2 hM
      omega
    · omega
  rw [shiftToTargetExponent_eq ht le_rfl, sub_self]
  rfl

/-- A mantissa that has grown too long moves up. -/
theorem shiftToTargetExponent_carry (he : -1074 ≤ t) :
    shiftToTargetExponent .binary64 (2 ^ 53) t .exact = (⟨2 ^ 52, false, false⟩, t + 1) := by
  have ht : Format.binary64.targetExponent (totalExponent (2 ^ 53) t) = t + 1 := by
    rw [targetExponent_totalExponent, Nat.log2_two_pow]
    omega
  rw [shiftToTargetExponent_eq ht (by omega), add_sub_cancel_left]
  rfl

/-- A number is rounded to a mantissa at the exponent for its size, and then moved up if that
mantissa has grown too long. -/
theorem roundWithAccuracy_eq (hx : Describes (.ofMantissaAndAccuracy m accuracy) x)
    (ht : Format.binary64.targetExponent (totalExponent m e) = t) (he : e ≤ t)
    (hM : RoundsTo (x / 2 ^ (t - e).toNat) M) {em : ExtendedMantissa} (hem : 0 < em.mantissa)
    (hshift : shiftToTargetExponent .binary64 M t .exact = (em, E)) :
    roundWithAccuracy .binary64 .positive m e accuracy = .finite .positive em.mantissa E hem := by
  have hrounded := (hx.shiftRight (t - e).toNat).roundedMantissa_eq hM
  simp only [roundWithAccuracy, shiftToTargetExponent_eq ht he, hrounded, hshift]
  rw [dif_neg hem.ne']

/-! ## Which numbers are rounded to a double -/

/-- A number over the unit of a double rounds to its mantissa: it is no further away than half the
way to the next one, and below a power of two no further than half the shorter way there. -/
def IsNearest (M : ℕ) (E : ℤ) (z : ℚ) : Prop :=
  RoundsTo z M ∧ (M = 2 ^ 52 → E ≠ -1074 → M - 1 / 4 ≤ z)

/-- What is at least a power of two has at least its exponent. -/
theorem lt_of_zpow_le {z : ℚ} {a : ℤ} {k : ℕ} (h : 2 ^ a ≤ z * 2 ^ E) (hz : z < 2 ^ k) :
    a < k + E := by
  refine (zpow_lt_zpow_iff_right₀ (one_lt_two : (1 : ℚ) < 2)).1 (h.trans_lt ?_)
  rw [zpow_add₀ two_ne_zero, zpow_natCast]
  exact mul_lt_mul_of_pos_right hz (by positivity)

theorem lt_of_lt_zpow {z : ℚ} {a : ℤ} {k : ℕ} (h : z * 2 ^ E < 2 ^ a) (hz : 2 ^ k ≤ z) :
    k + E < a := by
  refine (zpow_lt_zpow_iff_right₀ (one_lt_two : (1 : ℚ) < 2)).1 (h.trans_le' ?_)
  rw [zpow_add₀ two_ne_zero, zpow_natCast]
  exact mul_le_mul_of_nonneg_right hz (by positivity)

/-- The first bit of a mantissa gives a bound from below. -/
theorem Describes.zpow_log2_le (hx : Describes (.ofMantissaAndAccuracy m accuracy) x) (hm : m ≠ 0)
    (e : ℤ) : (2 : ℚ) ^ (m.log2 + e : ℤ) ≤ x * 2 ^ e := by
  have hmx := hx.bounds.1
  rw [mantissa_ofMantissaAndAccuracy] at hmx
  rw [zpow_add₀ two_ne_zero]
  have hle : ((2 : ℕ) ^ m.log2 : ℚ) ≤ x := hmx.trans' (by exact_mod_cast Nat.log2_self_le hm)
  exact mul_le_mul_of_nonneg_right (by simpa using hle) (by positivity)

theorem Describes.lt_zpow_log2 (hx : Describes (.ofMantissaAndAccuracy m accuracy) x) (e : ℤ) :
    x * 2 ^ e < (2 : ℚ) ^ (m.log2 + 1 + e : ℤ) := by
  have hmx := hx.bounds.2
  rw [mantissa_ofMantissaAndAccuracy] at hmx
  rw [zpow_add₀ two_ne_zero]
  have hlt : x < ((2 : ℕ) ^ (m.log2 + 1) : ℚ) := hmx.trans_le (by exact_mod_cast Nat.lt_log2_self)
  exact mul_lt_mul_of_pos_right (by exact_mod_cast hlt) (by positivity)

/-- Below one unit the only exponent with enough room is the smallest. -/
theorem exponent_of_isNearest_zero (hc : Canonical M E) (hx : x < 1) {z : ℚ}
    (hz : z * 2 ^ E = x * 2 ^ e) (hM : IsNearest M E z) (he : e ≤ -1074) : E = -1074 := by
  have hsmall : z * 2 ^ E < (2 : ℚ) ^ (-1074 : ℤ) :=
    calc z * 2 ^ E = x * 2 ^ e := hz
      _ < 1 * 2 ^ e := mul_lt_mul_of_pos_right hx (by positivity)
      _ ≤ 2 ^ (-1074 : ℤ) := by
        rw [one_mul]
        exact zpow_le_zpow_right₀ one_le_two he
  have hdouble : 2 * z * 2 ^ (E - 1) = z * 2 ^ E := by
    rw [zpow_sub_one₀ two_ne_zero]
    ring
  have hM1 : (1 : ℚ) ≤ M := by exact_mod_cast hc.pos
  have hzM := hM.1.bounds
  have hE := lt_of_lt_zpow (k := 0) (hdouble.trans_lt hsmall) (by linarith)
  have hmin := hc.le
  omega

/-- The exponent for the size of a number that is rounded to a double is that of the double, or the
one before it just below a power of two. -/
theorem targetExponent_of_isNearest (hc : Canonical M E)
    (hx : Describes (.ofMantissaAndAccuracy m accuracy) x) {z : ℚ} (hz : z * 2 ^ E = x * 2 ^ e)
    (hM : IsNearest M E z) (ht : Format.binary64.targetExponent (totalExponent m e) = t)
    (he : e ≤ t) : t = E ∨ t = E - 1 ∧ M = 2 ^ 52 ∧ z < 2 ^ 52 ∧ E ≠ -1074 := by
  have hzM := hM.1.bounds
  have hmin := hc.le
  rw [targetExponent_totalExponent] at ht
  have hlast : z < 2 ^ 53 := by
    have : (M : ℚ) + 1 ≤ 2 ^ 53 := by exact_mod_cast hc.lt
    linarith
  by_cases hm : m = 0
  · subst hm
    have hlog : Nat.log2 0 = 0 := by decide
    have hx1 : x < 1 := by simpa [mantissa_ofMantissaAndAccuracy] using hx.bounds.2
    have hE := exponent_of_isNearest_zero hc hx1 hz hM (by omega)
    left
    omega
  · have hlow := hz ▸ hx.zpow_log2_le hm e
    have hhigh := hz ▸ hx.lt_zpow_log2 e
    have hle := lt_of_zpow_le hlow hlast
    by_cases hE : E = -1074
    · left
      omega
    · have hnormal : 2 ^ 52 ≤ M := hc.normal.resolve_right hE
      by_cases hz52 : 2 ^ 52 ≤ z
      · have hge := lt_of_lt_zpow hhigh hz52
        left
        omega
      · -- The number lies below the double, and that is a power of two.
        have hMlt : (M : ℚ) < 2 ^ 52 + 1 := by linarith
        have hM52 : M = 2 ^ 52 := le_antisymm (Nat.lt_succ_iff.1 (by exact_mod_cast hMlt)) hnormal
        have hMq : (M : ℚ) = 2 ^ 52 := by exact_mod_cast hM52
        have hlt := lt_of_zpow_le hlow (not_le.1 hz52)
        have hge := lt_of_lt_zpow (k := 51) hhigh (by linarith)
        right
        exact ⟨by omega, hM52, not_le.1 hz52, hE⟩

/-- **Rounding.** Whatever lies nearest to a double is rounded to it, if enough bits of it are
known. -/
theorem roundWithAccuracy_of_isNearest (hc : Canonical M E)
    (hx : Describes (.ofMantissaAndAccuracy m accuracy) x) {z : ℚ} (hz : z * 2 ^ E = x * 2 ^ e)
    (hM : IsNearest M E z) (he : e ≤ Format.binary64.targetExponent (totalExponent m e)) :
    roundWithAccuracy .binary64 .positive m e accuracy = .finite .positive M E hc.pos := by
  obtain ⟨t, ht⟩ : ∃ t, Format.binary64.targetExponent (totalExponent m e) = t := ⟨_, rfl⟩
  rw [ht] at he
  -- The number over the unit that it is rounded at.
  have hscale : x / 2 ^ (t - e).toNat = z * 2 ^ (E - t) := by
    have hpow : ((2 : ℚ) ^ (t - e).toNat) = 2 ^ t / 2 ^ e := by
      rw [← zpow_natCast, Int.toNat_of_nonneg (by omega), zpow_sub₀ two_ne_zero]
    rw [hpow, zpow_sub₀ two_ne_zero, ← mul_div_assoc, hz, div_div_eq_mul_div]
  rcases targetExponent_of_isNearest hc hx hz hM ht he with rfl | ⟨rfl, rfl, hz52, hE⟩
  · rw [sub_self, zpow_zero, mul_one] at hscale
    exact roundWithAccuracy_eq hx ht he (hscale ▸ hM.1) hc.pos (shiftToTargetExponent_canonical hc)
  · have hmin := hc.le
    have hlow := hM.2 rfl hE
    have hround : RoundsTo (x / 2 ^ (E - 1 - e).toNat) (2 ^ 53) := by
      rw [hscale, sub_sub_cancel, zpow_one]
      right
      push_cast at hlow ⊢
      exact ⟨by norm_num, by linarith, by linarith⟩
    have hshift := shiftToTargetExponent_carry (t := E - 1) (by omega)
    rw [sub_add_cancel] at hshift
    exact roundWithAccuracy_eq hx ht he hround hc.pos hshift

/-! ## Decimals -/

section Decimals

variable {n : ℕ} {k : ℤ} {z : ℚ}

theorem IsNearest.half_le (hc : Canonical M E) (hM : IsNearest M E z) : 1 / 2 ≤ z := by
  have hM1 : (1 : ℚ) ≤ M := by exact_mod_cast hc.pos
  have := hM.1.bounds.1
  linarith

theorem IsNearest.lt (hc : Canonical M E) (hM : IsNearest M E z) : z < 2 ^ 53 := by
  have : (M : ℚ) + 1 ≤ 2 ^ 53 := by exact_mod_cast hc.lt
  have := hM.1.bounds.2
  linarith

/-- A decimal that lies nearest to a double is not too large for one. -/
theorem exponent_le_of_isNearest (hc : Canonical M E) (hn : 0 < n) (hz : z * 2 ^ E = n * 10 ^ k)
    (hM : IsNearest M E z) : k ≤ 2048 := by
  by_contra hk
  have hlarge : (2 : ℚ) ^ (1024 : ℤ) ≤ z * 2 ^ E := by
    rw [hz]
    calc (2 : ℚ) ^ (1024 : ℤ) ≤ 10 ^ (1024 : ℤ) :=
          zpow_le_zpow_left₀ (by norm_num) (by norm_num) (by norm_num)
      _ ≤ 10 ^ k := zpow_le_zpow_right₀ (by norm_num) (by omega)
      _ ≤ n * 10 ^ k := le_mul_of_one_le_left (by positivity) (by exact_mod_cast hn)
  have hlt := lt_of_zpow_le hlarge (hM.lt hc)
  have hmax := hc.exponent_le
  omega

/-- Nor is the exponent of such a decimal too small. -/
theorem le_exponent_of_isNearest (hc : Canonical M E) (hz : z * 2 ^ E = n * 10 ^ k)
    (hM : IsNearest M E z) : -(2048 + n.log2 : ℤ) ≤ k := by
  by_contra hk
  have hn : (n : ℚ) < 2 ^ (n.log2 + 1 : ℤ) := by exact_mod_cast Nat.lt_log2_self
  have hten : (10 : ℚ) ^ k ≤ 2 ^ k := by
    obtain ⟨j, rfl⟩ : ∃ j : ℕ, k = -j := ⟨(-k).toNat, by omega⟩
    rw [zpow_neg, zpow_neg, zpow_natCast, zpow_natCast]
    exact inv_anti₀ (by positivity) (pow_le_pow_left₀ (by norm_num) (by norm_num) j)
  have hsmall : 2 * z * 2 ^ (E - 1) < (2 : ℚ) ^ (n.log2 + 1 + k : ℤ) := by
    calc 2 * z * 2 ^ (E - 1) = z * 2 ^ E := by
          rw [zpow_sub_one₀ two_ne_zero]
          ring
      _ = n * 10 ^ k := hz
      _ ≤ n * 2 ^ k := mul_le_mul_of_nonneg_left hten (by positivity)
      _ < 2 ^ (n.log2 + 1 : ℤ) * 2 ^ k := mul_lt_mul_of_pos_right hn (by positivity)
      _ = 2 ^ (n.log2 + 1 + k : ℤ) := (zpow_add₀ two_ne_zero _ _).symm
  have hge := lt_of_lt_zpow (k := 0) hsmall (by have := hM.half_le hc; linarith)
  have hmin := hc.le
  omega

theorem mul_of_isNearest (hc : Canonical M E) (hn : 0 < n) (hk : 0 ≤ k)
    (hz : z * 2 ^ E = n * 10 ^ k) (hM : IsNearest M E z) :
    roundWithAccuracy .binary64 .positive ((n <<< 53) * 10 ^ k.toNat) (-53) .exact =
      .finite .positive M E hc.pos := by
  rw [Nat.shiftLeft_eq]
  have hlong : 2 ^ 53 ≤ n * 2 ^ 53 * 10 ^ k.toNat := by
    calc 2 ^ 53 ≤ n * 2 ^ 53 := Nat.le_mul_of_pos_left _ hn
      _ ≤ n * 2 ^ 53 * 10 ^ k.toNat := Nat.le_mul_of_pos_right _ (Nat.pow_pos (by decide))
  have hvalue : ((n * 2 ^ 53 * 10 ^ k.toNat : ℕ) : ℚ) * 2 ^ (-53 : ℤ) = n * 10 ^ k := by
    push_cast
    rw [← zpow_natCast (10 : ℚ), Int.toNat_of_nonneg hk, zpow_neg]
    field_simp
    norm_num
  generalize n * 2 ^ 53 * 10 ^ k.toNat = m at hlong hvalue
  have hlog : 53 ≤ m.log2 := (Nat.le_log2 (Nat.ne_of_gt (hlong.trans_lt' (by decide)))).2 hlong
  refine roundWithAccuracy_of_isNearest hc (describes_exact m) (hz.trans hvalue.symm) hM ?_
  rw [targetExponent_totalExponent]
  omega

theorem div_of_isNearest (hc : Canonical M E) (hn : 0 < n) {d : ℕ} (hd : 0 < d)
    (hz : z * 2 ^ E = n / d) (hM : IsNearest M E z) :
    UnpackedFloat.div .binary64 (.finite .positive n 0 hn) (.finite .positive d 0 hd) =
      .finite .positive M E hc.pos := by
  obtain ⟨e, he⟩ : ∃ e, min 0 (max ((n.log2 : ℤ) - d.log2 - 53) (-1074)) = e := ⟨_, rfl⟩
  have hcore : UnpackedFloat.div .binary64 (.finite .positive n 0 hn) (.finite .positive d 0 hd) =
      roundWithAccuracy .binary64 .positive (n <<< (-e).toNat / d) e
        (accuracyOfFraction (n <<< (-e).toNat % d) d) := by
    have ht : min 0 (Format.binary64.targetExponent
        (totalExponent n 0 - totalExponent d 0)) = e := by
      change min 0 (max ((n.log2 : ℤ) + 1 + 0 - (d.log2 + 1 + 0) - 53) (-1074)) = e
      omega
    simp only [UnpackedFloat.div, divCore, sub_self, zero_sub, ht]
    rfl
  have hvalue : ((n <<< (-e).toNat : ℕ) / d : ℚ) * 2 ^ e = n / d := by
    rw [Nat.shiftLeft_eq]
    push_cast
    rw [← zpow_natCast (2 : ℚ), Int.toNat_of_nonneg (by omega), zpow_neg]
    field_simp
  rw [hcore]
  refine roundWithAccuracy_of_isNearest hc (describes_fraction _ hd) (hz.trans hvalue.symm) hM ?_
  rw [targetExponent_totalExponent]
  -- Unless the exponent is the smallest, the quotient has all bits of a double.
  by_cases hsmall : (n.log2 : ℤ) - d.log2 - 53 ≤ -1074
  · omega
  · have hlong : 2 ^ 52 ≤ n <<< (-e).toNat / d := by
      rw [Nat.shiftLeft_eq, Nat.le_div_iff_mul_le hd]
      calc 2 ^ 52 * d ≤ 2 ^ 52 * 2 ^ (d.log2 + 1) := Nat.mul_le_mul_left _ Nat.lt_log2_self.le
        _ = 2 ^ (52 + (d.log2 + 1)) := (pow_add 2 _ _).symm
        _ ≤ 2 ^ (n.log2 + (-e).toNat) := Nat.pow_le_pow_right two_pos (by omega)
        _ = 2 ^ n.log2 * 2 ^ (-e).toNat := pow_add 2 _ _
        _ ≤ n * 2 ^ (-e).toNat := Nat.mul_le_mul_right _ (Nat.log2_self_le hn.ne')
    have hlog := (Nat.le_log2 (Nat.ne_of_gt (hlong.trans_lt' (by decide)))).2 hlong
    omega

/-- **Decimals.** A decimal that lies nearest to a double is read as that double. -/
theorem ofScientific_of_isNearest (hc : Canonical M E) (hn : 0 < n)
    (hz : z * 2 ^ E = n * 10 ^ k) (hM : IsNearest M E z) :
    UnpackedFloat.ofScientific .binary64 n k = .finite .positive M E hc.pos := by
  have hmax := exponent_le_of_isNearest hc hn hz hM
  have hmin := le_exponent_of_isNearest hc hz hM
  unfold UnpackedFloat.ofScientific
  rw [dif_neg hn.ne', if_neg (by norm_num; omega), if_neg (by norm_num; omega)]
  split
  · rename_i hk
    exact mul_of_isNearest hc hn hk hz hM
  · rename_i hk
    refine div_of_isNearest hc hn (by positivity) ?_ hM
    rw [hz]
    push_cast
    rw [← zpow_natCast (10 : ℚ), Int.toNat_of_nonneg (by omega), zpow_neg, div_inv_eq_mul]

end Decimals

end JsonPath.Number

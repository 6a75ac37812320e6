import JsonPath.Proofs.Number.Order
import JsonPath.Proofs.Number.Range

/-!
# Rounding keeps the order of integers

A double that is a number has a rank: its sign, exponent and mantissa, which are compared one after
the other. The order of doubles is the order of ranks, so it is a total one. Integers are rounded to
doubles of ranks in the same order, though two of them may come to share a rank. The reason is that
a double is the nearest one: of two that change places one would be nearer to both integers, but for
a middle between them, and that belongs to an even mantissa.

* `rank`, `compareFloat?_eq_rank` — the order of doubles as a linear order.
* `IsNearest.le` — numbers in order lie nearest to doubles in order.
* `exists_isNearest` — every positive 64-bit integer lies nearest to a double.
* `rank_floatOfInt_le` — rounding is monotone.
-/

namespace JsonPath.Number

open Float.Model Float.Model.UnpackedFloat
open Value (compareFloat?)

/-! ## Ranks -/

/-- The place of an unpacked double among the others: its sign, an infinity lying outside, then its
exponent, and then its mantissa. What is not a number has no place of its own. -/
def unpackedRank : UnpackedFloat → ℤ ×ₗ ℤ ×ₗ ℤ
  | .infinity .positive => toLex (2, toLex (0, 0))
  | .finite .positive m e _ => toLex (1, toLex (e, m))
  | .zero _ | .notANumber => toLex (0, toLex (0, 0))
  | .finite .negative m e _ => toLex (-1, toLex (-e, -m))
  | .infinity .negative => toLex (-2, toLex (0, 0))

/-- The place of a double among the others. -/
def rank (x : Float) : ℤ ×ₗ ℤ ×ₗ ℤ := unpackedRank x.toModel.unpack

theorem compare_toLex (a b c a' b' c' : ℤ) :
    compare (toLex (a, toLex (b, c))) (toLex (a', toLex (b', c'))) =
      (compare a a').then ((compare b b').then (compare c c')) := rfl

theorem compare_neg (a b : ℤ) : compare (-a) (-b) = (compare a b).swap := by
  rw [Int.compare_swap]
  rcases lt_trichotomy a b with h | rfl | h
  · rw [compare_gt_iff_gt.2 (neg_lt_neg h), compare_gt_iff_gt.2 h]
  · simp
  · rw [compare_lt_iff_lt.2 (neg_lt_neg h), compare_lt_iff_lt.2 h]

theorem compare_natCast (m n : ℕ) : compare (m : ℤ) n = compare m n := by
  rcases lt_trichotomy m n with h | rfl | h
  · rw [compare_lt_iff_lt.2 h, compare_lt_iff_lt.2 (Int.ofNat_lt.2 h)]
  · simp
  · rw [compare_gt_iff_gt.2 h, compare_gt_iff_gt.2 (Int.ofNat_lt.2 h)]

/-- Two unpacked doubles of one sign are compared by exponent and mantissa, all others by sign. -/
theorem unpacked_compare_eq_rank {a b : UnpackedFloat} (ha : a.isNaN = false)
    (hb : b.isNaN = false) :
    a.compare b = some (compare (unpackedRank a) (unpackedRank b)) := by
  cases a with
  | notANumber => contradiction
  | infinity s =>
    cases s <;> cases b with
    | notANumber => contradiction
    | infinity t | finite t => cases t <;> rfl
    | zero t => rfl
  | zero s =>
    cases b with
    | notANumber => contradiction
    | infinity t | finite t => cases t <;> rfl
    | zero t => rfl
  | finite s m e hm =>
    cases s <;> cases b with
    | notANumber => contradiction
    | infinity t => cases t <;> rfl
    | zero t => rfl
    | finite t n f hn =>
      cases t <;> first
        | rfl
        | simp [UnpackedFloat.compare, unpackedRank, compare_toLex, compare_neg, compare_natCast,
            Ordering.swap_then]

variable {x y : Float}

/-- **The order of doubles is total.** Two doubles that are numbers compare as their ranks do. -/
theorem compareFloat?_eq_rank (hx : x.isNaN = false) (hy : y.isNaN = false) :
    compareFloat? x y = some (compare (rank x) (rank y)) :=
  (compareFloat?_eq x y).trans (unpacked_compare_eq_rank hx hy)

/-! ## The nearest double -/

variable {M M' : ℕ} {E E' : ℤ} {z z' : ℚ}

/-- What comes to one more, or less, belongs to no mantissa that is smaller, or larger: only the
middle between two could, and it belongs to the even one. -/
theorem RoundsTo.le {m m' : ℕ} (h : RoundsTo z m) (h' : RoundsTo z' m') (hle : z ≤ z') :
    m ≤ m' := by
  by_contra hlt
  have hnext : m' + 1 ≤ m := Nat.succ_le_of_lt (Nat.lt_of_not_le hlt)
  have hnextq : (m' : ℚ) + 1 ≤ m := by exact_mod_cast hnext
  rcases h with ⟨h₁, -⟩ | ⟨heven, h₁, -⟩
  · have := h'.bounds.2
    linarith
  · rcases h' with ⟨-, h₂⟩ | ⟨heven', -, h₂⟩
    · linarith
    · have hsame : m = m' + 1 := le_antisymm (by exact_mod_cast (by linarith : (m : ℚ) ≤ m' + 1)) hnext
      omega

/-- Above the least exponent a double is nearest to nothing that lies under the middle below the
least mantissa. -/
theorem IsNearest.low_le (hc : Canonical M E) (h : IsNearest M E z) (hE : E ≠ -1074) :
    2 ^ 52 - 1 / 4 ≤ z := by
  have hM := hc.normal.resolve_right hE
  rcases Nat.lt_or_eq_of_le hM with hlt | heq
  · have hMq : (2 : ℚ) ^ 52 + 1 ≤ M := by exact_mod_cast hlt
    have := h.1.bounds.1
    linarith
  · have hlow := h.2 heq.symm hE
    rwa [← heq, Nat.cast_pow, Nat.cast_ofNat] at hlow

/-- Numbers in order lie nearest to doubles in order. -/
theorem IsNearest.le (hc : Canonical M E) (hc' : Canonical M' E') (h : IsNearest M E z)
    (h' : IsNearest M' E' z') (hle : z * 2 ^ E ≤ z' * 2 ^ E') : E < E' ∨ E = E' ∧ M ≤ M' := by
  rcases lt_trichotomy E E' with hlt | rfl | hgt
  · exact .inl hlt
  · exact .inr ⟨rfl, h.1.le h'.1 (le_of_mul_le_mul_right hle (by positivity))⟩
  · exfalso
    -- The greater exponent is too great by a factor of two at least.
    have hE : E ≠ -1074 := by
      have := hc'.le
      omega
    have hlow := h.low_le hc hE
    have hdouble : 2 * z ≤ z' := by
      have hpow : (2 : ℚ) * 2 ^ E' ≤ 2 ^ E := by
        rw [← zpow_one_add₀ two_ne_zero]
        exact zpow_le_zpow_right₀ one_le_two (by omega)
      refine le_of_mul_le_mul_right ?_ (by positivity : (0 : ℚ) < 2 ^ E')
      calc 2 * z * 2 ^ E' = z * (2 * 2 ^ E') := by ring
        _ ≤ z * 2 ^ E := mul_le_mul_of_nonneg_left hpow (by linarith)
        _ ≤ z' * 2 ^ E' := hle
    have hmiddle : RoundsTo (2 ^ 53 - 1 / 2) (2 ^ 53) := by
      right
      norm_num
    have := hmiddle.le h'.1 (by linarith)
    exact absurd hc'.lt (Nat.not_lt.2 this)

/-- Every number that is not negative rounds to a whole one. -/
theorem exists_roundsTo (hz : 0 ≤ z) : ∃ m : ℕ, RoundsTo z m := by
  have hlow := Nat.floor_le hz
  have hhigh := Nat.lt_floor_add_one z
  generalize ⌊z⌋₊ = m at hlow hhigh
  rcases lt_trichotomy z (m + 1 / 2) with hlt | heq | hgt
  · exact ⟨m, .inl ⟨by linarith, hlt⟩⟩
  · rcases Nat.mod_two_eq_zero_or_one m with heven | hodd
    · exact ⟨m, .inr ⟨heven, by linarith, heq.le⟩⟩
    · refine ⟨m + 1, .inr ⟨by omega, ?_, ?_⟩⟩ <;> push_cast <;> linarith
  · refine ⟨m + 1, .inl ?_⟩
    push_cast
    constructor <;> linarith

/-- A number whose whole part has 53 bits lies nearest to a double: to the one with the mantissa
that it rounds to, or to the next power of two. -/
theorem exists_isNearest_of_bounds {t : ℤ} (hlow : 2 ^ 52 ≤ z) (hhigh : z < 2 ^ 53)
    (ht : -1074 ≤ t) (ht' : t ≤ 970) :
    ∃ M E z', Canonical M E ∧ z' * 2 ^ E = z * 2 ^ t ∧ IsNearest M E z' := by
  obtain ⟨k, hk⟩ := exists_roundsTo (z := z) (by linarith)
  have hbounds := hk.bounds
  have hk52 : 2 ^ 52 ≤ k := by
    have : (2 ^ 52 : ℚ) < k + 1 := by linarith
    exact Nat.lt_succ_iff.1 (by exact_mod_cast this)
  have hk53 : k ≤ 2 ^ 53 := by
    have : (k : ℚ) < 2 ^ 53 + 1 := by linarith
    exact Nat.lt_succ_iff.1 (by exact_mod_cast this)
  rcases Nat.lt_or_eq_of_le hk53 with hshort | rfl
  · refine ⟨k, t, z, ⟨by omega, hshort, ht, by omega, .inl hk52⟩, rfl, hk, ?_⟩
    rintro rfl -
    push_cast
    linarith
  · -- Rounding up has given the next power of two, and there the unit is twice as large.
    refine ⟨2 ^ 52, t + 1, z / 2, ⟨by norm_num, by norm_num, by omega, by omega, .inl le_rfl⟩,
      ?_, .inr ?_, fun _ _ => ?_⟩
    · rw [zpow_add_one₀ two_ne_zero]
      ring
    all_goals
      push_cast at hbounds ⊢
    · exact ⟨by norm_num, by linarith, by linarith⟩
    · linarith

/-! ## Integers -/

variable {n : ℕ}

/-- Every positive integer up to the 64-bit ones lies nearest to a double. -/
theorem exists_isNearest (hn : 0 < n) (hlt : n < 2 ^ 64) :
    ∃ (M : ℕ) (E : ℤ) (z : ℚ), Canonical M E ∧ z * 2 ^ E = n ∧ IsNearest M E z := by
  have hlog := (Nat.log2_lt hn.ne').2 hlt
  obtain ⟨t, ht⟩ : ∃ t : ℤ, t = n.log2 - 52 := ⟨_, rfl⟩
  have hz : (n : ℚ) / 2 ^ t * 2 ^ t = n := div_mul_cancel₀ _ (by positivity)
  have hpow (k : ℕ) : (2 : ℚ) ^ k * 2 ^ t = 2 ^ (k + t : ℤ) := by
    rw [zpow_add₀ two_ne_zero, zpow_natCast]
  have hlow : (2 : ℚ) ^ 52 ≤ n / 2 ^ t := by
    have hbit := (describes_exact n).zpow_log2_le hn.ne' 0
    rw [zpow_zero, mul_one, ← hz] at hbit
    refine le_of_mul_le_mul_right ?_ (by positivity : (0 : ℚ) < 2 ^ t)
    rw [hpow]
    exact hbit.trans_eq' (by congr 1; omega)
  have hhigh : (n : ℚ) / 2 ^ t < 2 ^ 53 := by
    have hbit := (describes_exact n).lt_zpow_log2 0
    rw [zpow_zero, mul_one, ← hz] at hbit
    refine lt_of_mul_lt_mul_right ?_ (by positivity : (0 : ℚ) ≤ 2 ^ t)
    rw [hpow]
    exact hbit.trans_eq (by congr 1; omega)
  obtain ⟨M, E, z, hc, hzE, hnear⟩ := exists_isNearest_of_bounds hlow hhigh
    (by omega : -1074 ≤ t) (by omega)
  exact ⟨M, E, z, hc, hzE.trans hz, hnear⟩

/-- A mantissa can be given more bits at its end before it is rounded. -/
theorem round_of_isNearest (hn : 0 < n) (hc : Canonical M E) (hz : z * 2 ^ E = n)
    (h : IsNearest M E z) :
    UnpackedFloat.round .binary64 .positive n 0 = .finite .positive M E hc.pos := by
  obtain ⟨t, ht⟩ : ∃ t, Format.binary64.targetExponent (totalExponent n 0) = t := ⟨_, rfl⟩
  obtain ⟨k, hk⟩ : ∃ k, (0 - t).toNat = k := ⟨_, rfl⟩
  have hround : UnpackedFloat.round .binary64 .positive n 0 =
      roundWithAccuracy .binary64 .positive (n <<< k) (0 - k) .exact := by
    rw [← hk, ← ht]
    rfl
  have hvalue : ((n <<< k : ℕ) : ℚ) * 2 ^ (0 - k : ℤ) = n := by
    rw [Nat.shiftLeft_eq, zero_sub, zpow_neg, zpow_natCast]
    push_cast
    exact mul_inv_cancel_right₀ (by positivity) _
  rw [hround]
  refine roundWithAccuracy_of_isNearest hc (describes_exact _) (hz.trans hvalue.symm) h ?_
  have hlog : (n <<< k).log2 = n.log2 + k := by
    rw [Nat.shiftLeft_eq, Nat.log2_eq_iff (by positivity), pow_add, Nat.add_right_comm, pow_add]
    exact ⟨Nat.mul_le_mul_right _ (Nat.log2_self_le hn.ne'),
      Nat.mul_lt_mul_of_pos_right Nat.lt_log2_self (by positivity)⟩
  rw [targetExponent_totalExponent] at ht ⊢
  rw [hlog]
  omega

/-- Rounding does not look at the sign. -/
theorem round_neg (m : ℕ) (e : ℤ) : UnpackedFloat.round .binary64 .negative m e =
    (UnpackedFloat.round .binary64 .positive m e).neg := by
  simp only [UnpackedFloat.round, roundWithAccuracy]
  split <;> rfl

/-- A positive integer is rounded to the double that it lies nearest to, and its negative to the
negative of that double. -/
theorem exists_floatOfInt (hn : 0 < n) (hlt : n < 2 ^ 64) :
    ∃ (b : Binary64) (z : ℚ), b.negative = false ∧ Canonical b.mantissa b.exponent ∧
      z * 2 ^ b.exponent = n ∧ IsNearest b.mantissa b.exponent z ∧
      floatOfInt n = b.toFloat ∧ floatOfInt (-n) = b.neg.toFloat := by
  obtain ⟨M, E, z, hc, hz, hnear⟩ := exists_isNearest hn hlt
  have hround := round_of_isNearest hn hc hz hnear
  have hpos : compare (n : ℤ) 0 = .gt := compare_gt_iff_gt.2 (by omega)
  have hneg : compare (-n : ℤ) 0 = .lt := compare_lt_iff_lt.2 (by omega)
  have hunpacked : UnpackedFloat.ofInt .binary64 n = Binary64.unpacked ⟨false, M, E⟩ := by
    rw [Binary64.unpacked_of_pos hc.pos, UnpackedFloat.ofInt, UnpackedFloat.normalize, hpos]
    exact hround
  have hunpacked' : UnpackedFloat.ofInt .binary64 (-n) = Binary64.unpacked ⟨true, M, E⟩ := by
    rw [Binary64.unpacked_of_pos hc.pos, UnpackedFloat.ofInt, UnpackedFloat.normalize, hneg]
    simp only [neg_neg, Int.toNat_natCast, round_neg, hround]
    rfl
  exact ⟨⟨false, M, E⟩, z, rfl, hc, hz, hnear,
    congrArg (fun f => Float.ofModel (Float.Model.pack f)) hunpacked,
    congrArg (fun f => Float.ofModel (Float.Model.pack f)) hunpacked'⟩

theorem rank_toFloat {b : Binary64} (hb : b.IsValid) : rank b.toFloat = unpackedRank b.unpacked :=
  congrArg unpackedRank (Binary64.unpack_toFloat hb)

theorem unpackedRank_neg (a : UnpackedFloat) : unpackedRank a.neg = -unpackedRank a := by
  cases a with
  | notANumber | zero s => rfl
  | infinity s => cases s <;> rfl
  | finite s m e hm =>
    cases s with
    | positive => rfl
    | negative =>
      show toLex (1, toLex (e, (m : ℤ))) = toLex (1, toLex (- -e, - -(m : ℤ)))
      rw [neg_neg, neg_neg]

theorem rank_floatOfInt_zero : rank (floatOfInt 0) = 0 := rfl

theorem rank_floatOfInt_neg (hlt : n < 2 ^ 64) :
    rank (floatOfInt (-n)) = -rank (floatOfInt n) := by
  rcases Nat.eq_zero_or_pos n with rfl | hn
  · rfl
  · obtain ⟨b, z, -, hc, -, -, hfloat, hfloat'⟩ := exists_floatOfInt hn hlt
    have hb : b.IsValid := .inr hc
    rw [hfloat, hfloat', rank_toFloat hb, rank_toFloat hb.neg, Binary64.unpacked_neg,
      unpackedRank_neg]

/-- The double of a positive integer ranks by its exponent and mantissa. -/
theorem exists_rank_floatOfInt (hn : 0 < n) (hlt : n < 2 ^ 64) :
    ∃ (M : ℕ) (E : ℤ) (z : ℚ), Canonical M E ∧ z * 2 ^ E = n ∧ IsNearest M E z ∧
      rank (floatOfInt n) = toLex (1, toLex (E, (M : ℤ))) := by
  obtain ⟨b, z, hpositive, hc, hz, hnear, hfloat, -⟩ := exists_floatOfInt hn hlt
  have hsign : b.sign = .positive := by simp [Binary64.sign, hpositive]
  refine ⟨b.mantissa, b.exponent, z, hc, hz, hnear, ?_⟩
  rw [hfloat, rank_toFloat (.inr hc), Binary64.unpacked_of_pos hc.pos, hsign]
  rfl

theorem rank_floatOfInt_natCast_le {m : ℕ} (hlt : n < 2 ^ 64) (hle : m ≤ n) :
    rank (floatOfInt m) ≤ rank (floatOfInt n) := by
  rcases Nat.eq_zero_or_pos n with rfl | hn
  · rw [Nat.le_zero.1 hle]
  obtain ⟨M', E', z', hc', hz', hnear', hrank'⟩ := exists_rank_floatOfInt hn hlt
  rcases Nat.eq_zero_or_pos m with rfl | hm
  · rw [hrank', Nat.cast_zero, rank_floatOfInt_zero]
    exact Prod.Lex.toLex_le_toLex.2 (.inl one_pos)
  obtain ⟨M, E, z, hc, hz, hnear, hrank⟩ := exists_rank_floatOfInt hm (hle.trans_lt hlt)
  rw [hrank, hrank']
  refine Prod.Lex.toLex_le_toLex.2 (.inr ⟨rfl, Prod.Lex.toLex_le_toLex.2 ?_⟩)
  rcases hnear.le hc hc' hnear' (by rw [hz, hz']; exact_mod_cast hle) with hE | ⟨hE, hM⟩
  · exact .inl hE
  · exact .inr ⟨hE, Int.ofNat_le.2 hM⟩

/-- **Rounding is monotone.** Integers in order are rounded to doubles in order. -/
theorem rank_floatOfInt_le {m n : ℤ} (hm : Fits m) (hn : Fits n) (hle : m ≤ n) :
    rank (floatOfInt m) ≤ rank (floatOfInt n) := by
  rw [fits_iff] at hm hn
  have hnonneg {k : ℕ} (hk : k < 2 ^ 64) : 0 ≤ rank (floatOfInt k) :=
    rank_floatOfInt_natCast_le hk (Nat.zero_le k)
  obtain ⟨a, rfl | rfl⟩ := m.eq_nat_or_neg <;> obtain ⟨b, rfl | rfl⟩ := n.eq_nat_or_neg
  · exact rank_floatOfInt_natCast_le (by omega) (by omega)
  · obtain ⟨rfl, rfl⟩ : a = 0 ∧ b = 0 := by omega
    exact le_rfl
  · rw [rank_floatOfInt_neg (by omega)]
    exact (neg_nonpos.2 (hnonneg (by omega))).trans (hnonneg (by omega))
  · rw [rank_floatOfInt_neg (by omega), rank_floatOfInt_neg (by omega)]
    exact neg_le_neg (rank_floatOfInt_natCast_le (by omega) (by omega))

end JsonPath.Number

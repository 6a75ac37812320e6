import Mathlib.Data.List.TakeWhile
import Mathlib.Data.Nat.Cast.Order.Field
import JsonPath.Number.Notation
import JsonPath.Number.Shortest
import JsonPath.Proofs.Number.Packing
import JsonPath.Proofs.Text.Spelling

/-!
# Shortest digits read back

The digits are searched in the interval of the numbers that are nearest to a double, on finer and
finer grids. Seventeen digits are enough: the steps of that grid are narrower than the interval, so
one of the two points next to the double lies in it.

* `Ratio.toRat` — fractions as rational numbers.
* `isNearest_of_holds` — the points of the interval are the numbers nearest to the double.
* `isSome_gridPoint?` — with seventeen digits there is such a point.
* `shortest_spec` — the shortest digits are a number nearest to the double.
-/

namespace JsonPath.Number

namespace Digits

/-! ## Fractions -/

namespace Ratio

/-- The fraction as a rational number. -/
def toRat (r : Ratio) : ℚ := r.numerator / r.denominator

variable {a b r : Ratio}

theorem below_iff (ha : 0 < a.denominator) (hb : 0 < b.denominator) (included : Bool) :
    below included a b = true ↔ if included then a.toRat ≤ b.toRat else a.toRat < b.toRat := by
  have haq : (0 : ℚ) < a.denominator := by exact_mod_cast ha
  have hbq : (0 : ℚ) < b.denominator := by exact_mod_cast hb
  cases included
  · simp only [below, toRat, Bool.false_eq_true, if_false, decide_eq_true_eq]
    rw [div_lt_div_iff₀ haq hbq]
    exact_mod_cast Iff.rfl
  · simp only [below, toRat, if_true, decide_eq_true_eq]
    rw [div_le_div_iff₀ haq hbq]
    exact_mod_cast Iff.rfl

theorem denominator_ofBinary_pos (m : ℕ) (e : ℤ) : 0 < (ofBinary m e).denominator := by
  unfold ofBinary
  split
  · exact Nat.one_pos
  · exact Nat.pow_pos (by decide)

theorem denominator_scale_pos (hr : 0 < r.denominator) (shift : ℤ) :
    0 < (r.scale shift).denominator := by
  unfold scale
  split
  · exact hr
  · exact Nat.mul_pos hr (Nat.pow_pos (by decide))

theorem zpow_of_nonneg (b : ℕ) {e : ℤ} (he : 0 ≤ e) : (b : ℚ) ^ e = (Nat.pow b e.toNat : ℕ) := by
  rw [← Int.toNat_of_nonneg he, zpow_natCast, Int.toNat_natCast]
  exact (Nat.cast_pow b _).symm

theorem zpow_of_neg (b : ℕ) {e : ℤ} (he : ¬ 0 ≤ e) :
    (b : ℚ) ^ e = ((Nat.pow b (-e).toNat : ℕ) : ℚ)⁻¹ := by
  rw [← zpow_of_nonneg b (Int.le_of_lt (Int.neg_pos_of_neg (Int.not_le.1 he))), ← zpow_neg, neg_neg]

theorem toRat_ofBinary (m : ℕ) (e : ℤ) : (ofBinary m e).toRat = m * 2 ^ e := by
  unfold ofBinary toRat
  split
  · rename_i he
    have hpow := zpow_of_nonneg 2 he
    rw [Nat.cast_ofNat] at hpow
    rw [hpow, Nat.cast_mul, Nat.cast_one, div_one]
  · rename_i he
    have hpow := zpow_of_neg 2 he
    rw [Nat.cast_ofNat] at hpow
    rw [hpow, div_eq_mul_inv]

theorem toRat_scale (r : Ratio) (shift : ℤ) : (r.scale shift).toRat = r.toRat * 10 ^ shift := by
  unfold scale toRat
  split
  · rename_i he
    have hpow := zpow_of_nonneg 10 he
    rw [Nat.cast_ofNat] at hpow
    rw [hpow, Nat.cast_mul, div_mul_eq_mul_div]
  · rename_i he
    have hpow := zpow_of_neg 10 he
    rw [Nat.cast_ofNat] at hpow
    rw [hpow, Nat.cast_mul, div_mul_eq_div_div, div_eq_mul_inv (_ / _)]

end Ratio

/-! ## The interval of a double -/

section Interval

variable {b : Binary64} {n : ℕ} {shift : ℤ}

/-- Whether a number is above the lower end of an interval, and below the upper one. -/
theorem holds_iff (i : Interval) (hl : 0 < i.low.denominator) (hh : 0 < i.high.denominator)
    (n : ℕ) (shift : ℤ) : i.holds n shift = true ↔
      if i.closed then i.low.toRat ≤ n * 10 ^ shift ∧ n * 10 ^ shift ≤ i.high.toRat
      else i.low.toRat < n * 10 ^ shift ∧ n * 10 ^ shift < i.high.toRat := by
  have hx := Ratio.denominator_scale_pos (r := ⟨n, 1⟩) Nat.one_pos shift
  have hvalue : ((Ratio.mk n 1).scale shift).toRat = n * 10 ^ shift := by
    rw [Ratio.toRat_scale]
    simp [Ratio.toRat]
  rw [Interval.holds, Bool.and_eq_true, Ratio.below_iff hl hx, Ratio.below_iff hx hh, hvalue]
  split <;> rfl

/-- The lower end of the interval of a double, over its unit. -/
def lowEnd (m : ℕ) (e : ℤ) : ℚ := if m = 2 ^ 52 ∧ e ≠ -1074 then m - 1 / 4 else m - 1 / 2

theorem toRat_low (hc : Canonical b.mantissa b.exponent) :
    (interval b).low.toRat = lowEnd b.mantissa b.exponent * 2 ^ b.exponent := by
  have hpos := hc.pos
  have hnearer : (b.mantissa == Nat.pow 2 52 && b.exponent != -1074) = true ↔
      b.mantissa = 2 ^ 52 ∧ b.exponent ≠ -1074 := by simp
  simp only [interval, lowEnd, hnearer]
  split
  · rw [Ratio.toRat_ofBinary, Nat.cast_sub (by omega), zpow_sub₀ two_ne_zero]
    push_cast
    norm_num
    ring
  · rw [Ratio.toRat_ofBinary, Nat.cast_sub (by omega), zpow_sub_one₀ two_ne_zero]
    push_cast
    ring

theorem toRat_high (b : Binary64) :
    (interval b).high.toRat = (b.mantissa + 1 / 2) * 2 ^ b.exponent := by
  rw [interval, Ratio.toRat_ofBinary, zpow_sub_one₀ two_ne_zero]
  push_cast
  ring

theorem denominator_low_pos (b : Binary64) : 0 < (interval b).low.denominator := by
  unfold interval
  dsimp only
  split <;> exact Ratio.denominator_ofBinary_pos _ _

theorem denominator_high_pos (b : Binary64) : 0 < (interval b).high.denominator :=
  Ratio.denominator_ofBinary_pos _ _

theorem sub_half_le_lowEnd (m : ℕ) (e : ℤ) : m - 1 / 2 ≤ lowEnd m e := by
  unfold lowEnd
  split <;> linarith

/-- The points of the interval of a double are nearest to it. -/
theorem isNearest_of_holds (hc : Canonical b.mantissa b.exponent)
    (h : (interval b).holds n shift = true) :
    IsNearest b.mantissa b.exponent (n * 10 ^ shift / 2 ^ b.exponent) := by
  have hunit : (0 : ℚ) < 2 ^ b.exponent := by positivity
  have hlow := sub_half_le_lowEnd b.mantissa b.exponent
  rw [holds_iff _ (denominator_low_pos b) (denominator_high_pos b), toRat_low hc, toRat_high,
    ← le_div_iff₀ hunit, ← div_le_iff₀ hunit, ← lt_div_iff₀ hunit, ← div_lt_iff₀ hunit] at h
  have hnearer : b.mantissa = 2 ^ 52 → b.exponent ≠ -1074 →
      lowEnd b.mantissa b.exponent = b.mantissa - 1 / 4 := fun hm he => if_pos ⟨hm, he⟩
  split at h
  · rename_i hclosed
    have heven : b.mantissa % 2 = 0 := by simpa [interval] using hclosed
    exact ⟨.inr ⟨heven, by linarith, h.2⟩, fun hm he => by linarith [hnearer hm he]⟩
  · exact ⟨.inl ⟨by linarith, h.2⟩, fun hm he => by linarith [hnearer hm he]⟩

/-! ## The search -/

theorem holds_of_gridPoint? {i : Interval} {r : Ratio} (h : i.gridPoint? r shift = some n) :
    i.holds n shift = true := by
  unfold Interval.gridPoint? at h
  dsimp only at h
  split at h
  · contradiction
  · rename_i hdown _
    obtain rfl := Option.some.inj h
    exact hdown
  · rename_i hup
    obtain rfl := Option.some.inj h
    exact hup
  · rename_i hdown hup
    split at h
    · obtain rfl := Option.some.inj h
      exact hdown
    · split at h
      · obtain rfl := Option.some.inj h
        exact hup
      · split at h <;> obtain rfl := Option.some.inj h
        · exact hdown
        · exact hup

/-- If some grid has a point, the search finds one. -/
theorem holds_of_search {i : Interval} {r : Ratio} {magnitude : ℤ} {fuel count last : ℕ}
    (hlast : count ≤ last ∧ last < count + fuel)
    (h : (i.gridPoint? r (magnitude - last + 1)).isSome) :
    i.holds (search i r magnitude fuel count).1 (search i r magnitude fuel count).2 = true := by
  induction fuel generalizing count with
  | zero => omega
  | succ fuel ih =>
    rw [search]
    cases hpoint : i.gridPoint? r (magnitude - count + 1) with
    | some n =>
      dsimp only
      exact holds_of_gridPoint? hpoint
    | none =>
      have hne : count ≠ last := by
        rintro rfl
        simp [hpoint] at h
      dsimp only
      exact ih (by omega)

/-- What lies strictly between the ends of an interval belongs to it. -/
theorem holds_of_lt {i : Interval} (hl : 0 < i.low.denominator) (hh : 0 < i.high.denominator)
    (hlow : i.low.toRat < n * 10 ^ shift) (hhigh : n * 10 ^ shift < i.high.toRat) :
    i.holds n shift = true := by
  rw [holds_iff i hl hh]
  split
  · exact ⟨hlow.le, hhigh.le⟩
  · exact ⟨hlow, hhigh⟩

/-- A grid that is finer than an interval is wide has a point in it, next to any point inside. -/
theorem isSome_gridPoint? {i : Interval} {r : Ratio} (hl : 0 < i.low.denominator)
    (hh : 0 < i.high.denominator) (hr : 0 < r.denominator) (hlow : i.low.toRat < r.toRat)
    (hhigh : r.toRat < i.high.toRat) (hfine : 10 ^ shift < i.high.toRat - i.low.toRat) :
    (i.gridPoint? r shift).isSome := by
  have hstep : (0 : ℚ) < 10 ^ shift := by positivity
  obtain ⟨s, hs⟩ : ∃ s, r.scale (-shift) = s := ⟨_, rfl⟩
  have hsd : 0 < s.denominator := hs ▸ Ratio.denominator_scale_pos hr _
  have hrs : r.toRat = s.toRat * 10 ^ shift := by
    rw [← hs, Ratio.toRat_scale, mul_assoc, ← zpow_add₀ (by norm_num), neg_add_cancel, zpow_zero,
      mul_one]
  -- The points of the grid on both sides of the fraction.
  have hdown : ((s.numerator / s.denominator : ℕ) : ℚ) * 10 ^ shift ≤ r.toRat := by
    rw [hrs]
    exact mul_le_mul_of_nonneg_right Nat.cast_div_le hstep.le
  have hup : r.toRat < ((s.numerator / s.denominator + 1 : ℕ) : ℚ) * 10 ^ shift := by
    rw [hrs]
    refine mul_lt_mul_of_pos_right ?_ hstep
    rw [Ratio.toRat, div_lt_iff₀ (by exact_mod_cast hsd), mul_comm]
    exact_mod_cast Nat.lt_mul_div_succ s.numerator hsd
  generalize hq : s.numerator / s.denominator = q at hdown hup
  have hin : i.holds q shift = true ∨ i.holds (q + 1) shift = true := by
    by_cases hqlow : i.low.toRat < q * 10 ^ shift
    · exact .inl (holds_of_lt hl hh hqlow (hdown.trans_lt hhigh))
    · refine .inr (holds_of_lt hl hh (hlow.trans hup) ?_)
      push_cast
      linarith
  unfold Interval.gridPoint?
  simp only [hs, hq]
  split
  · rename_i hq hq'
    simp [hq, hq'] at hin
  · rfl
  · rfl
  · split
    · rfl
    · split <;> rfl

end Interval

/-! ## The size of a fraction -/

theorem lt_pow_length_toDigits (n : ℕ) : n < 10 ^ (Nat.toDigits 10 n).length :=
  (Nat.length_toDigits_le_iff (by decide) Nat.length_toDigits_pos).1 le_rfl

theorem pow_length_toDigits_le {n : ℕ} (hn : 0 < n) :
    10 ^ ((Nat.toDigits 10 n).length - 1) ≤ n := by
  by_contra h
  rcases Nat.eq_zero_or_pos ((Nat.toDigits 10 n).length - 1) with hlen | hlen
  · rw [hlen] at h
    omega
  · have hle := (Nat.length_toDigits_le_iff (by decide) hlen).2 (Nat.not_le.1 h)
    omega

/-- The magnitude of a fraction is the exponent of a power of ten that is no larger. -/
theorem Ratio.pow_magnitude_le {r : Ratio} (hn : 0 < r.numerator) (hd : 0 < r.denominator) :
    10 ^ r.magnitude ≤ r.toRat := by
  have hdq : (0 : ℚ) < r.denominator := by exact_mod_cast hd
  unfold magnitude
  dsimp only
  generalize hguess : ((Nat.toDigits 10 r.numerator).length : ℤ) -
    (Nat.toDigits 10 r.denominator).length = guess
  split
  · rename_i h
    have hle := (below_iff (a := ⟨1, 1⟩) Nat.one_pos (denominator_scale_pos hd _) true).1 h
    rw [if_pos rfl, toRat_scale, zpow_neg, ← div_eq_mul_inv, le_div_iff₀ (by positivity)] at hle
    simpa [toRat] using hle
  · have hlow : ((10 : ℚ) ^ ((Nat.toDigits 10 r.numerator).length - 1 : ℕ)) ≤ r.numerator := by
      exact_mod_cast pow_length_toDigits_le hn
    have hhigh : (r.denominator : ℚ) ≤ 10 ^ (Nat.toDigits 10 r.denominator).length := by
      exact_mod_cast (lt_pow_length_toDigits r.denominator).le
    have hlen : 0 < (Nat.toDigits 10 r.numerator).length := Nat.length_toDigits_pos
    have hexponent : guess - 1 = ((Nat.toDigits 10 r.numerator).length - 1 : ℕ) -
        ((Nat.toDigits 10 r.denominator).length : ℤ) := by omega
    rw [hexponent, zpow_sub₀ (by norm_num), zpow_natCast, zpow_natCast, toRat,
      div_le_div_iff₀ (by positivity) hdq]
    exact mul_le_mul hlow hhigh (by positivity) (by positivity)

/-! ## Seventeen digits -/

variable {b : Binary64}

theorem numerator_ofBinary_pos {m : ℕ} (hm : 0 < m) (e : ℤ) :
    0 < (Ratio.ofBinary m e).numerator := by
  unfold Ratio.ofBinary
  split
  · exact Nat.mul_pos hm (Nat.pow_pos (by decide))
  · exact hm

/-- The search for the digits of a double ends at a number nearest to it. -/
theorem holds_search (hc : Canonical b.mantissa b.exponent) :
    let r := Ratio.ofBinary b.mantissa b.exponent
    (interval b).holds (search (interval b) r r.magnitude 17 1).1
      (search (interval b) r r.magnitude 17 1).2 = true := by
  intro r
  have hr : r.toRat = b.mantissa * 2 ^ b.exponent := Ratio.toRat_ofBinary _ _
  have hunit : (0 : ℚ) < 2 ^ b.exponent := by positivity
  have hmagnitude : (10 : ℚ) ^ r.magnitude ≤ b.mantissa * 2 ^ b.exponent :=
    hr ▸ Ratio.pow_magnitude_le (numerator_ofBinary_pos hc.pos _)
      (Ratio.denominator_ofBinary_pos _ _)
  have hlast : (b.mantissa : ℚ) < 2 ^ 53 := by exact_mod_cast hc.lt
  have hends : lowEnd b.mantissa b.exponent < b.mantissa ∧
      b.mantissa / 10 ^ 16 < b.mantissa + 1 / 2 - lowEnd b.mantissa b.exponent := by
    unfold lowEnd
    split
    · rename_i hm
      have hfirst : (b.mantissa : ℚ) = 2 ^ 52 := by exact_mod_cast hm.1
      rw [hfirst]
      norm_num
    · constructor <;> linarith
  refine holds_of_search (show 1 ≤ 17 ∧ 17 < 1 + 17 by omega) (isSome_gridPoint?
    (denominator_low_pos b) (denominator_high_pos b) (Ratio.denominator_ofBinary_pos _ _) ?_ ?_ ?_)
  · rw [toRat_low hc, hr]
    exact mul_lt_mul_of_pos_right hends.1 hunit
  · rw [toRat_high, hr]
    exact mul_lt_mul_of_pos_right (by linarith) hunit
  · rw [toRat_high, toRat_low hc, ← sub_mul]
    calc (10 : ℚ) ^ (r.magnitude - (17 : ℕ) + 1) = 10 ^ r.magnitude / 10 ^ 16 := by
          rw [show r.magnitude - (17 : ℕ) + 1 = r.magnitude - (16 : ℕ) by push_cast; ring,
            zpow_sub₀ (by norm_num), zpow_natCast]
      _ ≤ b.mantissa * 2 ^ b.exponent / 10 ^ 16 := by gcongr
      _ = b.mantissa / 10 ^ 16 * 2 ^ b.exponent := by ring
      _ < _ := mul_lt_mul_of_pos_right hends.2 hunit

/-! ## The digits -/

/-- The characters of the digits. -/
def chars (d : Digits) : List Char := d.digits.map digitChar

theorem map_digitChar_ofNat (n : ℕ) : (ofNat n).map digitChar = Nat.toDigits 10 n := by
  rw [ofNat, List.map_map]
  conv_rhs => rw [← List.map_id (Nat.toDigits 10 n)]
  refine List.map_congr_left fun c hc => ?_
  have hdigit : 48 ≤ c.toNat ∧ c.toNat ≤ 57 := by
    simpa [Char.isDigit, UInt32.le_iff_toNat_le] using isDigit_of_mem_toDigits hc
  have hcode : '0'.toNat + (c.toNat - '0'.toNat) = c.toNat := by
    change 48 + (c.toNat - 48) = _
    omega
  rw [Function.comp_apply, digitChar, hcode]
  exact Char.ofNat_toNat c

end Digits

theorem ofDigits_append (cs ds : List Char) :
    ofDigits (cs ++ ds) = ofDigits cs * 10 ^ ds.length + ofDigits ds := by
  have hfold : ∀ k, ds.foldl (fun n c => 10 * n + digitValue c) k =
      k * 10 ^ ds.length + ofDigits ds := by
    unfold ofDigits
    induction ds with
    | nil => simp
    | cons c ds ih =>
      intro k
      rw [List.foldl_cons, List.foldl_cons, ih (10 * k + _), ih (10 * 0 + _), List.length_cons,
        pow_succ]
      ring
  rw [ofDigits, List.foldl_append]
  exact hfold _

theorem ofDigits_replicate_zero (k : ℕ) : ofDigits (List.replicate k '0') = 0 := by
  induction k with
  | zero => rfl
  | succ k ih =>
    rw [List.replicate_succ', ofDigits_append, ih]
    rfl

namespace Digits

/-- The digits of a number are those without the zeros at the end, and these zeros. -/
theorem exists_dropTrailingZeros (digits : List ℕ) :
    ∃ zeros, digits = dropTrailingZeros digits ++ List.replicate zeros 0 := by
  have hzeros : digits.reverse.takeWhile (· == 0) =
      List.replicate (digits.reverse.takeWhile (· == 0)).length 0 :=
    List.eq_replicate_of_mem fun d hd => by simpa using List.mem_takeWhile_imp hd
  refine ⟨(digits.reverse.takeWhile (· == 0)).length, ?_⟩
  rw [← List.reverse_inj, List.reverse_append, List.reverse_replicate, ← hzeros, dropTrailingZeros,
    List.reverse_reverse, List.takeWhile_append_dropWhile]

/-- **Shortest digits.** The digits that are written for a positive double are a number nearest to
it. -/
theorem shortest_spec (hc : Canonical b.mantissa b.exponent) :
    (∀ c ∈ (shortest b).chars, c.isDigit) ∧ 0 < ofDigits (shortest b).chars ∧
      IsNearest b.mantissa b.exponent (ofDigits (shortest b).chars *
        10 ^ ((shortest b).exponent + 1 - (shortest b).chars.length) / 2 ^ b.exponent) := by
  have hnear := isNearest_of_holds hc (holds_search hc)
  unfold shortest
  dsimp only
  generalize search (interval b) _ _ 17 1 = found at hnear
  obtain ⟨n, shift⟩ := found
  obtain ⟨zeros, hdigits⟩ := exists_dropTrailingZeros (ofNat n)
  generalize hkeep : dropTrailingZeros (ofNat n) = keep at hdigits
  have hchars : Nat.toDigits 10 n = keep.map digitChar ++ List.replicate zeros '0' := by
    rw [← map_digitChar_ofNat, hdigits, List.map_append, List.map_replicate]
    rfl
  have hn : n = ofDigits (keep.map digitChar) * 10 ^ zeros := by
    conv_lhs => rw [← ofDigits_toDigits n, hchars, ofDigits_append, ofDigits_replicate_zero]
    rw [List.length_replicate, Nat.add_zero]
  have hvalue : (ofDigits (keep.map digitChar) : ℚ) *
      10 ^ (shift + (ofNat n).length - 1 + 1 - (keep.map digitChar).length) = n * 10 ^ shift := by
    have hexponent : shift + ((ofNat n).length : ℤ) - 1 + 1 - ((keep.map digitChar).length : ℤ) =
        zeros + shift := by
      rw [hdigits, List.length_append, List.length_replicate, List.length_map]
      push_cast
      ring
    rw [hexponent, zpow_add₀ (by norm_num), zpow_natCast, ← mul_assoc]
    conv_rhs => rw [hn]
    push_cast
    ring
  refine ⟨fun c hc => ?_, ?_, ?_⟩
  · exact isDigit_of_mem_toDigits (hchars ▸ List.mem_append_left _ hc)
  · refine Nat.pos_of_ne_zero fun hzero => ?_
    change ofDigits (keep.map digitChar) = 0 at hzero
    have hhalf := hnear.half_le hc
    rw [hzero, Nat.zero_mul] at hn
    rw [hn] at hhalf
    norm_num at hhalf
  · dsimp only [chars]
    rwa [hvalue]

end Digits

end JsonPath.Number

import JsonPath.Proofs.Number.Rounding

/-!
# Doubles and their bits

A finite double is given by its sign, mantissa and exponent in canonical form, and by the bits that
hold them. What a double is taken apart into gives the double back, and only the sign changes when
it is negated.

* `Binary64.toFloat_of_ofFloat?` — a double that is taken apart is put together again.
* `Binary64.neg_toFloat` — the negative has the other sign and nothing else is different.
* `Binary64.floatOfDecimal_eq` — a decimal nearest to a double is read as that double.
-/

namespace JsonPath.Number

open Float.Model Float.Model.UnpackedFloat

/-! ## Fields of the bits -/

theorem toNat_unpackMantissa (b : BitVec Format.binary64.numBits) :
    (unpackMantissa b).toNat = b.toNat % 2 ^ 52 := by
  simp [unpackMantissa, BitVec.extractLsb]

theorem toNat_unpackExponent (b : BitVec Format.binary64.numBits) :
    (unpackExponent b).toNat = b.toNat / 2 ^ 52 % 2 ^ 11 := by
  simp [unpackExponent, BitVec.extractLsb, Nat.shiftRight_eq_div_pow]

theorem toNat_unpackSign (b : BitVec Format.binary64.numBits) :
    (unpackSign b).toNat = b.toNat / 2 ^ 63 := by
  have hlt : b.toNat < 2 ^ 64 := b.isLt
  simp [unpackSign, BitVec.extractLsb, Nat.shiftRight_eq_div_pow]
  omega

theorem toNat_packComponents (s : Sign) (e : BitVec 11) (m : BitVec 52) :
    (packComponents Format.binary64 s e m).toNat =
      s.toBitVec.toNat * 2 ^ 63 + e.toNat * 2 ^ 52 + m.toNat := by
  have hm := m.isLt
  have he := e.isLt
  simp only [packComponents, BitVec.toNat_append]
  rw [← Nat.shiftLeft_add_eq_or_of_lt hm, ← Nat.shiftLeft_add_eq_or_of_lt he]
  simp only [Nat.shiftLeft_eq]
  omega

/-! ## Doubles from their parts -/

namespace Binary64

/-- The form that finite doubles have. -/
def IsValid (b : Binary64) : Prop :=
  b.mantissa = 0 ∧ b.exponent = -1074 ∨ Canonical b.mantissa b.exponent

def sign (b : Binary64) : Sign := if b.negative then .negative else .positive

def unpacked (b : Binary64) : UnpackedFloat :=
  if h : b.mantissa = 0 then .zero b.sign
  else .finite b.sign b.mantissa b.exponent (Nat.pos_of_ne_zero h)

theorem unpacked_of_eq_zero {b : Binary64} (h : b.mantissa = 0) : b.unpacked = .zero b.sign :=
  dif_pos h

theorem unpacked_of_pos {b : Binary64} (h : 0 < b.mantissa) :
    b.unpacked = .finite b.sign b.mantissa b.exponent h :=
  dif_neg h.ne'

/-- The double of a sign, a mantissa and an exponent. -/
def toFloat (b : Binary64) : Float := Float.ofModel (Float.Model.pack b.unpacked)

/-- The bits of the double as a number. -/
def bits (b : Binary64) : ℕ :=
  (if b.negative then 2 ^ 63 else 0) +
    if b.mantissa < 2 ^ 52 then b.mantissa
    else (b.exponent + 1075).toNat * 2 ^ 52 + (b.mantissa - 2 ^ 52)

variable {b : Binary64} {x : Float}

theorem toNat_sign (b : Binary64) : b.sign.toBitVec.toNat = if b.negative then 1 else 0 := by
  unfold sign
  split <;> rfl

/-- How a double is taken apart, in terms of its bits. -/
theorem ofFloat?_eq (x : Float) : ofFloat? x =
    if x.toBits.toNat / 2 ^ 52 % 2 ^ 11 = 2047 then none
    else if x.toBits.toNat / 2 ^ 52 % 2 ^ 11 = 0 then
      some ⟨decide (2 ^ 63 ≤ x.toBits.toNat), x.toBits.toNat % 2 ^ 52, -1074⟩
    else
      some ⟨decide (2 ^ 63 ≤ x.toBits.toNat), 2 ^ 52 + x.toBits.toNat % 2 ^ 52,
        (x.toBits.toNat / 2 ^ 52 % 2 ^ 11 : ℕ) - 1075⟩ := rfl

/-- The fields of the bits: the sign, the biased exponent, which is zero for short mantissas, and
what the mantissa has beside its first bit. -/
theorem IsValid.bits_fields (hb : b.IsValid) :
    (b.bits / 2 ^ 63 = if b.negative then 1 else 0) ∧
      (b.bits / 2 ^ 52 % 2 ^ 11 =
        if b.mantissa < 2 ^ 52 then 0 else (b.exponent + 1075).toNat) ∧
      b.bits % 2 ^ 52 = if b.mantissa < 2 ^ 52 then b.mantissa else b.mantissa - 2 ^ 52 := by
  have hlt : b.mantissa < 2 ^ 53 ∧ b.exponent ≤ 971 := by
    rcases hb with ⟨hm, he⟩ | hc
    · omega
    · exact ⟨hc.lt, hc.exponent_le⟩
  unfold bits
  generalize hs : (if b.negative then 2 ^ 63 else 0) = s
  have hs' : s = (if b.negative then 1 else 0) * 2 ^ 63 := by
    rw [← hs]
    split <;> rfl
  have hbit : (if b.negative then 1 else 0) ≤ 1 := by split <;> decide
  split <;> refine ⟨?_, ?_, ?_⟩ <;> omega

theorem isValid_of_ofFloat? (h : ofFloat? x = some b) : b.IsValid := by
  have hfraction := Nat.mod_lt x.toBits.toNat (show 0 < 2 ^ 52 by decide)
  rw [ofFloat?_eq] at h
  split at h
  · contradiction
  · split at h <;> obtain rfl := Option.some.inj h
    · rcases Nat.eq_zero_or_pos (x.toBits.toNat % 2 ^ 52) with hzero | hpos
      · exact .inl ⟨hzero, rfl⟩
      · exact .inr ⟨hpos, by dsimp only; omega, le_rfl, by norm_num, .inr rfl⟩
    · right
      constructor <;> dsimp only <;> omega

theorem toBits_of_ofFloat? (h : ofFloat? x = some b) : x.toBits.toNat = b.bits := by
  have hlt := x.toBits.toNat_lt
  have hfraction := Nat.mod_lt x.toBits.toNat (show 0 < 2 ^ 52 by decide)
  rw [ofFloat?_eq] at h
  split at h
  · contradiction
  · split at h <;> obtain rfl := Option.some.inj h <;> simp only [bits, decide_eq_true_eq]
    · rw [if_pos hfraction]
      split <;> omega
    · rw [if_neg (Nat.not_lt.2 (Nat.le_add_right _ _))]
      split <;> omega

/-- A finite double has a biased exponent, or none if its mantissa is short. -/
theorem pack_finite {s : Sign} {m : ℕ} {e : ℤ} {hm : 0 < m} (he : e ≤ 971) :
    UnpackedFloat.pack .binary64 (.finite s m e hm) =
      if m.log2 + 1 = 53 then packComponents .binary64 s (.ofNat 11 (e + 1075).toNat) (.ofNat 52 m)
      else packComponents .binary64 s (.ofNat 11 0) (.ofNat 52 m) := by
  have hbias : e + (Format.binary64.exponentBias : ℤ) +
      (Format.binary64.mantissaBitsWithoutImplicit : ℤ) = e + 1075 := by
    change e + 1023 + 52 = _
    omega
  have hfinite : ¬ 2 ^ Format.binary64.exponentBits ≤ (e + 1075).toNat + 1 := by
    change ¬ 2048 ≤ _
    omega
  simp only [UnpackedFloat.pack, hbias, if_neg hfinite]
  rfl

theorem toBits_toFloat (hb : b.IsValid) : b.toFloat.toBits.toNat = b.bits := by
  change (UnpackedFloat.pack .binary64 b.unpacked).toNat = b.bits
  have hsign : b.sign.toBitVec.toNat * 2 ^ 63 = if b.negative then 2 ^ 63 else 0 := by
    rw [toNat_sign]
    split <;> rfl
  rcases hb with ⟨hm, -⟩ | hc
  · rw [unpacked_of_eq_zero hm, UnpackedFloat.pack, packedZero, toNat_packComponents, hsign]
    simp [bits, hm]
  · have hlo := hc.le
    have hhi := hc.exponent_le
    have hlt := hc.lt
    rw [unpacked_of_pos hc.pos, pack_finite hhi]
    by_cases hnormal : 2 ^ 52 ≤ b.mantissa
    · have hlog : b.mantissa.log2 + 1 = 53 := by
        have := (Nat.log2_lt hc.pos.ne').2 hc.lt
        have := (Nat.le_log2 hc.pos.ne').2 hnormal
        omega
      rw [if_pos hlog, toNat_packComponents, hsign, bits, if_neg (Nat.not_lt.2 hnormal),
        BitVec.toNat_ofNat, BitVec.toNat_ofNat]
      omega
    · have hlog : ¬ b.mantissa.log2 + 1 = 53 := by
        have := (Nat.log2_lt hc.pos.ne').2 (Nat.not_le.1 hnormal)
        omega
      rw [if_neg hlog, toNat_packComponents, hsign, bits, if_pos (Nat.not_le.1 hnormal),
        BitVec.toNat_ofNat, BitVec.toNat_ofNat]
      omega

theorem eq_of_toBits_eq {x y : Float} (h : x.toBits.toNat = y.toBits.toNat) : x = y := by
  obtain ⟨⟨xbits, hx⟩⟩ := x
  obtain ⟨⟨ybits, hy⟩⟩ := y
  obtain rfl : xbits = ybits := UInt64.toNat_inj.1 h
  rfl

/-- A double is put together again from its parts. -/
theorem toFloat_of_ofFloat? (h : ofFloat? x = some b) : b.toFloat = x :=
  eq_of_toBits_eq ((toBits_toFloat (isValid_of_ofFloat? h)).trans (toBits_of_ofFloat? h).symm)

section Unpack

variable {v : BitVec Format.binary64.numBits}

theorem ofBitVec_unpackSign (hb : b.IsValid) (hv : v.toNat = b.bits) :
    Sign.ofBitVec (unpackSign v) = b.sign := by
  have hsign := toNat_unpackSign v
  rw [hv, hb.bits_fields.1] at hsign
  cases hneg : b.negative <;> simp only [hneg, Bool.false_eq_true, if_false, if_true] at hsign
  · have hzero : unpackSign v = 0#1 := BitVec.eq_of_toNat_eq hsign
    simp [Sign.ofBitVec, hzero, sign, hneg]
  · have hone : unpackSign v = 1#1 := BitVec.eq_of_toNat_eq hsign
    simp [Sign.ofBitVec, hone, sign, hneg]

/-- The bits of a finite double are not those of an infinity. -/
theorem unpackExponent_ne_ones (hc : Canonical b.mantissa b.exponent) (hv : v.toNat = b.bits) :
    unpackExponent v ≠ -1#_ := by
  obtain ⟨-, hexponent, -⟩ := IsValid.bits_fields (.inr hc)
  rw [← hv, ← toNat_unpackExponent] at hexponent
  have hlo := hc.le
  have hhi := hc.exponent_le
  intro h
  rw [h] at hexponent
  change 2047 = _ at hexponent
  split at hexponent <;> omega

theorem unpack_of_short (hc : Canonical b.mantissa b.exponent) (hv : v.toNat = b.bits)
    (hshort : b.mantissa < 2 ^ 52) :
    UnpackedFloat.unpack .binary64 v = .finite b.sign b.mantissa b.exponent hc.pos := by
  obtain ⟨-, hexponent, hfraction⟩ := IsValid.bits_fields (.inr hc)
  rw [← hv, ← toNat_unpackExponent, if_pos hshort] at hexponent
  rw [← hv, ← toNat_unpackMantissa, if_pos hshort] at hfraction
  have hzero : unpackExponent v = 0#_ := BitVec.eq_of_toNat_eq hexponent
  have hmantissa : unpackMantissa v ≠ 0#_ := by
    intro h
    rw [h] at hfraction
    exact hc.pos.ne hfraction
  have he : b.exponent = -1074 := hc.normal.resolve_left (Nat.not_le.2 hshort)
  unfold UnpackedFloat.unpack
  simp only [if_neg (unpackExponent_ne_ones hc hv), ofBitVec_unpackSign (.inr hc) hv]
  rw [if_pos hzero, dif_neg hmantissa]
  simp only [UnpackedFloat.finite.injEq, hfraction, true_and, hexponent, he]
  rfl

/-- The first bit of a long mantissa is put back. -/
theorem unpack_of_long (hc : Canonical b.mantissa b.exponent) (hv : v.toNat = b.bits)
    (hlong : ¬ b.mantissa < 2 ^ 52) :
    UnpackedFloat.unpack .binary64 v = .finite b.sign b.mantissa b.exponent hc.pos := by
  obtain ⟨-, hexponent, hfraction⟩ := IsValid.bits_fields (.inr hc)
  rw [← hv, ← toNat_unpackExponent, if_neg hlong] at hexponent
  rw [← hv, ← toNat_unpackMantissa, if_neg hlong] at hfraction
  have hlo := hc.le
  have hzero : unpackExponent v ≠ 0#_ := by
    intro h
    rw [h] at hexponent
    change 0 = _ at hexponent
    omega
  have hm : (1#1 ++ unpackMantissa v).toNat = b.mantissa := by
    have hlast := hc.lt
    have hfirst : (1#1).toNat <<< Format.binary64.mantissaBitsWithoutImplicit = 2 ^ 52 := by
      decide
    rw [BitVec.toNat_append, ← Nat.shiftLeft_add_eq_or_of_lt (unpackMantissa v).isLt, hfirst,
      hfraction]
    omega
  have he : ((unpackExponent v).toNat : ℤ) - (Format.binary64.exponentBias +
      Format.binary64.mantissaBitsWithoutImplicit : ℤ) = b.exponent := by
    rw [hexponent]
    change ((b.exponent + 1075).toNat : ℤ) - (1023 + 52) = b.exponent
    omega
  unfold UnpackedFloat.unpack
  simp only [if_neg (unpackExponent_ne_ones hc hv), ofBitVec_unpackSign (.inr hc) hv]
  rw [if_neg hzero]
  simp only [UnpackedFloat.finite.injEq, true_and]
  exact ⟨hm, he⟩

/-- A double that is not zero is unpacked from its bits. -/
theorem unpack_of_canonical (hc : Canonical b.mantissa b.exponent) (hv : v.toNat = b.bits) :
    UnpackedFloat.unpack .binary64 v = .finite b.sign b.mantissa b.exponent hc.pos := by
  by_cases hshort : b.mantissa < 2 ^ 52
  · exact unpack_of_short hc hv hshort
  · exact unpack_of_long hc hv hshort

theorem unpack_of_zero (hm : b.mantissa = 0) (he : b.exponent = -1074) (hv : v.toNat = b.bits) :
    UnpackedFloat.unpack .binary64 v = .zero b.sign := by
  obtain ⟨-, hexponent, hfraction⟩ := IsValid.bits_fields (.inl ⟨hm, he⟩)
  rw [← hv, ← toNat_unpackExponent, hm, if_pos (by decide)] at hexponent
  rw [← hv, ← toNat_unpackMantissa, hm, if_pos (by decide)] at hfraction
  have hzero : unpackExponent v = 0#_ := BitVec.eq_of_toNat_eq hexponent
  have hmantissa : unpackMantissa v = 0#_ := BitVec.eq_of_toNat_eq hfraction
  have hones : BitVec.ofNat Format.binary64.exponentBits 0 ≠ -1#_ := by decide
  unfold UnpackedFloat.unpack
  simp only [hzero, if_neg hones, if_true, dif_pos hmantissa,
    ofBitVec_unpackSign (.inl ⟨hm, he⟩) hv]

end Unpack

theorem unpack_toFloat (hb : b.IsValid) : b.toFloat.toModel.unpack = b.unpacked := by
  have hv := toBits_toFloat hb
  rcases hb with ⟨hm, he⟩ | hc
  · rw [unpacked_of_eq_zero hm]
    exact unpack_of_zero hm he hv
  · rw [unpacked_of_pos hc.pos]
    exact unpack_of_canonical hc hv

/-- The same magnitude with the other sign. -/
def neg (b : Binary64) : Binary64 := { b with negative := !b.negative }

theorem IsValid.neg (hb : b.IsValid) : b.neg.IsValid := hb

theorem unpacked_neg (b : Binary64) : b.neg.unpacked = b.unpacked.neg := by
  have hsign : b.neg.sign = -b.sign := by
    obtain ⟨negative, m, e⟩ := b
    cases negative <;> rfl
  rcases Nat.eq_zero_or_pos b.mantissa with h | h
  · rw [unpacked_of_eq_zero h, unpacked_of_eq_zero (show b.neg.mantissa = 0 from h), hsign]
    rfl
  · rw [unpacked_of_pos h, unpacked_of_pos (show 0 < b.neg.mantissa from h), hsign]
    rfl

theorem neg_neg (b : Binary64) : b.neg.neg = b := by
  obtain ⟨negative, m, e⟩ := b
  simp [neg]

/-- Negation changes the sign and nothing else. -/
theorem neg_toFloat (hb : b.IsValid) : -b.toFloat = b.neg.toFloat := by
  change Float.ofModel (Float.Model.pack b.toFloat.toModel.unpack.neg) = _
  rw [unpack_toFloat hb, ← unpacked_neg]
  rfl

/-- Negating a finite double twice gives it back. -/
theorem neg_neg_of_ofFloat? (h : ofFloat? x = some b) : - -x = x := by
  have hb := isValid_of_ofFloat? h
  rw [← toFloat_of_ofFloat? h, neg_toFloat hb, neg_toFloat hb.neg, neg_neg]

/-! ## Reading decimals -/

/-- A decimal that lies nearest to a double is read as that double. -/
theorem floatOfDecimal_eq (hc : Canonical b.mantissa b.exponent) (hpositive : b.negative = false)
    {n : ℕ} {k : ℤ} {z : ℚ} (hn : 0 < n) (hz : z * 2 ^ b.exponent = n * 10 ^ k)
    (hnear : IsNearest b.mantissa b.exponent z) : floatOfDecimal n k = b.toFloat := by
  have hsign : b.sign = .positive := by simp [sign, hpositive]
  rw [toFloat, unpacked_of_pos hc.pos, hsign, ← ofScientific_of_isNearest hc hn hz hnear]
  rfl

theorem floatOfDecimal_zero (k : ℤ) : floatOfDecimal 0 k = toFloat ⟨false, 0, -1074⟩ := rfl

end Binary64

end JsonPath.Number

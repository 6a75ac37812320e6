import JsonPath.Proofs.Number.Packing
import JsonPath.Proofs.Number.Shortest

/-!
# Doubles in decimal notation

The shortest digits of a double can be written in several notations: with zeros before them, with
zeros after them, with a point among them, or with an exponent. Each has the value of the digits,
and so it is read as the double.

* `Digits.Writes` — digits before and after a point and an exponent have the value of some digits.
* `floatOfNotation_of_writes` — what has the value of the shortest digits reads as the double.
-/

namespace JsonPath.Number

namespace Digits

/-- Whether digits before and after a point, with an exponent, have the value of a decimal. -/
structure Writes (d : Digits) (whole places : List Char) (e : ℤ) : Prop where
  whole_ne_nil : whole ≠ []
  whole_digits : ∀ c ∈ whole, c.isDigit
  places_digits : ∀ c ∈ places, c.isDigit
  /-- Zeros at the end shift the point. -/
  value : ∃ zeros : ℕ, ofDigits (whole ++ places) = ofDigits d.chars * 10 ^ zeros ∧
    e - places.length + zeros = d.exponent + 1 - d.chars.length

variable {d : Digits}

theorem length_chars (d : Digits) : d.chars.length = d.digits.length := List.length_map ..

theorem isDigit_replicate_zero {k : ℕ} : ∀ c ∈ List.replicate k '0', c.isDigit := by
  intro c hc
  rw [List.eq_of_mem_replicate hc]
  rfl

/-- Digits below one are written with zeros between the point and the digits. -/
theorem writes_below_one (hdigits : ∀ c ∈ d.chars, c.isDigit) (he : d.exponent < 0) :
    d.Writes ['0'] (List.replicate (-d.exponent - 1).toNat '0' ++ d.chars) 0 where
  whole_ne_nil := by simp
  whole_digits := by simp
  places_digits := List.forall_mem_append.2 ⟨isDigit_replicate_zero, hdigits⟩
  value := by
    refine ⟨0, ?_, ?_⟩
    · rw [← List.append_assoc, ofDigits_append, show ['0'] = List.replicate 1 '0' from rfl,
        List.replicate_append_replicate, ofDigits_replicate_zero]
      simp
    · rw [List.length_append, List.length_replicate]
      push_cast
      omega

/-- The digits of a whole number are written with zeros between the digits and the point. -/
theorem writes_whole (hdigits : ∀ c ∈ d.chars, c.isDigit) (hne : d.chars ≠ [])
    (he : ¬ d.exponent < 0) (hle : d.digits.length ≤ d.exponent.toNat + 1) :
    d.Writes (d.chars ++ List.replicate (d.exponent.toNat + 1 - d.digits.length) '0') ['0'] 0 where
  whole_ne_nil := by simp [hne]
  whole_digits := List.forall_mem_append.2 ⟨hdigits, isDigit_replicate_zero⟩
  places_digits := by simp
  value := by
    refine ⟨d.exponent.toNat + 1 - d.digits.length + 1, ?_, ?_⟩
    · rw [List.append_assoc, show ['0'] = List.replicate 1 '0' from rfl,
        List.replicate_append_replicate, ofDigits_append, ofDigits_replicate_zero,
        List.length_replicate, Nat.add_zero]
    · rw [List.length_singleton, length_chars]
      push_cast
      omega

/-- Digits on both sides of the point are written with the point among them. -/
theorem writes_split (hdigits : ∀ c ∈ d.chars, c.isDigit) (hne : d.chars ≠ [])
    (he : ¬ d.exponent < 0) (hlt : d.exponent.toNat + 1 < d.digits.length) :
    d.Writes (d.chars.take (d.exponent.toNat + 1)) (d.chars.drop (d.exponent.toNat + 1)) 0 where
  whole_ne_nil := by simp [hne]
  whole_digits := fun c hc => hdigits c (List.mem_of_mem_take hc)
  places_digits := fun c hc => hdigits c (List.mem_of_mem_drop hc)
  value := by
    refine ⟨0, ?_, ?_⟩
    · rw [List.take_append_drop, pow_zero, Nat.mul_one]
    · rw [List.length_drop, length_chars]
      push_cast
      omega

/-- The digits in positional notation, with at least one after the point. -/
theorem writes_positional (hdigits : ∀ c ∈ d.chars, c.isDigit) (hne : d.chars ≠ []) :
    d.Writes (d.positional.1.map digitChar)
      ((if d.positional.2.isEmpty then [0] else d.positional.2).map digitChar) 0 := by
  have hdigitsNe : d.digits ≠ [] := by simpa [chars] using hne
  have hzero : digitChar 0 = '0' := rfl
  by_cases hbelow : d.exponent < 0
  · simpa [positional, hbelow, hdigitsNe, hzero, chars] using writes_below_one hdigits hbelow
  · rcases le_or_gt d.digits.length (d.exponent.toNat + 1) with hle | hgt
    · simpa [positional, hbelow, hle, List.take_of_length_le hle, hzero, chars] using
        writes_whole hdigits hne hbelow hle
    · have hnone : d.exponent.toNat + 1 - d.digits.length = 0 := by omega
      simpa [positional, hbelow, Nat.not_le.2 hgt, hnone, chars, List.map_take, List.map_drop] using
        writes_split hdigits hne hbelow hgt

/-- Any digits can be written with one of them before the point, and an exponent. -/
theorem writes_scientific (hdigits : ∀ c ∈ d.chars, c.isDigit) (hne : d.chars ≠ []) :
    d.Writes (d.chars.take 1) (d.chars.drop 1) d.exponent where
  whole_ne_nil := by simp [hne]
  whole_digits := fun c hc => hdigits c (List.mem_of_mem_take hc)
  places_digits := fun c hc => hdigits c (List.mem_of_mem_drop hc)
  value := by
    have hpos := List.length_pos_iff.2 hne
    refine ⟨0, ?_, ?_⟩
    · rw [List.take_append_drop, pow_zero, Nat.mul_one]
    · rw [List.length_drop]
      push_cast
      omega

end Digits

/-- What has the value of the shortest digits of a positive double reads as the double. -/
theorem floatOfNotation_of_writes {b : Binary64} (hb : Canonical b.mantissa b.exponent)
    (hpositive : b.negative = false) {whole places : List Char} {e : ℤ}
    (h : (Digits.shortest b).Writes whole places e) :
    floatOfNotation whole places e = b.toFloat := by
  obtain ⟨-, hpos, hnear⟩ := Digits.shortest_spec hb
  obtain ⟨zeros, hn, hk⟩ := h.value
  refine Binary64.floatOfDecimal_eq hb hpositive (by rw [hn]; positivity) ?_ hnear
  rw [div_mul_cancel₀ _ (by positivity), ← hk, zpow_add₀ (by norm_num), hn]
  push_cast
  rw [zpow_natCast]
  ring

end JsonPath.Number

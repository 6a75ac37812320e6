import Mathlib
import JsonPath.Text.Escape

/-!
# Characters by their codes

An escape by code is four hexadecimal digits, of either case, for each code of a character. Up to
U+FFFF the code is that of the character, and beyond there are the codes of two surrogates, between
which `\u` stands once more. No character is a surrogate, so the first code tells which of the two
it is.

* `IsHexQuad`, `IsCode` — how numbers and characters are written by digits.
* `hexQuad?_eq_some_iff` — four characters are read as a number just if they are its digits.
* `codeEscape?_of_isCode`, `isCode_of_codeEscape?` — a character is read just from its codes.
-/

namespace JsonPath.Text

variable {a b d e a' b' d' e' : Char} {n high low : Nat} {cs : List Char}

/-! ## Digits -/

/-- Whether a character is the hexadecimal digit of a value, in lower or upper case. -/
def IsHexDigit (v : Nat) (c : Char) : Prop := v < 16 ∧ (c = hexDigit v ∨ c = (hexDigit v).toUpper)

instance (v : Nat) (c : Char) : Decidable (IsHexDigit v c) := inferInstanceAs (Decidable (_ ∧ _))

theorem hexValue?_eq_some_iff {c : Char} {v : Nat} : hexValue? c = some v ↔ IsHexDigit v c := by
  have hvalue : ∀ k : Fin 16, hexValue? (hexDigit k) = some k.val ∧
      hexValue? (hexDigit k).toUpper = some k.val := by decide
  have hcode : ∀ k : Fin 16,
      (hexDigit k).toNat = (if k.val < 10 then 48 + k.val else 87 + k.val) ∧
        (hexDigit k).toUpper.toNat = (if k.val < 10 then 48 + k.val else 55 + k.val) := by decide
  constructor
  · intro h
    have hv : v < 16 ∧ (c.toNat = (if v < 10 then 48 + v else 87 + v) ∨
        c.toNat = (if v < 10 then 48 + v else 55 + v)) := by
      unfold hexValue? at h
      dsimp only at h
      split_ifs at h with hdigit hupper hlower
      all_goals
        have := Option.some.inj h
        refine ⟨by omega, ?_⟩
        split_ifs <;> omega
    obtain ⟨hlower, hupper⟩ := hcode ⟨v, hv.1⟩
    refine ⟨hv.1, hv.2.imp (fun h => ?_) fun h => ?_⟩
    · exact Char.toNat_inj.1 (h.trans hlower.symm)
    · exact Char.toNat_inj.1 (h.trans hupper.symm)
  · rintro ⟨hv, rfl | rfl⟩
    · exact (hvalue ⟨v, hv⟩).1
    · exact (hvalue ⟨v, hv⟩).2

/-- Whether some characters are the four hexadecimal digits of a number. -/
inductive IsHexQuad (n : Nat) : List Char → Prop where
  | mk {a b c d : Char} (ha : IsHexDigit (n / 4096) a) (hb : IsHexDigit (n / 256 % 16) b)
    (hc : IsHexDigit (n / 16 % 16) c) (hd : IsHexDigit (n % 16) d) : IsHexQuad n [a, b, c, d]

theorem hexQuad?_eq_some_iff : hexQuad? a b d e = some n ↔ IsHexQuad n [a, b, d, e] := by
  simp only [hexQuad?, Option.bind_eq_bind, Option.bind_eq_some_iff, Option.pure_def,
    Option.some.injEq, hexValue?_eq_some_iff]
  constructor
  · rintro ⟨p, hp, q, hq, r, hr, s, hs, rfl⟩
    have := hp.1
    have := hq.1
    have := hr.1
    have := hs.1
    refine .mk ?_ ?_ ?_ ?_
    · rwa [show (((p * 16 + q) * 16 + r) * 16 + s) / 4096 = p by omega]
    · rwa [show (((p * 16 + q) * 16 + r) * 16 + s) / 256 % 16 = q by omega]
    · rwa [show (((p * 16 + q) * 16 + r) * 16 + s) / 16 % 16 = r by omega]
    · rwa [show (((p * 16 + q) * 16 + r) * 16 + s) % 16 = s by omega]
  · rintro ⟨ha, hb, hc, hd⟩
    exact ⟨_, ha, _, hb, _, hc, _, hd, by omega⟩

theorem IsHexQuad.exists_hexQuad? (h : IsHexQuad n cs) :
    ∃ a b d e, cs = [a, b, d, e] ∧ hexQuad? a b d e = some n := by
  have hquad := h
  cases h with
  | mk => exact ⟨_, _, _, _, rfl, hexQuad?_eq_some_iff.2 hquad⟩

theorem IsHexQuad.lt (h : IsHexQuad n cs) : n < 0x10000 := by
  obtain ⟨ha, -⟩ := h
  have := ha.1
  omega

/-! ## Surrogates -/

theorem isHighSurrogate_iff : isHighSurrogate n ↔ 0xD800 ≤ n ∧ n < 0xDC00 := by
  simp [isHighSurrogate]

theorem isLowSurrogate_iff : isLowSurrogate n ↔ 0xDC00 ≤ n ∧ n < 0xE000 := by
  simp [isLowSurrogate]

/-- No character is a surrogate. -/
theorem toNat_cases (c : Char) : c.toNat < 0xD800 ∨ 0xE000 ≤ c.toNat ∧ c.toNat < 0x110000 := by
  have hvalid : c.toNat < 0xD800 ∨ 0xDFFF < c.toNat ∧ c.toNat < 0x110000 := c.valid
  omega

/-- Every other number up to U+10FFFF is a character. -/
theorem toNat_ofNat (hn : n < 0xD800 ∨ 0xE000 ≤ n ∧ n < 0x110000) : (Char.ofNat n).toNat = n := by
  rw [Char.toNat_ofNat, if_pos]
  unfold Nat.isValidChar
  omega

/-- The first of the two surrogates that write a character beyond U+FFFF. -/
def highSurrogate (c : Char) : Nat := 0xD800 + (c.toNat - 0x10000) / 0x400

/-- The second one. -/
def lowSurrogate (c : Char) : Nat := 0xDC00 + (c.toNat - 0x10000) % 0x400

theorem join_surrogates {c : Char} (hc : 0x10000 ≤ c.toNat) :
    isHighSurrogate (highSurrogate c) ∧ isLowSurrogate (lowSurrogate c) ∧
      joinSurrogates (highSurrogate c) (lowSurrogate c) = c.toNat := by
  have hcases := toNat_cases c
  rw [isHighSurrogate_iff, isLowSurrogate_iff]
  unfold joinSurrogates highSurrogate lowSurrogate
  omega

/-- Any two surrogates are those of a character. -/
theorem surrogates_join (hhigh : isHighSurrogate high) (hlow : isLowSurrogate low) :
    0x10000 ≤ (Char.ofNat (joinSurrogates high low)).toNat ∧
      highSurrogate (Char.ofNat (joinSurrogates high low)) = high ∧
      lowSurrogate (Char.ofNat (joinSurrogates high low)) = low := by
  rw [isHighSurrogate_iff] at hhigh
  rw [isLowSurrogate_iff] at hlow
  unfold highSurrogate lowSurrogate
  rw [toNat_ofNat (by unfold joinSurrogates; omega)]
  unfold joinSurrogates
  omega

/-! ## Codes -/

/-- Whether some characters after `\u` are the code of a character, or the codes of its surrogates
with another `\u` between them. -/
inductive IsCode (c : Char) : List Char → Prop where
  | quad {cs : List Char} (h : IsHexQuad c.toNat cs) : IsCode c cs
  | pair {cs ds : List Char} (hc : 0x10000 ≤ c.toNat) (hhigh : IsHexQuad (highSurrogate c) cs)
    (hlow : IsHexQuad (lowSurrogate c) ds) : IsCode c (cs ++ '\\' :: 'u' :: ds)

/-- The code of a control character is two zeros and two hexadecimal digits. -/
theorem isCode_control {c : Char} (hc : c.toNat < 32) :
    IsCode c ['0', '0', hexDigit (c.toNat / 16), hexDigit (c.toNat % 16)] := by
  have hzero : ∀ v, v = 0 → IsHexDigit v '0' := by
    rintro _ rfl
    decide
  refine .quad (.mk (hzero _ (by omega)) (hzero _ (by omega)) ⟨by omega, .inl ?_⟩
    ⟨by omega, .inl rfl⟩)
  rw [Nat.mod_eq_of_lt (by omega)]

theorem codeEscape?_quad (hquad : hexQuad? a b d e = some n) (hhigh : isHighSurrogate n = false)
    (hlow : isLowSurrogate n = false) (rest : List Char) :
    codeEscape? (a :: b :: d :: e :: rest) = some (Char.ofNat n, 4) := by
  simp only [codeEscape?, hquad, Option.bind_eq_bind, Option.bind_some, hhigh, hlow,
    Bool.false_eq_true, if_false]

theorem codeEscape?_pair (hquad : hexQuad? a b d e = some high)
    (hquad' : hexQuad? a' b' d' e' = some low) (hhigh : isHighSurrogate high)
    (hlow : isLowSurrogate low) (rest : List Char) :
    codeEscape? (a :: b :: d :: e :: '\\' :: 'u' :: a' :: b' :: d' :: e' :: rest) =
      some (Char.ofNat (joinSurrogates high low), 10) := by
  simp only [codeEscape?, hquad, hquad', Option.bind_eq_bind, Option.bind_some, hhigh, hlow,
    if_true]

/-- A character is read from its codes, whatever comes after them. -/
theorem codeEscape?_of_isCode {c : Char} (h : IsCode c cs) (rest : List Char) :
    codeEscape? (cs ++ rest) = some (c, cs.length) := by
  cases h with
  | quad h =>
    obtain ⟨a, b, d, e, rfl, hquad⟩ := h.exists_hexQuad?
    have hcases := toNat_cases c
    have hhigh : isHighSurrogate c.toNat = false := by
      rw [← Bool.not_eq_true, isHighSurrogate_iff]
      omega
    have hlow : isLowSurrogate c.toNat = false := by
      rw [← Bool.not_eq_true, isLowSurrogate_iff]
      omega
    have hread := codeEscape?_quad hquad hhigh hlow rest
    rwa [Char.ofNat_toNat] at hread
  | pair hc hhigh hlow =>
    obtain ⟨a, b, d, e, rfl, hquad⟩ := hhigh.exists_hexQuad?
    obtain ⟨a', b', d', e', rfl, hquad'⟩ := hlow.exists_hexQuad?
    obtain ⟨hpair, hlowPair, hjoin⟩ := join_surrogates hc
    have hread := codeEscape?_pair hquad hquad' hpair hlowPair rest
    rwa [hjoin, Char.ofNat_toNat] at hread

/-- Whatever character is read, its codes are there. -/
theorem isCode_of_codeEscape? {c : Char} (h : codeEscape? cs = some (c, n)) :
    ∃ code rest, IsCode c code ∧ cs = code ++ rest ∧ n = code.length := by
  unfold codeEscape? at h
  split at h
  · rename_i a b d e rest
    obtain ⟨high, hhigh, h⟩ := Option.bind_eq_some_iff.1 h
    have hquad := hexQuad?_eq_some_iff.1 hhigh
    split at h
    · rename_i hpair
      split at h
      · rename_i a' b' d' e' tail _
        obtain ⟨low, hlow, h⟩ := Option.bind_eq_some_iff.1 h
        split at h
        · rename_i hlowPair
          obtain ⟨rfl, rfl⟩ := Prod.mk.inj (Option.some.inj h)
          obtain ⟨hle, hhighEq, hlowEq⟩ := surrogates_join hpair hlowPair
          exact ⟨_, tail, .pair hle (hhighEq.symm ▸ hquad)
            (hlowEq.symm ▸ hexQuad?_eq_some_iff.1 hlow), rfl, rfl⟩
        · contradiction
      · contradiction
    · rename_i hnotHigh
      split at h
      · contradiction
      · rename_i hnotLow
        obtain ⟨rfl, rfl⟩ := Prod.mk.inj (Option.some.inj h)
        rw [isHighSurrogate_iff] at hnotHigh
        rw [isLowSurrogate_iff] at hnotLow
        have hlt := hquad.lt
        refine ⟨[a, b, d, e], rest, .quad ?_, rfl, rfl⟩
        rwa [toNat_ofNat (by omega)]
  · contradiction

end JsonPath.Text

import JsonPath.Json.Compare
import JsonPath.Proofs.Number.Packing

/-!
# The order of doubles

Two doubles are compared through their unpacked forms, and the outcome is one of four: less, equal,
greater, or none, which there is just if one of them is not a number. Swapping the sides swaps the
outcome. A double that comes of rounding an integer is a number, so integers can be compared with
every double that is one.

* `compareFloat?_eq` — the tests for less, equal and greater are the parts of one comparison.
* `compareFloat?_swap`, `compareFloat?_eq_none_iff` — its two laws.
* `beq_comm`, `beq_trans`, `beq_self_iff` — equality of doubles.
* `isNaN_floatOfInt` — integers are rounded to numbers.
-/

namespace JsonPath.Number

open Float.Model Float.Model.UnpackedFloat

/-! ## Unpacked doubles -/

theorem unpacked_compare_swap (a b : UnpackedFloat) :
    b.compare a = (a.compare b).map Ordering.swap := by
  cases a with
  | notANumber => cases b <;> rfl
  | infinity s =>
    cases s <;> cases b with
    | infinity t => cases t <;> rfl
    | _ => rfl
  | zero s =>
    cases b with
    | infinity t | finite t => cases t <;> rfl
    | _ => rfl
  | finite s m e hm =>
    cases s <;> cases b with
    | infinity t | zero t => cases t <;> rfl
    | notANumber => rfl
    | finite t n f hn =>
      have hexponent := Int.compare_swap e f
      have hmantissa := Nat.compare_swap m n
      cases t <;> simp [UnpackedFloat.compare, Ordering.swap_then, hexponent, hmantissa]

theorem unpacked_compare_eq_none_iff (a b : UnpackedFloat) :
    a.compare b = none ↔ a.isNaN ∨ b.isNaN := by
  fun_cases UnpackedFloat.compare a b <;> simp [UnpackedFloat.isNaN]

theorem unpacked_compare_self {a : UnpackedFloat} (h : a.isNaN = false) :
    a.compare a = some .eq := by
  cases a with
  | notANumber => contradiction
  | infinity s => cases s <;> rfl
  | zero s => rfl
  | finite s m e hm => cases s <;> simp [UnpackedFloat.compare]

/-! ## Doubles -/

open Value (compareFloat?)

variable (x y : Float)

/-- The order of two doubles is the order of their unpacked forms. -/
theorem compareFloat?_eq : compareFloat? x y = x.toModel.unpack.compare y.toModel.unpack := by
  have hlt : x < y ↔ x.toModel.unpack.compare y.toModel.unpack = some .lt :=
    (decide_eq_true_iff (p := x.toModel < y.toModel)).trans beq_iff_eq
  have hgt : y < x ↔ x.toModel.unpack.compare y.toModel.unpack = some .gt := by
    refine ((decide_eq_true_iff (p := y.toModel < x.toModel)).trans beq_iff_eq).trans ?_
    rw [unpacked_compare_swap]
    cases x.toModel.unpack.compare y.toModel.unpack with
    | none => simp
    | some o => cases o <;> simp
  have heq : (x == y) = true ↔ x.toModel.unpack.compare y.toModel.unpack = some .eq := by
    show (x.toModel.unpack.compare y.toModel.unpack == some .eq) = true ↔ _
    exact beq_iff_eq
  rw [compareFloat?, if_congr hlt rfl rfl, if_congr heq rfl rfl, if_congr hgt rfl rfl]
  cases x.toModel.unpack.compare y.toModel.unpack with
  | none => rfl
  | some o => cases o <;> rfl

theorem compareFloat?_swap : compareFloat? y x = (compareFloat? x y).map Ordering.swap := by
  rw [compareFloat?_eq, compareFloat?_eq, unpacked_compare_swap]

theorem compareFloat?_eq_none_iff : compareFloat? x y = none ↔ x.isNaN ∨ y.isNaN := by
  rw [compareFloat?_eq]
  exact unpacked_compare_eq_none_iff _ _

/-- Doubles are equal if they compare so. -/
theorem beq_eq_compareFloat? : (x == y) = (compareFloat? x y == some .eq) := by
  rw [compareFloat?_eq]
  rfl

theorem beq_comm : (x == y) = (y == x) := by
  rw [beq_eq_compareFloat?, beq_eq_compareFloat?, compareFloat?_swap x y]
  cases compareFloat? x y with
  | none => rfl
  | some o => cases o <;> rfl

theorem beq_trans {x y z : Float} (h : (x == y) = true) (h' : (y == z) = true) :
    (x == z) = true := by
  have hxy := (beq_iff_ne_notANumber_and_eq _ _).1 h
  have hyz := (beq_iff_ne_notANumber_and_eq _ _).1 h'
  refine (beq_iff_ne_notANumber_and_eq _ _).2 ⟨hxy.1, hyz.2.1, ?_⟩
  grind

/-- Only what is not a number differs from itself. -/
theorem beq_self_iff : (x == x) = true ↔ x.isNaN = false := by
  rw [beq_eq_compareFloat?, beq_iff_eq]
  constructor
  · intro h
    have hnone := mt (compareFloat?_eq_none_iff x x).2 (by simp [h])
    simpa using hnone
  · intro h
    rw [compareFloat?_eq]
    exact unpacked_compare_self h

/-! ## Integers as doubles -/

/-- The exponent of what is not a number is the greatest, with a mantissa. -/
theorem packComponents_ne_packedNaN {s : Sign} {e : BitVec 11} {m : BitVec 52}
    (h : e.toNat < 2047 ∨ m = 0#52) : packComponents .binary64 s e m ≠ packedNaN .binary64 := by
  intro heq
  have hbits := congrArg BitVec.toNat heq
  have hnan : (packedNaN .binary64).toNat = 2047 * 2 ^ 52 + 2 ^ 51 := by decide
  have hsign : s.toBitVec.toNat ≤ 1 := by cases s <;> decide
  have hexponent := e.isLt
  have hmantissa := m.isLt
  rw [toNat_packComponents, hnan] at hbits
  rcases h with h | rfl
  · omega
  · rw [BitVec.toNat_zero] at hbits
    omega

/-- The double of an unpacked number is a number. -/
theorem isNaN_ofModel_pack {f : UnpackedFloat} (h : f.isNaN = false) :
    (Float.ofModel (Float.Model.pack f)).isNaN = false := by
  have hpack : UnpackedFloat.pack .binary64 f ≠ packedNaN .binary64 := by
    cases f with
    | notANumber => contradiction
    | infinity s => exact packComponents_ne_packedNaN (.inr rfl)
    | zero s => exact packComponents_ne_packedNaN (.inl (by decide))
    | finite s m e hm =>
      simp only [UnpackedFloat.pack]
      split
      · exact packComponents_ne_packedNaN (.inr rfl)
      · rename_i hfinite
        split
        · refine packComponents_ne_packedNaN (.inl ?_)
          rw [BitVec.toNat_ofNat]
          omega
        · exact packComponents_ne_packedNaN (.inl (by decide))
  rw [← Bool.not_eq_true]
  exact mt (isNaN_unpack_iff_of_valid (Float.Model.pack f).valid).1 hpack

/-- Rounding an integer gives a number. -/
theorem isNaN_floatOfInt (n : Int) : (floatOfInt n).isNaN = false := by
  refine isNaN_ofModel_pack ?_
  have hround (s : Sign) (m : ℕ) (e : ℤ) : (UnpackedFloat.round .binary64 s m e).isNaN = false := by
    unfold UnpackedFloat.round roundWithAccuracy
    dsimp only
    split <;> rfl
  unfold UnpackedFloat.ofInt UnpackedFloat.normalize
  split
  · exact hround _ _ _
  · rfl
  · exact hround _ _ _

end JsonPath.Number

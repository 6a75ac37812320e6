import JsonPath.Evaluation.Arithmetic
import JsonPath.Proofs.Number.Order

/-!
# Comparisons agree with each other

Equality and order are two functions with cases of their own: two integers are compared exactly, an
integer and a double as doubles, two strings by code points. Where values have an order, equality is
one of its three outcomes, so that a filter finds just one of `<`, `==` and `>` to hold. Where they
have none, no operator of the order holds.

* `Value.Comparable` — two numbers other than NaN, or two strings.
* `Value.compare?_eq_none_iff`, `Value.compare?_swap` — which values have an order, and its other
  direction.
* `Value.equivalent_eq_compare?` — equality is an outcome of the order.
* `Comparison.holds_consistent` — the six operators together.
-/

namespace JsonPath

namespace Value

/-- Whether a value is a number, and not NaN. -/
def IsProperNumber : Value → Prop
  | int _ => True
  | float x => x.isNaN = false
  | _ => False

/-- Whether two values have an order: both are numbers, or both are strings. -/
def Comparable (a b : Value) : Prop :=
  a.IsProperNumber ∧ b.IsProperNumber ∨ a.isString ∧ b.isString

variable {a b : Value}

/-- A comparison the other way has the opposite outcome. -/
theorem compare?_swap (a b : Value) : b.compare? a = (a.compare? b).map Ordering.swap := by
  cases a with
  | int m =>
    cases b with
    | int n => exact congrArg some (Std.OrientedOrd.eq_swap (a := n.toInt) (b := m.toInt))
    | float y => exact Number.compareFloat?_swap _ _
    | _ => rfl
  | float x =>
    cases b with
    | int n | float y => exact Number.compareFloat?_swap _ _
    | _ => rfl
  | string s =>
    cases b with
    | string t => exact congrArg some (Std.OrientedOrd.eq_swap (a := t) (b := s))
    | _ => rfl
  | null | bool | array | object => cases b <;> rfl

theorem isProperNumber_iff {x : Float} (h : a.asFloat? = some x) :
    a.IsProperNumber ↔ x.isNaN = false := by
  cases a with
  | int n =>
    obtain rfl := Option.some.inj h
    exact iff_of_true trivial (Number.isNaN_floatOfInt n.toInt)
  | float y =>
    obtain rfl := Option.some.inj h
    exact Iff.rfl
  | _ => contradiction

/-- Two numbers are comparable unless one of them is NaN as a double. -/
theorem not_comparable_iff {x y : Float} (ha : a.asFloat? = some x) (hb : b.asFloat? = some y) :
    ¬a.Comparable b ↔ x.isNaN ∨ y.isNaN := by
  have hstring : a.isString = false := by
    cases a with
    | string => contradiction
    | _ => rfl
  rw [Comparable, isProperNumber_iff ha, isProperNumber_iff hb, hstring]
  simp only [Bool.false_eq_true, false_and, or_false, not_and_or, Bool.not_eq_false]

/-- Just the values that are comparable have an order. -/
theorem compare?_eq_none_iff : a.compare? b = none ↔ ¬a.Comparable b := by
  cases a with
  | int m =>
    cases b with
    | int n => exact iff_of_false (by simp [compare?]) (not_not.2 (.inl ⟨trivial, trivial⟩))
    | float y =>
      exact (Number.compareFloat?_eq_none_iff _ _).trans (not_comparable_iff rfl rfl).symm
    | _ => simp [compare?, Comparable, IsProperNumber, isString]
  | float x =>
    cases b with
    | int n | float y =>
      exact (Number.compareFloat?_eq_none_iff _ _).trans (not_comparable_iff rfl rfl).symm
    | _ => simp [compare?, Comparable, IsProperNumber, isString]
  | null | bool | string | array | object =>
    cases b <;> simp [compare?, Comparable, IsProperNumber, isString]

theorem comparable_of_compare? {o : Ordering} (h : a.compare? b = some o) : a.Comparable b := by
  by_contra hnone
  rw [compare?_eq_none_iff.2 hnone] at h
  contradiction

/-- Equality that agrees with an order holds of what compares as equal. -/
theorem beq_eq_compare {α : Type} [DecidableEq α] [Ord α] [Std.LawfulEqOrd α] (x y : α) :
    (x == y) = (some (compare x y) == some .eq) := by
  rw [Bool.eq_iff_iff, beq_iff_eq, beq_iff_eq, Option.some.injEq, Std.compare_eq_iff_eq]

/-- Values that have an order are equivalent if it says that they are equal. -/
theorem equivalent_eq_compare? (h : a.Comparable b) :
    a.equivalent b = (a.compare? b == some .eq) := by
  cases a with
  | int m =>
    cases b with
    | int n =>
      have hint : (m == n) = (m.toInt == n.toInt) := by
        rw [Bool.eq_iff_iff, beq_iff_eq, beq_iff_eq, Int64.toInt_inj]
      exact hint.trans (beq_eq_compare m.toInt n.toInt)
    | float y => exact Number.beq_eq_compareFloat? _ _
    | _ => simp [Comparable, IsProperNumber, isString] at h
  | float x =>
    cases b with
    | int n | float y => exact Number.beq_eq_compareFloat? _ _
    | _ => simp [Comparable, IsProperNumber, isString] at h
  | string s =>
    cases b with
    | string t => exact beq_eq_compare s t
    | _ => simp [Comparable, IsProperNumber, isString] at h
  | null | bool | array | object => simp [Comparable, IsProperNumber, isString] at h

end Value

namespace Query.Comparison

/-- Whether a comparison holds of values in some order. -/
def admits : Comparison → Ordering → Bool
  | equal, o => o.isEq
  | notEqual, o => !o.isEq
  | less, o => o.isLT
  | lessEqual, o => o.isLE
  | greater, o => o.isGT
  | greaterEqual, o => o.isGE

variable {a b : Value}

/-- What a comparison says of two values follows from their order, if they have one. -/
theorem holds_of_compare? (op : Comparison) {o : Ordering} (h : a.compare? b = some o) :
    op.holds (some a) (some b) = op.admits o := by
  have hcomparable := Value.comparable_of_compare? h
  cases op <;> cases o <;> simp [holds, admits, Value.equivalent_eq_compare? hcomparable, h]

/-- In every order just one of three comparisons holds. -/
theorem existsUnique_admits (o : Ordering) :
    ∃! op, op ∈ [less, equal, greater] ∧ op.admits o = true := by
  cases o with
  | lt => exact ⟨less, by decide, fun op => by cases op <;> decide⟩
  | eq => exact ⟨equal, by decide, fun op => by cases op <;> decide⟩
  | gt => exact ⟨greater, by decide, fun op => by cases op <;> decide⟩

/-- **The operators agree.** Of two numbers other than NaN, or two strings, just one of `<`, `==`
and `>` holds, and `<=` and `>=` are `<` and `>` or `==`. Of other values no operator of the order
holds. Always `!=` is the opposite of `==`, and `>` is `<` the other way. -/
theorem holds_consistent (a b : Value) :
    (a.Comparable b →
      (∃! op, op ∈ [less, equal, greater] ∧ op.holds (some a) (some b) = true) ∧
      lessEqual.holds (some a) (some b) =
        (less.holds (some a) (some b) || equal.holds (some a) (some b)) ∧
      greaterEqual.holds (some a) (some b) =
        (greater.holds (some a) (some b) || equal.holds (some a) (some b))) ∧
    (¬a.Comparable b →
      ∀ op ∈ [less, lessEqual, greater, greaterEqual], op.holds (some a) (some b) = false) ∧
    notEqual.holds (some a) (some b) = !equal.holds (some a) (some b) ∧
    less.holds (some a) (some b) = greater.holds (some b) (some a) := by
  refine ⟨fun h => ?_, fun h => ?_, rfl, ?_⟩
  · obtain ⟨o, ho⟩ := Option.ne_none_iff_exists'.1 (mt Value.compare?_eq_none_iff.1 (not_not.2 h))
    simp only [holds_of_compare? _ ho]
    refine ⟨existsUnique_admits o, ?_, ?_⟩ <;> cases o <;> rfl
  · have hnone := Value.compare?_eq_none_iff.2 h
    simp [holds, hnone]
  · rw [holds, holds, Value.compare?_swap a b]
    cases a.compare? b with
    | none => rfl
    | some o => cases o <;> rfl

end Query.Comparison

end JsonPath

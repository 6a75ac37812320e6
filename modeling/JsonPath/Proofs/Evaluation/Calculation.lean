import JsonPath.Evaluation.Eval
import JsonPath.Proofs.Number.Range

/-!
# Calculating with integers

A calculation is put together from integer literals with sums, differences, products, remainders and
minus signs. It has an exact value among the integers of any size. A predicate that writes it
calculates in 64 bits, and one step that cannot be done there leaves nothing to go on with: the
whole calculation is absent, even if its exact value would fit.

* `Calculation` — the trees, with the integer that each stands for.
* `Calculation.IsExact` — whether every part of a calculation can be done in 64 bits.
* `Calculation.eval_exact_or_absent` — what a calculation gives at a node.
-/

namespace JsonPath.Query

open Number (Fits)

/-! ## Single steps -/

namespace Operation

/-- The exact result of an operation; quotients and remainders are truncated. -/
def ofExact : Operation → Int → Int → Int
  | add, a, b => a + b
  | subtract, a, b => a - b
  | multiply, a, b => a * b
  | divide, a, b => a.tdiv b
  | modulo, a, b => a.tmod b

/-- Whether an operation is done at all: no remainder is taken by zero, nor of the least integer
by -1. -/
def HasResult : Operation → Int → Int → Prop
  | modulo, a, b => b ≠ 0 ∧ ¬(a = Int64.minValue.toInt ∧ b = -1)
  | _, _, _ => True

instance : (op : Operation) → (a b : Int) → Decidable (op.HasResult a b)
  | modulo, _, _ => inferInstanceAs (Decidable (_ ∧ _))
  | add, _, _ | subtract, _, _ | multiply, _, _ | divide, _, _ => .isTrue trivial

variable {op : Operation} {a b : Int64}

theorem ofInts_eq_some (hop : op ≠ divide) (hresult : op.HasResult a.toInt b.toInt)
    (hfits : Fits (op.ofExact a.toInt b.toInt)) :
    op.ofInts a b = some (.int (.ofInt (op.ofExact a.toInt b.toInt))) := by
  have hkept := congrArg (Option.map Value.int) (Number.ofInt?_of_fits hfits)
  cases op with
  | divide => contradiction
  | modulo => exact (if_neg (not_or.2 hresult)).trans hkept
  | add | subtract | multiply => exact hkept

theorem ofInts_eq_none (hop : op ≠ divide)
    (h : ¬(op.HasResult a.toInt b.toInt ∧ Fits (op.ofExact a.toInt b.toInt))) :
    op.ofInts a b = none := by
  have hdropped (hresult : op.HasResult a.toInt b.toInt) :=
    congrArg (Option.map Value.int) (Number.ofInt?_of_not_fits fun hfits => h ⟨hresult, hfits⟩)
  cases op with
  | divide => contradiction
  | modulo =>
    by_cases hundone : b.toInt = 0 ∨ a.toInt = Int64.minValue.toInt ∧ b.toInt = -1
    · exact if_pos hundone
    · exact (if_neg hundone).trans (hdropped (not_or.1 hundone))
  | add | subtract | multiply => exact hdropped trivial

end Operation

/-! ## Trees -/

/-- Integer literals with sums, differences, products, remainders and minus signs. -/
inductive Calculation where
  | literal (k : Int64)
  | minus (c : Calculation)
  | operation (op : Operation) (hop : op ≠ .divide) (left right : Calculation)

namespace Calculation

/-- The predicate that writes a calculation. -/
def predicate : Calculation → Predicate
  | literal k => .literal (.int k)
  | minus c => .negate c.predicate
  | operation op _ l r => .operation op l.predicate r.predicate

/-- The integer that a calculation comes to, of any size. -/
def value : Calculation → Int
  | literal k => k.toInt
  | minus c => -c.value
  | operation op _ l r => op.ofExact l.value r.value

/-- The calculation itself and everything that it is put together from. -/
def parts : Calculation → List Calculation
  | literal k => [literal k]
  | minus c => minus c :: c.parts
  | operation op hop l r => operation op hop l r :: (l.parts ++ r.parts)

/-- Whether the last step of a calculation is done at all. -/
def HasResult : Calculation → Prop
  | literal _ | minus _ => True
  | operation op _ l r => op.HasResult l.value r.value

/-- Whether every part of a calculation is done and comes to an integer that fits 64 bits. -/
def IsExact (c : Calculation) : Prop := ∀ part ∈ c.parts, part.HasResult ∧ Fits part.value

instance : (c : Calculation) → Decidable c.HasResult
  | literal _ | minus _ => .isTrue trivial
  | operation op _ l r => inferInstanceAs (Decidable (op.HasResult l.value r.value))

instance (c : Calculation) : Decidable c.IsExact :=
  inferInstanceAs (Decidable (∀ part ∈ c.parts, part.HasResult ∧ Fits part.value))

variable {c l r : Calculation} {op : Operation} {hop : op ≠ .divide}

theorem isExact_literal (k : Int64) : (literal k).IsExact :=
  List.forall_mem_singleton.2 ⟨trivial, Number.fits_toInt k⟩

theorem isExact_minus : (minus c).IsExact ↔ Fits (-c.value) ∧ c.IsExact := by
  rw [IsExact, parts, List.forall_mem_cons]
  exact and_congr_left fun _ => and_iff_right trivial

theorem isExact_operation : (operation op hop l r).IsExact ↔
    (op.HasResult l.value r.value ∧ Fits (op.ofExact l.value r.value)) ∧ l.IsExact ∧ r.IsExact := by
  rw [IsExact, parts, List.forall_mem_cons, List.forall_mem_append]
  rfl

/-- An exact calculation comes to a 64-bit integer. -/
theorem IsExact.toInt_ofInt (h : c.IsExact) : (Int64.ofInt c.value).toInt = c.value := by
  have hself : c ∈ c.parts := by cases c <;> exact List.mem_cons_self
  exact Number.toInt_ofInt_of_fits (h c hself).2

/-! ## Evaluation -/

variable {ctx : Context} {n : Node}

/-- What a calculation gives at a node, if every part of it can be done and if not. -/
structure IsEvaluated (ctx : Context) (n : Node) (c : Calculation) : Prop where
  exact : c.IsExact → c.predicate.eval ctx n = .ok (.value (.int (.ofInt c.value)))
  absent : ¬c.IsExact → c.predicate.eval ctx n = .ok .absent

theorem isEvaluated_literal (k : Int64) : (literal k).IsEvaluated ctx n where
  exact _ := by
    rw [value, Int64.ofInt_toInt]
    rfl
  absent h := absurd (isExact_literal k) h

theorem isEvaluated_minus (hc : c.IsEvaluated ctx n) : (minus c).IsEvaluated ctx n := by
  have heval : (minus c).predicate.eval ctx n =
      c.predicate.eval ctx n >>= fun v => .ok (.ofOption (v.single?.bind negate?)) := rfl
  by_cases h : c.IsExact
  · have hstep : (minus c).predicate.eval ctx n =
        .ok (.ofOption ((Number.ofInt? (-c.value)).map .int)) := by
      rw [heval, hc.exact h]
      show Except.ok (Operand.ofOption ((Number.ofInt? (-(Int64.ofInt c.value).toInt)).map .int)) = _
      rw [h.toInt_ofInt]
    refine ⟨fun hminus => ?_, fun hminus => ?_⟩
    · rw [hstep, Number.ofInt?_of_fits (isExact_minus.1 hminus).1]
      rfl
    · rw [hstep, Number.ofInt?_of_not_fits fun hfits => hminus (isExact_minus.2 ⟨hfits, h⟩)]
      rfl
  · refine ⟨fun hminus => absurd (isExact_minus.1 hminus).2 h, fun _ => ?_⟩
    rw [heval, hc.absent h]
    rfl

/-- Both operands are evaluated, whatever the first one gives; one that is absent leaves no
result. -/
theorem eval_operation (ctx : Context) (n : Node) (op : Operation) (p q : Predicate) :
    (Predicate.operation op p q).eval ctx n =
      p.eval ctx n >>= fun left => q.eval ctx n >>= fun right =>
        .ok (.ofOption (left.single?.bind fun a => right.single?.bind (op.apply a))) := by
  rw [Predicate.eval]
  refine bind_congr fun left => bind_congr fun right => ?_
  cases left.single? <;> cases right.single? <;> rfl

theorem isEvaluated_operation (hl : l.IsEvaluated ctx n) (hr : r.IsEvaluated ctx n) :
    (operation op hop l r).IsEvaluated ctx n := by
  have heval := eval_operation ctx n op l.predicate r.predicate
  by_cases hexact : l.IsExact ∧ r.IsExact
  · obtain ⟨hlx, hrx⟩ := hexact
    have hstep : (operation op hop l r).predicate.eval ctx n =
        .ok (.ofOption (op.ofInts (.ofInt l.value) (.ofInt r.value))) := by
      rw [predicate, heval, hl.exact hlx, hr.exact hrx]
      rfl
    have hlv := hlx.toInt_ofInt
    have hrv := hrx.toInt_ofInt
    refine ⟨fun h => ?_, fun h => ?_⟩
    · have hdone := (isExact_operation.1 h).1
      rw [← hlv, ← hrv] at hdone
      rw [hstep, Operation.ofInts_eq_some hop hdone.1 hdone.2, hlv, hrv]
      rfl
    · rw [hstep, Operation.ofInts_eq_none hop]
      · rfl
      · rw [hlv, hrv]
        exact fun hdone => h (isExact_operation.2 ⟨hdone, hlx, hrx⟩)
  · refine ⟨fun h => absurd (isExact_operation.1 h).2 hexact, fun _ => ?_⟩
    rw [predicate, heval]
    by_cases hlx : l.IsExact
    · rw [hl.exact hlx, hr.absent fun hrx => hexact ⟨hlx, hrx⟩]
      rfl
    · rw [hl.absent hlx]
      by_cases hrx : r.IsExact
      · rw [hr.exact hrx]
        rfl
      · rw [hr.absent hrx]
        rfl

theorem isEvaluated (ctx : Context) (n : Node) (c : Calculation) : c.IsEvaluated ctx n := by
  induction c with
  | literal k => exact isEvaluated_literal k
  | minus c ih => exact isEvaluated_minus ih
  | operation op hop l r ihl ihr => exact isEvaluated_operation ihl ihr

/-- **Exact or absent.** A calculation gives its exact value at every node, if each part of it is
done and fits 64 bits. Otherwise it is absent, and it never fails. -/
theorem eval_exact_or_absent (c : Calculation) (ctx : Context) (n : Node) :
    (c.IsExact → ∃ k : Int64, k.toInt = c.value ∧
      c.predicate.eval ctx n = .ok (.value (.int k))) ∧
    (¬c.IsExact → c.predicate.eval ctx n = .ok .absent) :=
  ⟨fun h => ⟨_, h.toInt_ofInt, (isEvaluated ctx n c).exact h⟩, (isEvaluated ctx n c).absent⟩

/-- A sum that does not fit is not made good by what is taken away from it. -/
example : ∃ c : Calculation, c.value = Int64.maxValue.toInt ∧ ¬c.IsExact :=
  ⟨operation .subtract (by decide)
    (operation .add (by decide) (literal Int64.maxValue) (literal 1)) (literal 1), by decide⟩

end Calculation

end JsonPath.Query

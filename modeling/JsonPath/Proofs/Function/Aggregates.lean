import Mathlib.Algebra.BigOperators.Group.List.Basic
import Mathlib.Algebra.Order.BigOperators.Group.List
import Mathlib.Algebra.BigOperators.Ring.List
import Mathlib.Algebra.Order.Ring.Int
import Mathlib.Data.Int.NatAbs
import Mathlib.Data.List.Induction
import Mathlib.Data.List.Infix
import Mathlib.Data.List.Perm.Basic
import JsonPath.Proofs.Function.Outcome
import JsonPath.Proofs.Number.Range

/-!
# Sums and products of integers

A sum or a product of integers is exact while every running total fits 64 bits. From the first one
that does not, it goes on as a double, even if the totals come back into the range. So the order of
the integers counts: it does not change what an exact answer is, but it decides whether the answer
is exact.

* `StaysInRange` — no running total leaves the range.
* `accumulate_of_staysInRange`, `accumulate_of_not_staysInRange` — one pass through integers.
* `forall_staysInRange_iff`, `exists_staysInRange_iff`, `staysInRange_alike_iff` — in which orders a
  pass stays in range.
* `call_aggregate` — sums and products of integers in any order.
-/

namespace JsonPath

open Number (Fits fits_iff)

/-- Whether every running total of integers fits 64 bits. -/
def StaysInRange (total : List ℤ → ℤ) (ns : List Int64) : Prop :=
  ∀ front, front <+: ns → Fits (total (front.map Int64.toInt))

variable {total : List ℤ → ℤ} {ns : List Int64} {n : Int64}

theorem staysInRange_iff_inits :
    (∀ front ∈ ns.inits, Fits (total (front.map Int64.toInt))) ↔ StaysInRange total ns := by
  simp only [StaysInRange, List.mem_inits]

instance : Decidable (StaysInRange total ns) := decidable_of_iff _ staysInRange_iff_inits

theorem staysInRange_nil : StaysInRange total [] ↔ Fits (total []) := by
  simp [StaysInRange]

theorem staysInRange_concat : StaysInRange total (ns ++ [n]) ↔
    StaysInRange total ns ∧ Fits (total (ns.map Int64.toInt ++ [n.toInt])) := by
  simp only [StaysInRange, List.prefix_concat_iff, or_imp, forall_and, forall_eq, List.map_append,
    List.map_cons, List.map_nil]
  exact And.comm

/-! ## Orders -/

section Orders

variable (hperm : ∀ {xs ys : List ℤ}, xs.Perm ys → total xs = total ys)

include hperm

/-- Every order stays in range if the total fits of whatever integers could come first. -/
theorem forall_staysInRange_iff : (∀ ms, ms.Perm ns → StaysInRange total ms) ↔
    ∀ part : List Int64, part.Sublist ns → Fits (total (part.map Int64.toInt)) := by
  constructor
  · intro h part hpart
    obtain ⟨rest, hrest⟩ := hpart.exists_perm_append
    exact h _ hrest.symm part (List.prefix_append part rest)
  · intro h ms hms front hfront
    obtain ⟨part, hpart, hsub⟩ := hfront.sublist.subperm.trans hms.subperm
    rw [← hperm (hpart.map _)]
    exact h part hsub

variable (hlast : ∀ ms : List Int64, ms ≠ [] → Fits (total (ms.map Int64.toInt)) →
  ∃ x ∈ ms, Fits (total ((ms.erase x).map Int64.toInt)))

include hlast

/-- Some order stays in range if the total does, if always some integer can come last. -/
theorem exists_staysInRange_iff :
    (∃ ms, ms.Perm ns ∧ StaysInRange total ms) ↔ Fits (total (ns.map Int64.toInt)) := by
  constructor
  · rintro ⟨ms, hms, hstays⟩
    rw [← hperm (hms.map _)]
    exact hstays ms List.prefix_rfl
  · intro h
    induction hlength : ns.length generalizing ns with
    | zero =>
      rw [List.length_eq_zero_iff.1 hlength] at h ⊢
      exact ⟨[], .nil, staysInRange_nil.2 h⟩
    | succ k ih =>
      have hne : ns ≠ [] := List.ne_nil_of_length_eq_add_one hlength
      obtain ⟨x, hx, hfits⟩ := hlast ns hne h
      obtain ⟨ms, hms, hstays⟩ := ih hfits (by rw [List.length_erase_of_mem hx, hlength]; rfl)
      have happend : (ms ++ [x]).Perm ns :=
        (List.perm_append_singleton x ms).trans ((hms.cons x).trans (List.perm_cons_erase hx).symm)
      refine ⟨ms ++ [x], happend, staysInRange_concat.2 ⟨hstays, ?_⟩⟩
      have htotal := hperm (happend.map Int64.toInt)
      rw [List.map_append, List.map_singleton] at htotal
      rwa [htotal]

/-- All orders are alike if none stays in range or if every one does. -/
theorem staysInRange_alike_iff :
    (∀ ms ms', ms.Perm ns → ms'.Perm ns → (StaysInRange total ms ↔ StaysInRange total ms')) ↔
      ¬Fits (total (ns.map Int64.toInt)) ∨
        ∀ part : List Int64, part.Sublist ns → Fits (total (part.map Int64.toInt)) := by
  rw [← exists_staysInRange_iff hperm hlast, ← forall_staysInRange_iff hperm]
  constructor
  · intro h
    by_cases hsome : ∃ ms, ms.Perm ns ∧ StaysInRange total ms
    · obtain ⟨ms, hms, hstays⟩ := hsome
      exact .inr fun ms' hms' => (h ms ms' hms hms').1 hstays
    · exact .inl hsome
  · rintro (hnone | hall) ms ms' hms hms'
    · exact iff_of_false (fun h => hnone ⟨ms, hms, h⟩) fun h => hnone ⟨ms', hms', h⟩
    · exact iff_of_true (hall ms hms) (hall ms' hms')

end Orders

/-- If a sum fits, it still does without one of its integers: one that is negative if the sum is,
and else one that is not. -/
theorem exists_fits_erase_sum (hne : ns ≠ []) (h : Fits (ns.map Int64.toInt).sum) :
    ∃ x ∈ ns, Fits ((ns.erase x).map Int64.toInt).sum := by
  have herase {x} (hx : x ∈ ns) :
      (ns.map Int64.toInt).sum = x.toInt + ((ns.erase x).map Int64.toInt).sum :=
    ((List.perm_cons_erase hx).map _).sum_eq
  have hzero : (ns.map fun _ => (0 : ℤ)).sum = 0 := by simp
  rw [fits_iff] at h
  rcases le_or_gt 0 (ns.map Int64.toInt).sum with hsum | hsum
  · obtain ⟨x, hx, hpos⟩ := List.exists_le_of_sum_le hne _ _ (hzero.trans_le hsum)
    have hfits := fits_iff.1 (Number.fits_toInt x)
    have hrest := herase hx
    exact ⟨x, hx, fits_iff.2 (by omega)⟩
  · obtain ⟨x, hx, hneg⟩ := List.exists_lt_of_sum_lt _ _ (hsum.trans_eq hzero.symm)
    have hfits := fits_iff.1 (Number.fits_toInt x)
    have hrest := herase hx
    exact ⟨x, hx, fits_iff.2 (by omega)⟩

theorem natAbs_prod (xs : List ℤ) : xs.prod.natAbs = (xs.map Int.natAbs).prod :=
  map_list_prod Int.natAbsHom xs

/-- If a product fits, it still does without one of its factors: without one that makes it larger,
or, if there is a zero, without one beside it. -/
theorem exists_fits_erase_prod (hne : ns ≠ []) (h : Fits (ns.map Int64.toInt).prod) :
    ∃ x ∈ ns, Fits ((ns.erase x).map Int64.toInt).prod := by
  have herase {x} (hx : x ∈ ns) :
      (ns.map Int64.toInt).prod = x.toInt * ((ns.erase x).map Int64.toInt).prod :=
    ((List.perm_cons_erase hx).map _).prod_eq
  rw [fits_iff] at h
  by_cases hzero : 0 ∈ ns
  · cases hrest : ns.erase 0 with
    | nil => exact ⟨0, hzero, by rw [hrest]; decide⟩
    | cons x rest =>
      have hx : x ∈ ns.erase 0 := by rw [hrest]; exact List.mem_cons_self
      have hstill : 0 ∈ ns.erase x := by
        by_cases hx0 : x = 0
        · exact hx0 ▸ hx
        · exact (List.mem_erase_of_ne (Ne.symm hx0)).2 hzero
      refine ⟨x, List.mem_of_mem_erase hx, ?_⟩
      rw [List.prod_eq_zero (List.mem_map.2 ⟨0, hstill, rfl⟩)]
      decide
  by_cases hlarge : ∃ x ∈ ns, 2 ≤ x.toInt.natAbs
  · obtain ⟨x, hx, hx2⟩ := hlarge
    have hprod := congrArg Int.natAbs (herase hx)
    rw [Int.natAbs_mul] at hprod
    have hle := Nat.mul_le_mul_right ((ns.erase x).map Int64.toInt).prod.natAbs hx2
    exact ⟨x, hx, fits_iff.2 (by omega)⟩
  · -- All factors are units, so that every product is one.
    obtain ⟨x, hx⟩ := List.exists_mem_of_ne_nil ns hne
    have hunit : ((ns.erase x).map Int64.toInt).prod.natAbs = 1 := by
      rw [natAbs_prod, List.map_map]
      refine List.prod_eq_one fun k hk => ?_
      obtain ⟨y, hy, rfl⟩ := List.mem_map.1 hk
      have hy := List.mem_of_mem_erase hy
      have hsmall : ¬2 ≤ y.toInt.natAbs := fun hy2 => hlarge ⟨y, hy, hy2⟩
      have hy0 : y.toInt ≠ 0 := fun hy0 => hzero ((Int64.toInt_inj (y := 0)).1 hy0 ▸ hy)
      simp only [Function.comp_apply]
      omega
    exact ⟨x, hx, fits_iff.2 (by omega)⟩

/-! ## One pass -/

namespace Builtin

/-- The exact part of one pass through integers, which is given up at the first total that does not
fit. -/
def accumulate (op : ℤ → ℤ → ℤ) (start : Int64) (ns : List Int64) : Option Int64 :=
  ns.foldl (fun s n => s.bind fun k => Number.ofInt? (op k.toInt n.toInt)) (some start)

theorem accumulate_concat (op : ℤ → ℤ → ℤ) (start : Int64) (ns : List Int64) (n : Int64) :
    accumulate op start (ns ++ [n]) =
      (accumulate op start ns).bind fun k => Number.ofInt? (op k.toInt n.toInt) := by
  simp [accumulate]

section Pass

variable {op : ℤ → ℤ → ℤ} {start : Int64} (hnil : total [] = start.toInt)
  (hconcat : ∀ xs x, total (xs ++ [x]) = op (total xs) x)

include hnil hconcat

/-- **A pass in range.** If no running total leaves the range, a pass gives the last of them. -/
theorem accumulate_of_staysInRange (h : StaysInRange total ns) :
    accumulate op start ns = some (Int64.ofInt (total (ns.map Int64.toInt))) := by
  induction ns using List.reverseRecOn with
  | nil => rw [List.map_nil, hnil, Int64.ofInt_toInt]; rfl
  | append_singleton ns n ih =>
    obtain ⟨hns, hfits⟩ := staysInRange_concat.1 h
    rw [accumulate_concat, ih hns, List.map_append, List.map_singleton, Option.bind_some,
      Number.toInt_ofInt_of_fits (hns ns List.prefix_rfl), ← hconcat, Number.ofInt?_of_fits hfits]

/-- **A pass out of range.** If some running total leaves the range, nothing exact is left. -/
theorem accumulate_of_not_staysInRange (h : ¬StaysInRange total ns) :
    accumulate op start ns = none := by
  induction ns using List.reverseRecOn with
  | nil => exact absurd (staysInRange_nil.2 (hnil ▸ Number.fits_toInt start)) h
  | append_singleton ns n ih =>
    rw [accumulate_concat]
    by_cases hns : StaysInRange total ns
    · have hfits := fun hfits => h (staysInRange_concat.2 ⟨hns, hfits⟩)
      rw [accumulate_of_staysInRange hnil hconcat hns, Option.bind_some,
        Number.toInt_ofInt_of_fits (hns ns List.prefix_rfl), ← hconcat,
        Number.ofInt?_of_not_fits hfits]
    · rw [ih hns, Option.bind_none]

end Pass

/-! ## Sums and products -/

/-- What an aggregate gives: its exact part, or a float if that has been given up. -/
inductive Delivers : Option Int64 → Value → Prop
  | exact (k : Int64) : Delivers (some k) (.int k)
  | rounded (x : Float) : Delivers none (.float x)

variable {arg : Operand}

theorem numbers?_of_lists (f : Builtin) (ns : List Int64) (h : arg.Lists (ns.map .int)) :
    f.numbers? arg = .ok (some (ns.map .int)) := by
  have hnumbers : (ns.map Value.int).find? (fun v => !v.isNumber) = none := by
    simp [Value.isNumber]
  rw [numbers?, items?_of_lists f h]
  simp only [bind, Except.bind, hnumbers]
  rfl

/-- The exact part of a running sum. -/
def Total.kept? : Total → Option Int64
  | exact n => some n
  | rounded _ => none

theorem Total.kept?_add (t : Total) (n : Int64) :
    (t.add (.int n)).kept? = t.kept?.bind fun k => Number.ofInt? (k.toInt + n.toInt) := by
  cases t with
  | rounded x => rfl
  | exact k =>
    simp only [add, kept?, Option.bind_some]
    cases Number.ofInt? (k.toInt + n.toInt) <;> rfl

theorem Total.delivers (t : Total) : Delivers t.kept? t.toValue := by
  cases t with
  | exact k => exact .exact k
  | rounded x => exact .rounded x

theorem exists_call_sum (h : arg.Lists (ns.map .int)) :
    ∃ v, sum.call [arg] = .ok (.value v) ∧ Delivers (accumulate (· + ·) 0 ns) v := by
  have hexact : ((ns.map Value.int).foldl Total.add (.exact 0)).kept? =
      accumulate (· + ·) 0 ns := by
    rw [List.foldl_map]
    exact (List.foldl_hom Total.kept? fun t n => (Total.kept?_add t n).symm).symm
  refine ⟨((ns.map Value.int).foldl Total.add (.exact 0)).toValue, ?_, ?_⟩
  · show callSum arg = _
    rw [callSum, numbers?_of_lists sum ns h]
    rfl
  · rw [← hexact]
    exact Total.delivers _

theorem Product.exact_mul (p : Product) (n : Int64) :
    (p.mul (.int n)).exact = p.exact.bind fun k => Number.ofInt? (k.toInt * n.toInt) := by
  obtain ⟨exact, rounded⟩ := p
  cases exact <;> rfl

theorem Product.delivers (p : Product) : Delivers p.exact p.toValue := by
  obtain ⟨exact, rounded⟩ := p
  cases exact with
  | some k => exact .exact k
  | none => exact .rounded rounded

theorem exists_call_prod (hne : ns ≠ []) (h : arg.Lists (ns.map .int)) :
    ∃ v, prod.call [arg] = .ok (.value v) ∧ Delivers (accumulate (· * ·) 1 ns) v := by
  have hexact : ((ns.map Value.int).foldl Product.mul ⟨some 1, 1.0⟩).exact =
      accumulate (· * ·) 1 ns := by
    rw [List.foldl_map]
    exact (List.foldl_hom Product.exact fun t n => (Product.exact_mul t n).symm).symm
  refine ⟨((ns.map Value.int).foldl Product.mul ⟨some 1, 1.0⟩).toValue, ?_, ?_⟩
  · show callProd arg = _
    rw [callProd, numbers?_of_lists prod ns h]
    obtain ⟨n, rest, rfl⟩ := List.exists_cons_of_ne_nil hne
    rfl
  · rw [← hexact]
    exact Product.delivers _

/-- What is put together in one pass is the exact total if the pass stays in range, and else a
float. -/
theorem call_of_accumulate {f : Builtin} {op : ℤ → ℤ → ℤ} {start : Int64} {ms : List Int64}
    (hnil : total [] = start.toInt) (hconcat : ∀ xs x, total (xs ++ [x]) = op (total xs) x)
    (hcall : ∃ v, f.call [arg] = .ok (.value v) ∧ Delivers (accumulate op start ms) v) :
    (StaysInRange total ms →
      f.call [arg] = .ok (.value (.int (.ofInt (total (ms.map Int64.toInt)))))) ∧
    (¬StaysInRange total ms → ∃ x, f.call [arg] = .ok (.value (.float x))) := by
  obtain ⟨v, hcall, hv⟩ := hcall
  refine ⟨fun h => ?_, fun h => ?_⟩
  · rw [accumulate_of_staysInRange hnil hconcat h] at hv
    cases hv with
    | exact k => exact hcall
  · rw [accumulate_of_not_staysInRange hnil hconcat h] at hv
    cases hv with
    | rounded x => exact ⟨x, hcall⟩

/-- **Sums and products of integers.** In an order that stays in range, the answer is the exact
total, which is the same in every order; in another order it is a float. There is an order that
stays in range if the total fits, and every order does so if the total of every part fits. So the
order does not count if the total does not fit or that of every part does. -/
theorem call_aggregate {f : Builtin} {empty : Operand}
    (hf : (f, total, empty) ∈
      [(sum, List.sum, .value (.int 0)), (prod, List.prod, .absent)]) (ns : List Int64) :
    (∀ arg, arg.Lists [] → f.call [arg] = .ok empty) ∧
    (∀ ms arg, ms.Perm ns → ms ≠ [] → arg.Lists (ms.map .int) →
      (StaysInRange total ms →
        f.call [arg] = .ok (.value (.int (.ofInt (total (ns.map Int64.toInt)))))) ∧
      (¬StaysInRange total ms → ∃ x, f.call [arg] = .ok (.value (.float x)))) ∧
    ((∃ ms, ms.Perm ns ∧ StaysInRange total ms) ↔ Fits (total (ns.map Int64.toInt))) ∧
    ((∀ ms, ms.Perm ns → StaysInRange total ms) ↔
      ∀ part : List Int64, part.Sublist ns → Fits (total (part.map Int64.toInt))) ∧
    ((∀ ms ms', ms.Perm ns → ms'.Perm ns → (StaysInRange total ms ↔ StaysInRange total ms')) ↔
      ¬Fits (total (ns.map Int64.toInt)) ∨
        ∀ part : List Int64, part.Sublist ns → Fits (total (part.map Int64.toInt))) := by
  simp only [List.mem_cons, Prod.mk.injEq, List.not_mem_nil, or_false] at hf
  rcases hf with ⟨rfl, rfl, rfl⟩ | ⟨rfl, rfl, rfl⟩
  · refine ⟨fun arg harg => ?_, fun ms arg hms _ harg => ?_,
      exists_staysInRange_iff List.Perm.sum_eq fun ms => exists_fits_erase_sum,
      forall_staysInRange_iff List.Perm.sum_eq,
      staysInRange_alike_iff List.Perm.sum_eq fun ms => exists_fits_erase_sum⟩
    · show callSum arg = _
      rw [callSum, numbers?_of_lists sum [] harg]
      rfl
    · rw [← (hms.map Int64.toInt).sum_eq]
      exact call_of_accumulate rfl (by simp) (exists_call_sum harg)
  · refine ⟨fun arg harg => ?_, fun ms arg hms hne harg => ?_,
      exists_staysInRange_iff List.Perm.prod_eq fun ms => exists_fits_erase_prod,
      forall_staysInRange_iff List.Perm.prod_eq,
      staysInRange_alike_iff List.Perm.prod_eq fun ms => exists_fits_erase_prod⟩
    · show callProd arg = _
      rw [callProd, numbers?_of_lists prod [] harg]
      rfl
    · rw [← (hms.map Int64.toInt).prod_eq]
      exact call_of_accumulate rfl (by simp) (exists_call_prod hne harg)

/-- Before the greatest integer, `1` and `-1` cancel out; after it they come too late. -/
theorem call_sum_of_canceling :
    sum.call [.value (.array [.int 1, .int (-1), .int 9223372036854775807])] =
      .ok (.value (.int 9223372036854775807)) ∧
    ∃ x, sum.call [.value (.array [.int 9223372036854775807, .int 1, .int (-1)])] =
      .ok (.value (.float x)) := by
  obtain ⟨-, hcall, -⟩ := call_aggregate List.mem_cons_self [1, -1, 9223372036854775807]
  exact ⟨(hcall [1, -1, 9223372036854775807] _ (by decide) (by decide) (.array _)).1 (by decide),
    (hcall [9223372036854775807, 1, -1] _ (by decide) (by decide) (.array _)).2 (by decide)⟩

/-- **Order counts.** Rearranging integers can change the kind of their sum or product, and also the
value of either where both are floats. -/
theorem call_aggregate_of_rearranged :
    [(1 : Int64), -1, 9223372036854775807].Perm [9223372036854775807, 1, -1] ∧
    sum.call [.value (.array [.int 9223372036854775807, .int 1, .int (-1)])] =
      .ok (.value (.float 9223372036854775808.0)) ∧
    sum.call [.value (.array [.int 1, .int (-1), .int 9223372036854775807])] =
      .ok (.value (.int 9223372036854775807)) ∧
    [(0 : Int64), 9223372036854775807, 2].Perm [9223372036854775807, 2, 0] ∧
    prod.call [.value (.array [.int 9223372036854775807, .int 2, .int 0])] =
      .ok (.value (.float 0.0)) ∧
    prod.call [.value (.array [.int 0, .int 9223372036854775807, .int 2])] =
      .ok (.value (.int 0)) ∧
    [(1000 : Int64), 1000, 9223372036854775807].Perm [9223372036854775807, 1000, 1000] ∧
    sum.call [.value (.array [.int 9223372036854775807, .int 1000, .int 1000])] =
      .ok (.value (.float 9223372036854775808.0)) ∧
    sum.call [.value (.array [.int 1000, .int 1000, .int 9223372036854775807])] =
      .ok (.value (.float 9223372036854777856.0)) := by
  exact ⟨by decide, rfl, rfl, by decide, rfl, rfl, by decide, rfl, rfl⟩

end Builtin

end JsonPath

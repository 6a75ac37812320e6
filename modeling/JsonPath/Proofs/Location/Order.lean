import JsonPath.Edit.Change

/-!
# The order of paths

Paths are compared step by step, so their order is the lexicographic order over the order of steps,
and a total order because that one is. The lemmas on lists of steps follow the recursion over a
path; those on `descendingPaths` say in which order, and for which paths, changes are made.

* `compareSteps_eq_compareLex` — the order of steps, lexicographically.
* `descendingPaths_pairwise`, `mem_descendingPaths` — the paths given, each once, from the last to
  the first.
-/

namespace JsonPath

open Std

/-- Any two items are in order one way or the other. -/
theorem isLE_or_isLE_swap {α : Type} {cmp : α → α → Ordering} [OrientedCmp cmp] (a b : α) :
    ((cmp a b).isLE || (cmp b a).isLE) = true := by
  have hswap : cmp b a = (cmp a b).swap := OrientedCmp.eq_swap
  rw [hswap]
  cases cmp a b <;> rfl

/-! ## Steps -/

namespace Step

instance : OrientedCmp compare where
  eq_swap {s t} := by
    cases s with
    | root => cases t <;> rfl
    | index i =>
      cases t with
      | index j => exact OrientedOrd.eq_swap
      | root | name => rfl
    | name a =>
      cases t with
      | name b => exact OrientedOrd.eq_swap
      | root | index => rfl

instance : TransCmp compare where
  isLE_trans {s t u} hst htu := by
    cases s with
    | root => cases u <;> rfl
    | index i =>
      cases t with
      | root => contradiction
      | index j =>
        cases u with
        | root => contradiction
        | index k => exact TransOrd.isLE_trans hst htu
        | name => rfl
      | name => cases u <;> first | contradiction | rfl
    | name a =>
      cases t with
      | root | index => contradiction
      | name b =>
        cases u with
        | root | index => contradiction
        | name c => exact TransOrd.isLE_trans hst htu

instance : LawfulEqCmp compare where
  compare_self {s} := by cases s <;> simp [compare]
  eq_of_compare {s t} h := by cases s <;> cases t <;> simp_all [compare]

@[simp] theorem compare_self (s : Step) : s.compare s = .eq := ReflCmp.compare_self

@[simp] theorem compare_index_isLE {i j : Nat} :
    ((index i).compare (index j)).isLE ↔ i ≤ j := Nat.isLE_compare

end Step

/-! ## Paths -/

namespace Path

theorem compareSteps_eq_compareLex : compareSteps = List.compareLex Step.compare := by
  funext ss
  induction ss with
  | nil => funext ts; cases ts <;> rfl
  | cons s ss ih =>
    funext ts
    cases ts with
    | nil => rfl
    | cons t ts => simp only [compareSteps, List.compareLex_cons_cons, ih]

instance : TransCmp compareSteps := compareSteps_eq_compareLex ▸ inferInstance

instance : LawfulEqCmp compareSteps := compareSteps_eq_compareLex ▸ inferInstance

instance : TransCmp compare where
  eq_swap {p q} := (OrientedCmp.eq_swap : compareSteps p.steps q.steps = _)
  isLE_trans {p q _} := (TransCmp.isLE_trans : (compareSteps p.steps q.steps).isLE → _)

instance : LawfulEqCmp compare where
  compare_self {p} := (ReflCmp.compare_self : compareSteps p.steps p.steps = .eq)
  eq_of_compare {p q} h :=
    congrArg mk (LawfulEqCmp.eq_of_compare (h : compareSteps p.steps q.steps = .eq))

theorem compareSteps_nil_isLE (ss : List Step) : (compareSteps [] ss).isLE := by
  cases ss <;> rfl

@[simp] theorem compareSteps_cons_self (s : Step) (ss ts : List Step) :
    compareSteps (s :: ss) (s :: ts) = compareSteps ss ts := by
  simp [compareSteps]

/-- A single step is not after a path that begins with a step it is not after. -/
theorem compareSteps_singleton_isLE {s t : Step} (h : (t.compare s).isLE) (ss : List Step) :
    (compareSteps [t] (s :: ss)).isLE := by
  simp only [compareSteps, Ordering.isLE_then_iff_and]
  exact ⟨h, .inr (compareSteps_nil_isLE ss)⟩

/-- A path does not come after its extensions. -/
theorem compareSteps_isLE_of_prefix {ss ts : List Step} (h : ss <+: ts) :
    (compareSteps ss ts).isLE := by
  obtain ⟨rest, rfl⟩ := h
  induction ss with
  | nil => exact compareSteps_nil_isLE rest
  | cons s ss ih => simpa using ih

theorem le_eq_isLE (p q : Path) : p.le q = (p.compare q).isLE := by
  unfold le
  cases p.compare q <;> rfl

end Path

/-! ## Sorted lists without repetitions -/

section Repetitions

variable {α : Type}

theorem eraseRepsBy_loop_eq (r : α → α → Bool) (a : α) (as acc : List α) :
    List.eraseRepsBy.loop r a as acc = acc.reverse ++ List.eraseRepsBy.loop r a as [] := by
  induction as generalizing a acc with
  | nil => simp [List.eraseRepsBy.loop]
  | cons b as ih =>
    simp only [List.eraseRepsBy.loop]
    split
    · exact ih a acc
    · rw [ih b (a :: acc), ih b [a]]
      simp

variable [DecidableEq α]

theorem eraseReps_cons_cons (a b : α) (as : List α) :
    (a :: b :: as).eraseReps =
      if a = b then (b :: as).eraseReps else a :: (b :: as).eraseReps := by
  by_cases h : a = b
  · subst h
    simp [List.eraseReps, List.eraseRepsBy, List.eraseRepsBy.loop]
  · rw [if_neg h]
    simp only [List.eraseReps, List.eraseRepsBy, List.eraseRepsBy.loop,
      beq_eq_false_iff_ne.2 h, eraseRepsBy_loop_eq _ b as [a]]
    rfl

@[simp] theorem mem_eraseReps {x : α} (as : List α) : x ∈ as.eraseReps ↔ x ∈ as := by
  induction as with
  | nil => rfl
  | cons a as ih =>
    cases as with
    | nil => simp [List.eraseReps, List.eraseRepsBy, List.eraseRepsBy.loop]
    | cons b as =>
      rw [eraseReps_cons_cons]
      by_cases h : a = b
      · subst h
        rw [if_pos rfl, ih]
        simp
      · rw [if_neg h, List.mem_cons, ih, List.mem_cons (l := b :: as)]

/-- Without repetitions a sorted list is strictly sorted. -/
theorem pairwise_eraseReps {cmp : α → α → Ordering} [TransCmp cmp] [LawfulEqCmp cmp]
    {as : List α} (h : as.Pairwise fun a b => (cmp b a).isLE) :
    as.eraseReps.Pairwise fun a b => cmp b a = .lt := by
  induction as with
  | nil => exact List.Pairwise.nil
  | cons a as ih =>
    obtain ⟨ha, has⟩ := List.pairwise_cons.1 h
    cases as with
    | nil => simp [List.eraseReps, List.eraseRepsBy, List.eraseRepsBy.loop]
    | cons b as =>
      rw [eraseReps_cons_cons]
      by_cases hab : a = b
      · rw [if_pos hab]
        exact ih has
      · rw [if_neg hab]
        refine List.pairwise_cons.2 ⟨fun x hx => ?_, ih has⟩
        have hba : cmp b a = .lt :=
          (Ordering.isLE_iff_eq_lt_or_eq_eq.1 (ha b List.mem_cons_self)).resolve_right fun he =>
            hab (LawfulEqCmp.eq_of_compare he).symm
        rcases List.mem_cons.1 ((mem_eraseReps _).1 hx) with rfl | hx
        · exact hba
        · exact TransCmp.lt_of_isLE_of_lt ((List.pairwise_cons.1 has).1 x hx) hba

end Repetitions

/-! ## Paths in descending order -/

@[simp] theorem mem_descendingPaths {p : Path} {ps : List Path} :
    p ∈ descendingPaths ps ↔ p ∈ ps := by
  simp [descendingPaths]

/-- Every path comes before all that are listed ahead of it. -/
theorem descendingPaths_pairwise (ps : List Path) :
    (descendingPaths ps).Pairwise fun p q => q.compare p = .lt := by
  refine pairwise_eraseReps (List.Pairwise.imp (fun h => ?_) (List.pairwise_mergeSort ?_ ?_ ps))
  · rwa [Path.le_eq_isLE] at h
  · intro p q r hpq hqr
    rw [Path.le_eq_isLE] at *
    exact TransCmp.isLE_trans hqr hpq
  · intro p q
    rw [Path.le_eq_isLE, Path.le_eq_isLE]
    exact isLE_or_isLE_swap q p

/-- No path is listed twice. -/
theorem Path.nodup_of_pairwise {ps : List Path} (h : ps.Pairwise fun p q => q.compare p = .lt) :
    ps.Nodup := by
  refine h.imp fun {p q} hlt heq => ?_
  have hself : p.compare p = .eq := ReflCmp.compare_self
  rw [← heq, hself] at hlt
  contradiction

/-- **Runs in descending order.** If from the state after some paths one step leads to the state
after one more path, whenever this path comes before all of them, then a run over paths in
descending order leads to the state after all. -/
theorem Path.foldl_descending {σ : Type} (next : σ → Path → σ) (after : List Path → σ)
    {ps : List Path} (hsorted : ps.Pairwise fun p q => q.compare p = .lt)
    (hnext : ∀ done, ∀ p ∈ ps, (∀ q ∈ done, p.compare q = .lt) →
      next (after done) p = after (done ++ [p])) :
    ps.foldl next (after []) = after ps := by
  have hrun : ∀ todo done, done ++ todo = ps → todo.foldl next (after done) = after ps := by
    intro todo
    induction todo with
    | nil => rintro done rfl; simp
    | cons p todo ih =>
      intro done hps
      have hp : p ∈ ps := by simp [← hps]
      rw [← hps, List.pairwise_append] at hsorted
      rw [List.foldl_cons, hnext done p hp fun q hq => hsorted.2.2 q hq p List.mem_cons_self]
      exact ih (done ++ [p]) (by simp [← hps])
  exact hrun ps [] rfl

end JsonPath

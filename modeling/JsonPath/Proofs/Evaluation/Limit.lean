import JsonPath.Proofs.Evaluation.Descent

/-!
# Deeper limits

A limit on the depth of descents only decides whether an expression has a result, not which one.
Run an expression with two limits: as long as the lower one is not exceeded, both runs do the same
step by step, errors of arguments included, which leave out the node at hand. Where the lower limit
is exceeded the runs part, but that error passes every recovery and ends the first run. So no filter
and no computed position takes it for a candidate that does not match.

* `Persists` — one outcome stands for another, or ends the evaluation; with a rule for each way of
  putting steps together.
* `descend_persists` — one descent.
* `selectChain_persists`, `eval_persists` — one run along the other.
* `evaluate_of_le` — a result stays the same under every higher limit.
-/

namespace JsonPath.Query

variable {α β : Type}

/-! ## Outcomes that stay -/

/-- Whether an outcome is the same in another run, unless it is an error that ends the evaluation;
then the other run may come to anything. -/
inductive Persists : Except EvalError α → Except EvalError α → Prop where
  | same (x : Except EvalError α) : Persists x x
  | fatal {e : EvalError} (h : e.isRecoverable = false) (x' : Except EvalError α) :
    Persists (.error e) x'

namespace Persists

variable {x x' : Except EvalError α}

theorem eq_of_ok {a : α} (h : Persists (.ok a) x') : x' = .ok a := by
  cases h
  rfl

theorem bind {f f' : α → Except EvalError β} (hx : Persists x x')
    (hf : ∀ a, Persists (f a) (f' a)) : Persists (x >>= f) (x' >>= f') := by
  cases hx with
  | same =>
    cases x with
    | ok a => exact hf a
    | error e => exact .same _
  | fatal h => exact .fatal h _

theorem map (hx : Persists x x') (f : α → β) : Persists (x.map f) (x'.map f) := by
  cases hx with
  | same => exact .same _
  | fatal h => exact .fatal h _

theorem collect {f f' : α → Except EvalError (List β)} {items : List α}
    (h : ∀ a ∈ items, Persists (f a) (f' a)) :
    Persists (collect f items) (collect f' items) := by
  induction items with
  | nil => exact .same _
  | cons a rest ih =>
    obtain ⟨ha, hrest⟩ := List.forall_mem_cons.1 h
    exact ha.bind fun _ => (ih hrest).bind fun _ => .same _

/-- An error that ends the evaluation is not recovered from. -/
theorem recover (hx : Persists x x') (default : β) (use : α → β) :
    Persists (recover default use x) (recover default use x') := by
  cases hx with
  | same => exact .same _
  | fatal h =>
    rw [Query.recover, if_neg (by simp [h])]
    exact .fatal h _

end Persists

/-! ## Descents -/

/-- A descent with less room finds the same, or else goes too deep. -/
theorem descend_persists {limit limit' : Nat} {v : Value} :
    ∀ {path : Option Path} {room room' : Nat}, room ≤ room' →
      Persists (descend limit path (some room) v) (descend limit' path (some room') v) := by
  induction v using Value.inductionOnParts with
  | step v ih =>
    intro path room room' h
    rw [descend_some, descend_some]
    refine Persists.bind (Persists.collect fun m hm => ?_) fun _ => .same _
    cases room with
    | zero =>
      rw [deeper, descend]
      exact .fatal rfl _
    | succ room =>
      obtain ⟨k, rfl⟩ := Nat.exists_eq_add_of_le' h
      exact ih m.1 m.2 hm (Nat.le_add_left room k)

/-! ## Selectors and predicates -/

variable {document : Value} {maxDepth maxDepth' : Nat}

mutual

theorem select_persists (h : maxDepth ≤ maxDepth') : ∀ (s : Selector) (n : Node),
    Persists (s.select ⟨document, maxDepth⟩ n) (s.select ⟨document, maxDepth'⟩ n)
  | .name _, _ | .wildMember, _ | .wildElement, _ | .index _, _ | .slice _, _ => .same _
  | .descent, n => descend_persists h
  | .union members, n => by
    rw [Selector.select, Selector.select]
    exact selectMembers_persists h members n
  | .filter p, n => by
    rw [Selector.select, Selector.select]
    exact Persists.collect fun child _ => (eval_persists h p child).recover _ _
  | .call f args, n => by
    rw [Selector.select, Selector.select]
    exact ((evalAll_persists h args n).bind fun _ => .same _).recover _ _
  | .computed p, n => by
    rw [Selector.select, Selector.select]
    exact (eval_persists h p n).recover _ _

theorem selectChain_persists (h : maxDepth ≤ maxDepth') :
    ∀ (chain : List Selector) (ns : List Node),
      Persists (selectChain ⟨document, maxDepth⟩ chain ns)
        (selectChain ⟨document, maxDepth'⟩ chain ns)
  | [], _ => .same _
  | s :: rest, ns => by
    rw [selectChain_cons, selectChain_cons]
    have hstage : Persists (stage ⟨document, maxDepth⟩ s ns)
        (stage ⟨document, maxDepth'⟩ s ns) := by
      unfold stage
      split
      · exact .same _
      · exact Persists.collect fun n _ => select_persists h s n
    exact hstage.bind fun next => selectChain_persists h rest next

theorem selectMembers_persists (h : maxDepth ≤ maxDepth') :
    ∀ (members : List (List Selector)) (n : Node),
      Persists (selectMembers ⟨document, maxDepth⟩ members n)
        (selectMembers ⟨document, maxDepth'⟩ members n)
  | [], _ => .same _
  | chain :: rest, n => by
    rw [selectMembers, selectMembers]
    exact (selectChain_persists h chain [n]).bind fun _ =>
      (selectMembers_persists h rest n).bind fun _ => .same _

theorem eval_persists (h : maxDepth ≤ maxDepth') : ∀ (p : Predicate) (n : Node),
    Persists (p.eval ⟨document, maxDepth⟩ n) (p.eval ⟨document, maxDepth'⟩ n)
  | .literal _, _ | .current, _ | .root, _ => .same _
  | .fromCurrent chain, n => by
    rw [Predicate.eval, Predicate.eval]
    exact (selectChain_persists h chain [n]).map _
  | .fromRoot chain, n => by
    rw [Predicate.eval, Predicate.eval]
    exact (selectChain_persists h chain [.root document]).map _
  | .comparison _ l r, n | .operation _ l r, n => by
    rw [Predicate.eval, Predicate.eval]
    exact (eval_persists h l n).bind fun _ => (eval_persists h r n).bind fun _ => .same _
  | .negate p, n | .not p, n | .search p _, n => by
    rw [Predicate.eval, Predicate.eval]
    exact (eval_persists h p n).bind fun _ => .same _
  | .and l r, n => by
    rw [Predicate.eval, Predicate.eval]
    -- The left side is the same in both runs, so either both look at the right side or neither.
    refine (eval_persists h l n).bind fun left => ?_
    cases left.isTruthy with
    | true => exact (eval_persists h r n).bind fun _ => .same _
    | false => exact .same _
  | .or l r, n => by
    rw [Predicate.eval, Predicate.eval]
    refine (eval_persists h l n).bind fun left => ?_
    cases left.isTruthy with
    | true => exact .same _
    | false => exact (eval_persists h r n).bind fun _ => .same _
  | .call f args, n => by
    rw [Predicate.eval, Predicate.eval]
    exact (evalAll_persists h args n).bind fun _ => .same _

theorem evalAll_persists (h : maxDepth ≤ maxDepth') : ∀ (args : List Predicate) (n : Node),
    Persists (evalAll ⟨document, maxDepth⟩ args n) (evalAll ⟨document, maxDepth'⟩ args n)
  | [], _ => .same _
  | p :: rest, n => by
    rw [evalAll, evalAll]
    exact (eval_persists h p n).bind fun _ => (evalAll_persists h rest n).bind fun _ => .same _

end

/-- **Raising the limit changes no result.** What a chain finds in a document with descents of some
depth it finds with every greater depth, whatever functions it calls. -/
theorem evaluate_of_le (h : maxDepth ≤ maxDepth') {chain : Chain} {ns : List Node}
    (hns : evaluate maxDepth chain document = .ok ns) :
    evaluate maxDepth' chain document = .ok ns := by
  have hrun : Persists (evaluate maxDepth chain document) (evaluate maxDepth' chain document) :=
    selectChain_persists h chain [.root document]
  rw [hns] at hrun
  exact hrun.eq_of_ok

/-- A descent in a filter fails with the limit zero and is not taken for a candidate that does not
match; with limits one and two the array inside is found. -/
theorem evaluate_of_le_filter :
    evaluate 0 [.filter (.fromCurrent [.descent, .index 0])] (.array [.array [.null], .null]) =
        .error ⟨.depthExceeded 0, some ⟨[.index 0, .index 0]⟩⟩ ∧
      evaluate 1 [.filter (.fromCurrent [.descent, .index 0])] (.array [.array [.null], .null]) =
        .ok [⟨.array [.null], some ⟨[.index 0]⟩⟩] ∧
      evaluate 2 [.filter (.fromCurrent [.descent, .index 0])] (.array [.array [.null], .null]) =
        .ok [⟨.array [.null], some ⟨[.index 0]⟩⟩] :=
  ⟨rfl, rfl, evaluate_of_le (Nat.le_succ 1) rfl⟩

end JsonPath.Query

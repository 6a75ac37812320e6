import JsonPath.Proofs.Evaluation.Pipeline

/-!
# Filters and their negations

A filter keeps the children at which its predicate is true: it stands for some nodes, or for the
value `true`. The opposite of a predicate is true just where the predicate has a value that is not,
and errors pass through it. So a filter and the filter of the opposite divide the children between
them, apart from those that neither takes because a function refuses its argument; and where an
error ends the one filter, it ends the other as well.

The connectives look at truth only, and at their right side only if the left one leaves it open. A
negation moves inside them without a change to what is looked at, and in which order.

* `Predicate.Splits` — how a predicate divides a list of children.
* `selectChain_filter` — a filter tries one candidate after the other.
* `eval_not_and`, `eval_not_or` — negated connectives.
* `filter_not_splits` — a filter and its negation, and negated connectives.
-/

namespace JsonPath.Query

variable {ctx : Context} {p q : Predicate} {n c : Node} {children kept rejected : List Node}

/-! ## Negated predicates -/

theorem eval_not (ctx : Context) (p : Predicate) (n : Node) :
    (Predicate.not p).eval ctx n = (p.eval ctx n).map fun v => .bool (!v.isTruthy) := by
  rw [Predicate.eval]
  cases p.eval ctx n <;> rfl

theorem isTruthy_bool (b : Bool) : (Operand.bool b).isTruthy = b := rfl

theorem eval_not_and (ctx : Context) (p q : Predicate) (n : Node) :
    (Predicate.not (.and p q)).eval ctx n = (Predicate.or (.not p) (.not q)).eval ctx n := by
  rw [eval_not, Predicate.eval, Predicate.eval, eval_not, eval_not]
  cases p.eval ctx n with
  | error e => rfl
  | ok v =>
    show Except.map _ (if v.isTruthy then _ else _) = if (!v.isTruthy) then _ else _
    cases v.isTruthy with
    | false => rfl
    | true => cases q.eval ctx n <;> rfl

theorem eval_not_or (ctx : Context) (p q : Predicate) (n : Node) :
    (Predicate.not (.or p q)).eval ctx n = (Predicate.and (.not p) (.not q)).eval ctx n := by
  rw [eval_not, Predicate.eval, Predicate.eval, eval_not, eval_not]
  cases p.eval ctx n with
  | error e => rfl
  | ok v =>
    show Except.map _ (if v.isTruthy then _ else _) = if (!v.isTruthy) then _ else _
    cases v.isTruthy with
    | true => rfl
    | false => cases q.eval ctx n <;> rfl

/-! ## Candidates -/

/-- Whether a descent in a predicate goes too deep at a node; this ends the evaluation. -/
def Predicate.GoesTooDeep (ctx : Context) (p : Predicate) (n : Node) : Prop :=
  ∃ limit path, p.eval ctx n = .error ⟨.depthExceeded limit, path⟩

/-- What a filter makes of one candidate. -/
def Predicate.candidate (ctx : Context) (p : Predicate) (c : Node) :
    Except EvalError (List Node) :=
  recover [] (fun v : Operand => if v.isTruthy then [c] else []) (p.eval ctx c)

/-- How a predicate divides some children in their order: where it is true a child is kept, where it
is not the child is rejected, and it is neither where an argument is refused. -/
inductive Predicate.Splits (ctx : Context) (p : Predicate) :
    (children kept rejected : List Node) → Prop where
  | nil : Splits ctx p [] [] []
  | kept {c : Node} {v : Operand} {cs ks rs : List Node} (hv : p.eval ctx c = .ok v)
    (htrue : v.isTruthy = true) (rest : Splits ctx p cs ks rs) :
    Splits ctx p (c :: cs) (c :: ks) rs
  | rejected {c : Node} {v : Operand} {cs ks rs : List Node} (hv : p.eval ctx c = .ok v)
    (hfalse : v.isTruthy = false) (rest : Splits ctx p cs ks rs) :
    Splits ctx p (c :: cs) ks (c :: rs)
  | neither {c : Node} {f : String} {fault : ArgumentFault} {path : Option Path}
    {cs ks rs : List Node} (he : p.eval ctx c = .error ⟨.invalidArgument f fault, path⟩)
    (rest : Splits ctx p cs ks rs) : Splits ctx p (c :: cs) ks rs

namespace Predicate.Splits

theorem kept_sublist (h : p.Splits ctx children kept rejected) : kept.Sublist children := by
  induction h with
  | nil => exact .slnil
  | kept _ _ _ ih => exact ih.cons_cons _
  | rejected _ _ _ ih | neither _ _ ih => exact ih.cons _

theorem rejected_sublist (h : p.Splits ctx children kept rejected) :
    rejected.Sublist children := by
  induction h with
  | nil => exact .slnil
  | rejected _ _ _ ih => exact ih.cons_cons _
  | kept _ _ _ ih | neither _ _ ih => exact ih.cons _

/-- A child that is kept, rejected or left out has no descent that goes too deep. -/
theorem not_goesTooDeep (h : p.Splits ctx [c] kept rejected) : ¬p.GoesTooDeep ctx c := by
  rintro ⟨limit, path, hdeep⟩
  cases h with
  | kept he _ _ | rejected he _ _ | neither he _ => simp [hdeep] at he

theorem append {children' kept' rejected' : List Node} (h : p.Splits ctx children kept rejected)
    (h' : p.Splits ctx children' kept' rejected') :
    p.Splits ctx (children ++ children') (kept ++ kept') (rejected ++ rejected') := by
  induction h with
  | nil => exact h'
  | kept hv htrue _ ih => exact .kept hv htrue ih
  | rejected hv hfalse _ ih => exact .rejected hv hfalse ih
  | neither he _ ih => exact .neither he ih

end Predicate.Splits

/-- **One candidate.** Of a filter and the filter of the opposite, one takes it at most. -/
theorem candidate_cases (ctx : Context) (p : Predicate) (c : Node) :
    (p.GoesTooDeep ctx c ∧ ∃ limit path,
        p.candidate ctx c = .error ⟨.depthExceeded limit, path⟩ ∧
        p.not.candidate ctx c = .error ⟨.depthExceeded limit, path⟩) ∨
      ∃ kept rejected, p.candidate ctx c = .ok kept ∧ p.not.candidate ctx c = .ok rejected ∧
        p.Splits ctx [c] kept rejected := by
  unfold Predicate.candidate
  rw [eval_not]
  cases hv : p.eval ctx c with
  | error e =>
    obtain ⟨fault, path⟩ := e
    cases fault with
    | depthExceeded limit => exact .inl ⟨⟨limit, path, hv⟩, limit, path, rfl, rfl⟩
    | invalidArgument f fault => exact .inr ⟨[], [], rfl, rfl, .neither hv .nil⟩
  | ok v =>
    simp only [Except.map, recover, isTruthy_bool]
    cases ht : v.isTruthy with
    | true => exact .inr ⟨[c], [], rfl, rfl, .kept hv ht .nil⟩
    | false => exact .inr ⟨[], [c], rfl, rfl, .rejected hv ht .nil⟩

/-! ## Filters -/

theorem collect_flatMap {α β γ ε : Type} (f : β → Except ε (List γ)) (g : α → List β)
    (items : List α) : collect f (items.flatMap g) = collect (fun a => collect f (g a)) items := by
  induction items with
  | nil => rfl
  | cons a rest ih =>
    rw [List.flatMap_cons, collect_append, ih]
    rfl

theorem collect_ok {α β ε : Type} (g : α → List β) (items : List α) :
    collect (ε := ε) (fun a => .ok (g a)) items = .ok (items.flatMap g) := by
  induction items with
  | nil => rfl
  | cons a rest ih =>
    rw [collect, ih]
    rfl

/-- A chain of one selector is that selector. -/
theorem selectChain_singleton (ctx : Context) {s : Selector} (h : s.isCount = false)
    (ns : List Node) : selectChain ctx [s] ns = collect (s.select ctx) ns := by
  rw [selectChain_cons, stage, if_neg (by simp [h])]
  cases collect (s.select ctx) ns <;> rfl

/-- Both wildcards give the children of the nodes. -/
theorem selectChain_wildcard (ctx : Context) (ns : List Node) :
    selectChain ctx [.wildMember] ns = .ok (ns.flatMap Node.children) ∧
      selectChain ctx [.wildElement] ns = .ok (ns.flatMap Node.children) :=
  ⟨(selectChain_singleton ctx rfl ns).trans (collect_ok Node.children ns),
    (selectChain_singleton ctx rfl ns).trans (collect_ok Node.children ns)⟩

theorem selectChain_filter (ctx : Context) (p : Predicate) (ns : List Node) :
    selectChain ctx [.filter p] ns = collect (p.candidate ctx) (ns.flatMap Node.children) := by
  rw [selectChain_singleton ctx rfl, collect_flatMap]
  congr 1

/-- The first candidate that ends a filter ends the filter of the opposite. -/
theorem collect_candidate_error (h : ∃ c ∈ children, p.GoesTooDeep ctx c) :
    ∃ limit path, collect (p.candidate ctx) children = .error ⟨.depthExceeded limit, path⟩ ∧
      collect (p.not.candidate ctx) children = .error ⟨.depthExceeded limit, path⟩ := by
  induction children with
  | nil => simp at h
  | cons c rest ih =>
    simp only [collect]
    rcases candidate_cases ctx p c with ⟨-, limit, path, hp, hnot⟩ | ⟨k, r, hk, hr, hsplits⟩
    · rw [hp, hnot]
      exact ⟨limit, path, rfl, rfl⟩
    · obtain ⟨d, hd, hdeep⟩ := h
      obtain rfl | hd := List.mem_cons.1 hd
      · exact absurd hdeep hsplits.not_goesTooDeep
      · obtain ⟨limit, path, hp, hnot⟩ := ih ⟨d, hd, hdeep⟩
        rw [hk, hr, hp, hnot]
        exact ⟨limit, path, rfl, rfl⟩

theorem collect_candidate_splits (h : ∀ c ∈ children, ¬p.GoesTooDeep ctx c) :
    ∃ kept rejected, collect (p.candidate ctx) children = .ok kept ∧
      collect (p.not.candidate ctx) children = .ok rejected ∧
      p.Splits ctx children kept rejected := by
  induction children with
  | nil => exact ⟨[], [], rfl, rfl, .nil⟩
  | cons c rest ih =>
    obtain ⟨hc, hrest⟩ := List.forall_mem_cons.1 h
    rcases candidate_cases ctx p c with ⟨hdeep, -⟩ | ⟨k, r, hk, hr, hfirst⟩
    · exact absurd hdeep hc
    · obtain ⟨ks, rs, hks, hrs, hothers⟩ := ih hrest
      simp only [collect, hk, hr, hks, hrs]
      exact ⟨k ++ ks, r ++ rs, rfl, rfl, hfirst.append hothers⟩

/-- **Filters and their negations.** A wildcard gives all children of the nodes. A filter and the
filter of the opposite both fail if a descent goes too deep at a child, and with the same error.
Otherwise both give some of the children, in their order, and each child goes to just one of them
unless a function refuses its argument at it; then it goes to neither. A negation moves inside a
conjunction or an alternative with all that they give, errors included. -/
theorem filter_not_splits (ctx : Context) (p : Predicate) (ns : List Node) :
    (selectChain ctx [.wildMember] ns = .ok (ns.flatMap Node.children) ∧
        selectChain ctx [.wildElement] ns = .ok (ns.flatMap Node.children)) ∧
      ((∃ c ∈ ns.flatMap Node.children, p.GoesTooDeep ctx c) →
        ∃ limit path, selectChain ctx [.filter p] ns = .error ⟨.depthExceeded limit, path⟩ ∧
          selectChain ctx [.filter p.not] ns = .error ⟨.depthExceeded limit, path⟩) ∧
      ((∀ c ∈ ns.flatMap Node.children, ¬p.GoesTooDeep ctx c) →
        ∃ kept rejected, selectChain ctx [.filter p] ns = .ok kept ∧
          selectChain ctx [.filter p.not] ns = .ok rejected ∧
          kept.Sublist (ns.flatMap Node.children) ∧ rejected.Sublist (ns.flatMap Node.children) ∧
          p.Splits ctx (ns.flatMap Node.children) kept rejected) ∧
      ∀ (q : Predicate) (n : Node),
        (Predicate.not (.and p q)).eval ctx n = (Predicate.or (.not p) (.not q)).eval ctx n ∧
          (Predicate.not (.or p q)).eval ctx n = (Predicate.and (.not p) (.not q)).eval ctx n := by
  rw [selectChain_filter, selectChain_filter]
  refine ⟨selectChain_wildcard ctx ns, collect_candidate_error, fun h => ?_,
    fun q n => ⟨eval_not_and ctx p q n, eval_not_or ctx p q n⟩⟩
  obtain ⟨kept, rejected, hkept, hrejected, hsplits⟩ := collect_candidate_splits h
  exact ⟨kept, rejected, hkept, hrejected, hsplits.kept_sublist, hsplits.rejected_sublist, hsplits⟩

end JsonPath.Query

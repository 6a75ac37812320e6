import JsonPath.Proofs.Evaluation.Outcome

/-!
# Chains work node by node

A chain is applied stage by stage: each selector takes the whole list of nodes that the one before
it gave. As long as no stage counts the list, this comes to the same as applying the chain to parts
of the list and joining what they give. Only the order in which errors come up differs: a stage that
fails for one part of the list is reached before later stages that would fail for another.

* `stage_append` — one stage.
* `selectChain_append` — a chain.
-/

namespace JsonPath.Query

variable {ctx : Context} {chain : Chain} {front back rs : List Node}

theorem collect_append {α β ε : Type} (f : α → Except ε (List β)) (front back : List α) :
    collect f (front ++ back) = do
      let first ← collect f front
      let others ← collect f back
      return first ++ others := by
  induction front with
  | nil => cases hback : collect f back <;> rw [List.nil_append, hback] <;> rfl
  | cons a rest ih =>
    rw [List.cons_append, collect, collect, ih]
    cases f a with
    | error e => rfl
    | ok bs =>
      cases collect f rest with
      | error e => rfl
      | ok cs =>
        cases collect f back with
        | error e => rfl
        | ok ds => exact congrArg Except.ok (List.append_assoc bs cs ds).symm

/-- **One stage.** A selector that does not count the list does the same to each part of it. -/
theorem stage_append {s : Selector} (h : s.isCount = false) (front back : List Node) :
    stage ctx s (front ++ back) = do
      let first ← stage ctx s front
      let others ← stage ctx s back
      return first ++ others := by
  simp only [stage, h, Bool.false_eq_true, if_false]
  exact collect_append (s.select ctx) front back

theorem selectChain_append_eq_ok (h : ∀ s ∈ chain, s.isCount = false) :
    selectChain ctx chain (front ++ back) = .ok rs ↔
      ∃ first others, selectChain ctx chain front = .ok first ∧
        selectChain ctx chain back = .ok others ∧ rs = first ++ others := by
  induction chain generalizing front back with
  | nil => simp [selectChain, eq_comm]
  | cons s rest ih =>
    obtain ⟨hs, hrest⟩ := List.forall_mem_cons.1 h
    simp only [selectChain_cons, stage_append hs, bind_eq_ok, pure_eq_ok]
    constructor
    · rintro ⟨_, ⟨first, hfirst, others, hothers, rfl⟩, hrs⟩
      obtain ⟨firsts, others', hfirsts, hothers', rfl⟩ := (ih hrest).1 hrs
      exact ⟨firsts, others', ⟨first, hfirst, hfirsts⟩, ⟨others, hothers, hothers'⟩, rfl⟩
    · rintro ⟨firsts, others', ⟨first, hfirst, hfirsts⟩, ⟨others, hothers, hothers'⟩, rfl⟩
      exact ⟨first ++ others, ⟨first, hfirst, others, hothers, rfl⟩,
        (ih hrest).2 ⟨firsts, others', hfirsts, hothers', rfl⟩⟩

theorem selectChain_append_eq_error (h : ∀ s ∈ chain, s.isCount = false) {e : EvalError}
    (he : selectChain ctx chain (front ++ back) = .error e) :
    selectChain ctx chain front = .error e ∨ selectChain ctx chain back = .error e := by
  induction chain generalizing front back with
  | nil => simp [selectChain] at he
  | cons s rest ih =>
    obtain ⟨hs, hrest⟩ := List.forall_mem_cons.1 h
    simp only [selectChain_cons, stage_append hs] at he ⊢
    cases hfront : stage ctx s front with
    | error e' =>
      rw [hfront] at he
      exact .inl he
    | ok first =>
      cases hback : stage ctx s back with
      | error e' =>
        rw [hfront, hback] at he
        exact .inr he
      | ok others =>
        rw [hfront, hback] at he
        exact ih hrest he

/-- **Chains work node by node.** Unless one of its selectors counts the nodes, a chain gives for a
list just what it gives for the front and then what it gives for the back, as long as it gives
something for both; if it fails, then with the error of one of them. -/
theorem selectChain_append (h : ∀ s ∈ chain, s.isCount = false) (front back : List Node) :
    (∀ rs, selectChain ctx chain (front ++ back) = .ok rs ↔
        ∃ first others, selectChain ctx chain front = .ok first ∧
          selectChain ctx chain back = .ok others ∧ rs = first ++ others) ∧
      ∀ e, selectChain ctx chain (front ++ back) = .error e →
        selectChain ctx chain front = .error e ∨ selectChain ctx chain back = .error e :=
  ⟨fun _ => selectChain_append_eq_ok h, fun _ => selectChain_append_eq_error h⟩

/-- A count inside a union is of the one node that the union is applied to: two arrays give their
own counts and elements, one after the other. -/
theorem selectChain_append_union :
    selectChain ⟨.null, 8⟩ [.union [[.call (.builtin .count) []], [.wildElement]], .descent]
        ([⟨.array [.null], some ⟨[.name "a"]⟩⟩] ++ [.synthetic (.array [.bool true])]) =
      .ok ([.synthetic (.int 1), ⟨.null, some ⟨[.name "a", .index 0]⟩⟩] ++
        [.synthetic (.int 1), .synthetic (.bool true)]) := by
  have h : ∀ s ∈ ([.union [[.call (.builtin .count) []], [.wildElement]], .descent] : Chain),
      s.isCount = false := by simp [Selector.isCount]
  exact ((selectChain_append h _ _).1 _).2 ⟨_, _, rfl, rfl, rfl⟩

end JsonPath.Query

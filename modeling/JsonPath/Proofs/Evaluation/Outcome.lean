import JsonPath.Evaluation.Eval

/-!
# Outcomes of evaluation

Evaluation gives a list of nodes or an error. The lemmas here read an outcome as the outcomes of the
steps it was put together from.

* `mem_of_collect` — what is collected comes from one of the items.
* `Ends` — what is known of a result and of an error, with a rule for each way of putting steps
  together.
* `selectChain_cons` — a chain is its first stage and then the rest.
-/

namespace JsonPath.Query

variable {α β ε : Type}

theorem bind_eq_ok {x : Except ε α} {f : α → Except ε β} {b : β} :
    x >>= f = .ok b ↔ ∃ a, x = .ok a ∧ f a = .ok b := by
  cases x <;> simp [bind, Except.bind]

theorem pure_eq_ok {a b : α} : (pure a : Except ε α) = .ok b ↔ a = b := by
  simp [pure, Except.pure]

/-- What is collected comes from one of the items. -/
theorem mem_of_collect {f : α → Except ε (List β)} {items : List α} {bs : List β} {b : β}
    (h : collect f items = .ok bs) (hb : b ∈ bs) : ∃ a ∈ items, ∃ cs, f a = .ok cs ∧ b ∈ cs := by
  induction items generalizing bs with
  | nil =>
    obtain rfl : [] = bs := by simpa [collect] using h
    simp at hb
  | cons a rest ih =>
    simp only [collect, bind_eq_ok, pure_eq_ok] at h
    obtain ⟨first, hfirst, others, hothers, rfl⟩ := h
    rcases List.mem_append.1 hb with hb | hb
    · exact ⟨a, List.mem_cons_self, first, hfirst, hb⟩
    · obtain ⟨c, hc, cs, hcs⟩ := ih hothers hb
      exact ⟨c, List.mem_cons_of_mem a hc, cs, hcs⟩

theorem collect_singleton (f : α → Except ε (List β)) (a : α) : collect f [a] = f a := by
  cases h : f a <;> simp [collect, h, bind, Except.bind, pure, Except.pure]

/-! ## Results and errors -/

/-- A result has one property, or else the error has another. -/
def Ends (P : α → Prop) (E : EvalError → Prop) : Except EvalError α → Prop
  | .ok a => P a
  | .error e => E e

namespace Ends

variable {P : α → Prop} {Q : β → Prop} {E : EvalError → Prop} {x : Except EvalError α}

theorem of_ok {a : α} (h : Ends P E x) (hx : x = .ok a) : P a := by
  subst hx
  exact h

theorem of_error {e : EvalError} (h : Ends P E x) (hx : x = .error e) : E e := by
  subst hx
  exact h

theorem mono {P' : α → Prop} {E' : EvalError → Prop} (h : Ends P E x) (hP : ∀ a, P a → P' a)
    (hE : ∀ e, E e → E' e) : Ends P' E' x := by
  cases x with
  | ok a => exact hP a h
  | error e => exact hE e h

theorem bind {f : α → Except EvalError β} (h : Ends P E x) (hf : ∀ a, P a → Ends Q E (f a)) :
    Ends Q E (x >>= f) := by
  cases x with
  | error e => exact h
  | ok a => exact hf a h

theorem map {f : α → β} (h : Ends P E x) (hf : ∀ a, P a → Q (f a)) : Ends Q E (x.map f) := by
  cases x with
  | error e => exact h
  | ok a => exact hf a h

/-- What is collected from items that each give something with a property has it. -/
theorem collect {f : α → Except EvalError (List β)} {items : List α}
    (h : ∀ a ∈ items, Ends (fun bs => ∀ b ∈ bs, Q b) E (f a)) :
    Ends (fun bs => ∀ b ∈ bs, Q b) E (collect f items) := by
  induction items with
  | nil => exact fun b hb => nomatch hb
  | cons a rest ih =>
    obtain ⟨ha, hrest⟩ := List.forall_mem_cons.1 h
    exact ha.bind fun _ hbs => (ih hrest).bind fun _ hcs => List.forall_mem_append.2 ⟨hbs, hcs⟩

/-- Errors that concern the node at hand do not pass a recovery. -/
theorem recover {default : β} {use : α → β} (h : Ends P (fun e => e.isRecoverable ∨ E e) x)
    (hdefault : Q default) (huse : ∀ a, P a → Q (use a)) :
    Ends Q E (recover default use x) := by
  cases x with
  | ok a => exact huse a h
  | error e =>
    unfold Query.recover
    dsimp only
    split
    · exact hdefault
    · rename_i he
      exact h.resolve_left he

end Ends

/-! ## Stages -/

/-- What one selector of a chain makes of a list of nodes. -/
def stage (ctx : Context) (s : Selector) (ns : List Node) : Except EvalError (List Node) :=
  if s.isCount then .ok [Node.synthetic (.ofNat ns.length)] else collect (s.select ctx) ns

theorem selectChain_cons (ctx : Context) (s : Selector) (rest : List Selector) (ns : List Node) :
    selectChain ctx (s :: rest) ns = stage ctx s ns >>= selectChain ctx rest := by
  by_cases h : s.isCount <;> simp [selectChain, stage, h]

end JsonPath.Query

import JsonPath.Proofs.Evaluation.Descent
import JsonPath.Proofs.Query.Scope

/-!
# What evaluation keeps, and how it fails

A property of nodes holds of everything that an expression finds in a document as soon as the root
has it, parts inherit it, and counts and the results of functions have it. Errors come from descents
and from functions only; those that concern the node at hand stay where they are, so that an
expression fails just as its descents and functions do.

* `Invariant` — a property of nodes that evaluation keeps, with a property that its errors have.
* `Invariant.selectChain`, `Invariant.eval` — a chain gives nodes with the one property or an error
  with the other; a predicate may fail with an error that concerns the node at hand, too.
* `Invariant.evaluate` — so does an expression, from the root of a document.
-/

namespace JsonPath.Query

/-- Nodes keep the property `I`, and evaluation ends at them only with errors of the kind `E`, as
long as an expression stays within a scope. -/
structure Invariant (ctx : Context) (σ : Scope) (I : Node → Prop) (E : EvalError → Prop) :
    Prop where
  root : I (.root ctx.document)
  part : ∀ {n : Node} {s : Step} {v : Value}, I n → (s, v) ∈ n.value.parts → I (n.part s v)
  count : ∀ k : Nat, I (.synthetic (.ofNat k))
  /-- What a function gives for a node, called as a selector. -/
  call : ∀ {f : Function} {n : Node} {args : List Operand} {v : Value}, σ.Calls f → I n →
    f.call (.nodes [n] :: args) = .ok (.value v) → I (.synthetic v)
  descent : ∀ {n : Node} {e : EvalError}, I n →
    descend ctx.maxDepth n.path (some ctx.maxDepth) n.value = .error e → E e
  fault : ∀ {f : Function} {n : Node} {args : List Operand} {e : EvalError}, σ.Calls f → I n →
    f.call args = .error e → e.isRecoverable ∨ E (e.locatedAt n.path)

namespace Invariant

variable {ctx : Context} {σ : Scope} {I : Node → Prop} {E : EvalError → Prop} {n : Node}

/-! ## Parts -/

section Parts

variable (inv : Invariant ctx σ I E) (hn : I n)

include inv hn

theorem member {name : String} {m : Node} (h : n.member? name = some m) : I m := by
  obtain ⟨v, hv, rfl⟩ := Option.map_eq_some_iff.1 h
  exact inv.part hn (Value.mem_parts_of_get? (Step.isPlain_name name) hv)

theorem element {i : Nat} {m : Node} (h : n.element? i = some m) : I m := by
  obtain ⟨v, hv, rfl⟩ := Option.map_eq_some_iff.1 h
  exact inv.part hn (Value.mem_parts_of_get? (Step.isPlain_index i) hv)

theorem elementAt {i : Int} {m : Node} (h : n.elementAt? i = some m) : I m := by
  simp only [Node.elementAt?] at h
  generalize (if i < 0 then i + n.value.elements.length else i) = k at h
  by_cases hk : k < 0
  · simp [hk] at h
  · rw [if_neg hk] at h
    exact inv.element hn h

theorem children : ∀ m ∈ n.children, I m := by
  intro m hm
  obtain ⟨⟨s, v⟩, hsv, rfl⟩ := List.mem_map.1 hm
  exact inv.part hn hsv

theorem memberOrLength (name : String) : ∀ m ∈ memberOrLength name n, I m := by
  intro m hm
  unfold Query.memberOrLength at hm
  split at hm
  · rename_i child hchild
    rw [List.mem_singleton.1 hm]
    exact inv.member hn hchild
  · split at hm
    · split at hm
      · rw [List.mem_singleton.1 hm]
        exact inv.count _
      · simp at hm
    · simp at hm

theorem sliceOf (s : Slice) : ∀ m ∈ sliceOf s n, I m := by
  intro m hm
  obtain ⟨i, -, hi⟩ := List.mem_filterMap.1 hm
  exact inv.element hn hi

theorem lookupKey (key : Operand) : ∀ m ∈ lookupKey key n, I m := by
  intro m hm
  unfold Query.lookupKey at hm
  split at hm
  · exact inv.member hn (by simpa using hm)
  · split at hm
    · obtain ⟨i, -, hi⟩ := Option.bind_eq_some_iff.1 (Option.mem_toList.1 hm)
      exact inv.elementAt hn hi
    · simp at hm
  · simp at hm

end Parts

/-- **One descent.** What it finds are parts of parts of the value. -/
theorem descend (inv : Invariant ctx σ I E) {limit : Nat} {v : Value} :
    ∀ {path : Option Path} {room : Option Nat} {ns : List Node}, I ⟨v, path⟩ →
      descend limit path room v = .ok ns → ∀ m ∈ ns, I m := by
  induction v using Value.inductionOnParts with
  | step v ih =>
    intro path room ns hv h m hm
    cases room with
    | none => simp [Query.descend] at h
    | some room =>
      rw [descend_some, bind_eq_ok] at h
      obtain ⟨below, hbelow, h⟩ := h
      obtain rfl := Except.ok.inj h
      rcases List.mem_cons.1 hm with rfl | hm
      · exact hv
      · obtain ⟨⟨s, w⟩, hw, found, hfound, hm⟩ := mem_of_collect hbelow hm
        exact ih s w hw (inv.part hv hw) hfound m hm

/-- A call at a node, of a function within the scope, gives what the function gives, or fails with
an error that is recovered from or allowed. -/
theorem callAt (inv : Invariant ctx σ I E) {f : Function} (hf : σ.Calls f) (hn : I n)
    (args : List Operand) :
    Ends (fun o => f.call args = .ok o) (fun e => e.isRecoverable ∨ E e) (callAt f args n) := by
  unfold Query.callAt
  cases h : f.call args with
  | ok o => rfl
  | error e => exact inv.fault hf hn h

theorem syntheticOf (inv : Invariant ctx σ I E) {f : Function} (hf : σ.Calls f) (hn : I n)
    {args : List Operand} {o : Operand} (h : f.call (.nodes [n] :: args) = .ok o) :
    ∀ m ∈ syntheticOf o, I m := by
  intro m hm
  cases o with
  | value v =>
    rw [List.mem_singleton.1 hm]
    exact inv.call hf hn h
  | nodes | absent => simp [Query.syntheticOf] at hm

/-! ## Selectors and predicates -/

mutual

theorem select (inv : Invariant ctx σ I E) : ∀ (s : Selector) {n : Node}, s.Within σ → I n →
    Ends (fun ns => ∀ m ∈ ns, I m) E (s.select ctx n)
  | .name s, n, _, hn => inv.memberOrLength hn s
  | .wildMember, n, _, hn | .wildElement, n, _, hn => inv.children hn
  | .index _, n, _, hn => fun _ hm => inv.elementAt hn (Option.mem_toList.1 hm)
  | .slice s, n, _, hn => inv.sliceOf hn s
  | .descent, n, _, hn => by
    rw [Selector.select]
    cases h : Query.descend ctx.maxDepth n.path (some ctx.maxDepth) n.value with
    | ok ns => exact inv.descend hn h
    | error e => exact inv.descent hn h
  | .union members, n, hs, hn => by
    rw [Selector.select]
    exact selectMembers inv members hs hn
  | .filter p, n, hs, hn => by
    rw [Selector.select]
    refine Ends.collect fun child hchild => ?_
    have hchild := inv.children hn child hchild
    refine (eval inv p hs hchild).recover (fun m hm => nomatch hm) fun v _ m hm => ?_
    -- Whatever the predicate comes to, the child itself is all that can be kept.
    split at hm
    · rw [List.mem_singleton.1 hm]
      exact hchild
    · simp at hm
  | .call f args, n, hs, hn => by
    rw [Selector.select]
    refine Ends.recover ((evalAll inv args hs.2 hn).bind fun operands _ => ?_)
      (fun m hm => nomatch hm) fun _ => id
    exact (inv.callAt hs.1 hn (.nodes [n] :: operands)).mono
      (fun _ => inv.syntheticOf hs.1 hn) fun _ => id
  | .computed p, n, hs, hn => by
    rw [Selector.select]
    exact (eval inv p hs hn).recover (fun m hm => nomatch hm) fun key _ => inv.lookupKey hn key

theorem selectChain (inv : Invariant ctx σ I E) : ∀ (chain : List Selector) {ns : List Node},
    ChainWithin σ chain → (∀ n ∈ ns, I n) →
    Ends (fun rs => ∀ m ∈ rs, I m) E (selectChain ctx chain ns)
  | [], ns, _, hns => hns
  | s :: rest, ns, hs, hns => by
    rw [selectChain_cons]
    have hstage : Ends (fun rs => ∀ m ∈ rs, I m) E (stage ctx s ns) := by
      unfold stage
      split
      · intro m hm
        rw [List.mem_singleton.1 hm]
        exact inv.count _
      · exact Ends.collect fun n hn => select inv s hs.1 (hns n hn)
    exact hstage.bind fun next hnext => selectChain inv rest hs.2 hnext

theorem selectMembers (inv : Invariant ctx σ I E) : ∀ (members : List (List Selector)) {n : Node},
    UnionWithin σ members → I n →
    Ends (fun rs => ∀ m ∈ rs, I m) E (selectMembers ctx members n)
  | [], n, _, hn => fun m hm => nomatch hm
  | chain :: rest, n, hs, hn => by
    rw [Query.selectMembers]
    exact (selectChain inv chain hs.1 (List.forall_mem_singleton.2 hn)).bind fun first hfirst =>
      (selectMembers inv rest hs.2 hn).bind fun others hothers =>
        List.forall_mem_append.2 ⟨hfirst, hothers⟩

theorem eval (inv : Invariant ctx σ I E) : ∀ (p : Predicate) {n : Node}, p.Within σ → I n →
    Ends (fun _ => True) (fun e => e.isRecoverable ∨ E e) (p.eval ctx n)
  | .literal _, _, _, _ | .current, _, _, _ | .root, _, _, _ => trivial
  | .fromCurrent chain, n, hp, hn => by
    rw [Predicate.eval]
    have hchain := selectChain inv chain hp (List.forall_mem_singleton.2 hn)
    exact (hchain.mono (fun _ => id) fun _ => Or.inr).map fun _ _ => trivial
  | .fromRoot chain, n, hp, hn => by
    rw [Predicate.eval]
    have hchain := selectChain inv chain hp.2 (List.forall_mem_singleton.2 inv.root)
    exact (hchain.mono (fun _ => id) fun _ => Or.inr).map fun _ _ => trivial
  | .comparison op l r, n, hp, hn => by
    rw [Predicate.eval]
    exact (eval inv l hp.1 hn).bind fun _ _ => (eval inv r hp.2 hn).bind fun _ _ => trivial
  | .operation op l r, n, hp, hn => by
    rw [Predicate.eval]
    refine (eval inv l hp.1 hn).bind fun _ _ => (eval inv r hp.2 hn).bind fun _ _ => ?_
    split <;> trivial
  | .negate p, n, hp, hn | .not p, n, hp, hn => by
    rw [Predicate.eval]
    exact (eval inv p hp hn).bind fun _ _ => trivial
  | .and l r, n, hp, hn => by
    rw [Predicate.eval]
    refine (eval inv l hp.1 hn).bind fun _ _ => ?_
    split
    · exact (eval inv r hp.2 hn).bind fun _ _ => trivial
    · trivial
  | .or l r, n, hp, hn => by
    rw [Predicate.eval]
    refine (eval inv l hp.1 hn).bind fun _ _ => ?_
    split
    · trivial
    · exact (eval inv r hp.2 hn).bind fun _ _ => trivial
  | .search p r, n, hp, hn => by
    rw [Predicate.eval]
    refine (eval inv p hp hn).bind fun _ _ => ?_
    split <;> trivial
  | .call f args, n, hp, hn => by
    rw [Predicate.eval]
    exact (evalAll inv args hp.2 hn).bind fun operands _ =>
      (inv.callAt hp.1 hn operands).mono (fun _ _ => trivial) fun _ => id

theorem evalAll (inv : Invariant ctx σ I E) : ∀ (args : List Predicate) {n : Node},
    ArgumentsWithin σ args → I n →
    Ends (fun _ => True) (fun e => e.isRecoverable ∨ E e) (evalAll ctx args n)
  | [], _, _, _ => trivial
  | p :: rest, n, hp, hn => by
    rw [Query.evalAll]
    exact (eval inv p hp.1 hn).bind fun _ _ => (evalAll inv rest hp.2 hn).bind fun _ _ => trivial

end

/-- **The whole run.** Evaluation of a document finds nodes with the one property or ends with an
error with the other. -/
theorem evaluate {document : Value} {maxDepth : Nat} {chain : Chain}
    (inv : Invariant ⟨document, maxDepth⟩ σ I E) (h : ChainWithin σ chain) :
    Ends (fun rs => ∀ m ∈ rs, I m) E (evaluate maxDepth chain document) :=
  inv.selectChain chain h (List.forall_mem_singleton.2 inv.root)

end Invariant

end JsonPath.Query

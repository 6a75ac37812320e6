import JsonPath.Proofs.Evaluation.Descent
import JsonPath.Proofs.Function.Outcome
import JsonPath.Proofs.Query.Scope

/-!
# Evaluation wherever a node is

What a chain finds from a node depends on the value of the node, and neither on where the node is
nor on the document around it, unless a predicate goes back to the root or a function asks for a
place. The place of the node is where the places of everything that is found begin; from a synthetic
node only synthetic nodes are found.

Relocation takes what was found in a value by itself to where the value is. It changes no value, so
that whatever evaluation asks of a node or an operand stays the same; and it goes along with a step
to a part. So one evaluation runs along the other, selector by selector.

* `Path.relocate`, `Node.relocate`, `Operand.relocate`, `EvalError.relocate` — paths read from a
  base on.
* `relocated` — an outcome relocated, with a rule for each way of putting steps together.
* `Scope.IsLocal` — a scope within which the place of a node does not matter.
* `selectChain_relocated`, `eval_relocated` — one evaluation along the other.
* `selectChain_node_iff` — a chain at a node, by the evaluation of the value as a document.
-/

namespace JsonPath

variable {base : Option Path}

/-! ## Relocation -/

/-- A path read from a base on; there is no place without both. -/
def Path.relocate (base path : Option Path) : Option Path :=
  base.bind fun p => path.map fun q => ⟨p.steps ++ q.steps⟩

namespace Path

@[simp] theorem relocate_none (base : Option Path) : relocate base none = none := by
  cases base <;> rfl

@[simp] theorem relocate_root (base : Option Path) : relocate base (some root) = base := by
  cases base <;> simp [relocate, root]

theorem relocate_child (path : Option Path) (s : Step) :
    relocate base (path.map (·.child s)) = (relocate base path).map (·.child s) := by
  cases base <;> cases path <;> simp [relocate, child]

end Path

namespace Node

def relocate (base : Option Path) (n : Node) : Node := ⟨n.value, Path.relocate base n.path⟩

@[simp] theorem value_relocate (n : Node) : (n.relocate base).value = n.value := rfl

@[simp] theorem relocate_synthetic (v : Value) : (synthetic v).relocate base = synthetic v := by
  simp [relocate, synthetic]

@[simp] theorem relocate_root (v : Value) : (root v).relocate base = ⟨v, base⟩ := by
  simp [relocate, root]

theorem relocate_part (n : Node) (s : Step) (v : Value) :
    (n.part s v).relocate base = (n.relocate base).part s v := by
  simp [relocate, part, Path.relocate_child]

/-! The parts of a relocated node are the relocated parts. -/

theorem member?_relocate (n : Node) (name : String) :
    (n.relocate base).member? name = (n.member? name).map (relocate base) := by
  simp [member?, Function.comp_def, relocate_part]

theorem element?_relocate (n : Node) (i : Nat) :
    (n.relocate base).element? i = (n.element? i).map (relocate base) := by
  simp [element?, Function.comp_def, relocate_part]

theorem elementAt?_relocate (n : Node) (i : Int) :
    (n.relocate base).elementAt? i = (n.elementAt? i).map (relocate base) := by
  simp only [elementAt?, value_relocate, element?_relocate]
  generalize (if i < 0 then i + n.value.elements.length else i) = k
  split <;> rfl

theorem children_relocate (n : Node) :
    (n.relocate base).children = n.children.map (relocate base) := by
  simp [children, relocate_part]

end Node

namespace Operand

def relocate (base : Option Path) : Operand → Operand
  | nodes ns => nodes (ns.map (Node.relocate base))
  | o => o

@[simp] theorem detached_relocate (o : Operand) : (o.relocate base).detached = o.detached := by
  cases o <;> simp [relocate, detached]

@[simp] theorem single?_relocate (o : Operand) : (o.relocate base).single? = o.single? := by
  rw [← single?_detached, detached_relocate, single?_detached]

@[simp] theorem isTruthy_relocate (o : Operand) : (o.relocate base).isTruthy = o.isTruthy := by
  cases o <;> simp [relocate, isTruthy]

@[simp] theorem relocate_ofOption (v : Option Value) : (ofOption v).relocate base = ofOption v := by
  cases v <;> rfl

/-- An operand without nodes has no place. -/
theorem relocate_of_holds {P : Value → Prop} {o : Operand} (h : o.Holds P) :
    o.relocate base = o := by
  cases o with
  | nodes ns => exact h.elim
  | value v => rfl
  | absent => rfl

end Operand

def EvalError.relocate (base : Option Path) (e : EvalError) : EvalError :=
  { e with path := Path.relocate base e.path }

/-! ## Functions -/

/-- Whether a function reads the values of its arguments only, and says nothing about a place. -/
structure Function.IsPlaceless (f : Function) : Prop where
  call_detached : ∀ args, f.call (args.map Operand.detached) = f.call args
  ends_call : ∀ args,
    Query.Ends (Operand.Holds fun _ => True) (fun e => e.path = none) (f.call args)

theorem Function.isPlaceless_builtin (f : Builtin) : (builtin f).IsPlaceless where
  call_detached := f.call_detached
  ends_call args := (f.ends_call_plain args).mono (fun _ => id) fun _ ⟨_, he⟩ => by rw [he]; rfl

theorem Function.IsPlaceless.call_relocate {f : Function} (hf : f.IsPlaceless)
    (args : List Operand) : f.call (args.map (Operand.relocate base)) = f.call args := by
  rw [← hf.call_detached, List.map_map, ← hf.call_detached args]
  congr 2
  funext o
  exact o.detached_relocate

namespace Query

/-! ## Relocated outcomes -/

section Outcomes

variable {α α' β β' : Type}

/-- An outcome with its error relocated, and its result as `f` says. -/
def relocated (base : Option Path) (f : α → β) : Except EvalError α → Except EvalError β
  | .ok a => .ok (f a)
  | .error e => .error (e.relocate base)

variable {f : α → α'} {g : β → β'} {x : Except EvalError α} {x' : Except EvalError α'}

theorem relocated_bind {k : α → Except EvalError β} {k' : α' → Except EvalError β'}
    (hx : x' = relocated base f x) (hk : ∀ a, k' (f a) = relocated base g (k a)) :
    x' >>= k' = relocated base g (x >>= k) := by
  subst hx
  cases x with
  | ok a => exact hk a
  | error e => rfl

theorem relocated_map {k : α → β} {k' : α' → β'} (hx : x' = relocated base f x)
    (hk : ∀ a, k' (f a) = g (k a)) : x'.map k' = relocated base g (x.map k) := by
  subst hx
  cases x with
  | ok a => exact congrArg Except.ok (hk a)
  | error e => rfl

theorem relocated_collect {items : List α} {k : α → Except EvalError (List β)}
    {k' : α' → Except EvalError (List β')}
    (h : ∀ a, k' (f a) = relocated base (List.map g) (k a)) :
    collect k' (items.map f) = relocated base (List.map g) (collect k items) := by
  induction items with
  | nil => rfl
  | cons a rest ih =>
    rw [List.map_cons, collect, collect]
    refine relocated_bind (h a) fun bs => relocated_bind ih fun cs => ?_
    exact congrArg Except.ok List.map_append.symm

/-- An error that concerns the node at hand does so wherever the node is. -/
theorem relocated_recover {default : β} {default' : β'} {use : α → β} {use' : α' → β'}
    (hx : x' = relocated base f x) (hdefault : default' = g default)
    (huse : ∀ a, use' (f a) = g (use a)) :
    recover default' use' x' = relocated base g (recover default use x) := by
  subst hx hdefault
  cases x with
  | ok a => exact congrArg Except.ok (huse a)
  | error e =>
    change (if e.isRecoverable then _ else _) = relocated base g (if e.isRecoverable then _ else _)
    split <;> rfl

end Outcomes

/-! ## Steps -/

variable {n : Node}

theorem memberOrLength_relocate (name : String) (n : Node) :
    memberOrLength name (n.relocate base) = (memberOrLength name n).map (Node.relocate base) := by
  unfold memberOrLength
  rw [Node.member?_relocate, Node.value_relocate]
  cases n.member? name with
  | some child => rfl
  | none =>
    dsimp only [Option.map_none]
    split
    · split
      · simp
      · rfl
    · rfl

theorem sliceOf_relocate (s : Slice) (n : Node) :
    sliceOf s (n.relocate base) = (sliceOf s n).map (Node.relocate base) := by
  unfold sliceOf
  rw [List.map_filterMap, Node.value_relocate]
  congr 1
  funext i
  exact n.element?_relocate i

theorem lookupKey_relocate (key : Operand) (n : Node) :
    lookupKey (key.relocate base) (n.relocate base) =
      (lookupKey key n).map (Node.relocate base) := by
  unfold lookupKey
  rw [Operand.single?_relocate]
  split
  · rw [Node.member?_relocate, Option.toList_map]
  · rename_i v _ _
    split
    · cases v.asInt? with
      | none => rfl
      | some i =>
        change ((n.relocate base).elementAt? i.toInt).toList = _
        rw [Node.elementAt?_relocate, Option.toList_map]
        rfl
    · rfl
  · rfl

theorem nodeAt_relocate (path : Option Path) (l : List Step × Value) :
    (nodeAt path l).relocate base = nodeAt (Path.relocate base path) l := by
  cases base <;> cases path <;> simp [nodeAt, Node.relocate, Path.relocate]

theorem descend_relocate (limit : Nat) (path : Option Path) (room : Option Nat) (v : Value) :
    descend limit (Path.relocate base path) room v =
      relocated base (List.map (Node.relocate base)) (descend limit path room v) := by
  -- Where a descent fails depends on the locations of the value only.
  rw [descend_eq_visit, descend_eq_visit, visit, visit]
  cases v.locations.find? fun l => l.1.length == forbiddenDepth room with
  | none => simp [relocated, nodeAt_relocate]
  | some l => simp [relocated, EvalError.relocate, ← nodeAt_relocate, Node.relocate]

/-- A placeless function, called at a relocated node with relocated arguments, gives the relocated
outcome. -/
theorem callAt_relocate {f : Function} (hf : f.IsPlaceless) (args : List Operand) (n : Node) :
    callAt f (args.map (Operand.relocate base)) (n.relocate base) =
      relocated base (Operand.relocate base) (callAt f args n) := by
  unfold callAt
  rw [hf.call_relocate]
  have hends := hf.ends_call args
  cases h : f.call args with
  | ok o => exact congrArg Except.ok (Operand.relocate_of_holds (hends.of_ok h)).symm
  | error e =>
    have hpath : e.path = none := hends.of_error h
    simp [Except.mapError, relocated, EvalError.relocate, EvalError.locatedAt, hpath, Node.relocate]

theorem syntheticOf_relocate (o : Operand) :
    syntheticOf (o.relocate base) = (syntheticOf o).map (Node.relocate base) := by
  cases o <;> simp [Operand.relocate, syntheticOf]

/-! ## Selectors and predicates -/

/-- Within a local scope there is no way back to the root, and functions have no part in places. -/
structure Scope.IsLocal (σ : Scope) : Prop where
  root : ¬σ.Root
  call : ∀ {f : Function}, σ.Calls f → f.IsPlaceless

theorem Scope.isLocal_relative : Scope.relative.IsLocal where
  root := id
  call {f} hf := by
    cases f with
    | builtin f => exact Function.isPlaceless_builtin f
    | custom f => exact hf.elim

variable {σ : Scope} {document document' : Value} {maxDepth : Nat}

mutual

theorem select_relocated (hσ : σ.IsLocal) : ∀ (s : Selector) {n : Node}, s.Within σ →
    s.select ⟨document', maxDepth⟩ (n.relocate base) =
      relocated base (List.map (Node.relocate base)) (s.select ⟨document, maxDepth⟩ n)
  | .name s, n, _ => congrArg Except.ok (memberOrLength_relocate s n)
  | .wildMember, n, _ | .wildElement, n, _ => congrArg Except.ok n.children_relocate
  | .index i, n, _ => by
    rw [Selector.select, Selector.select, Node.elementAt?_relocate, Option.toList_map]
    rfl
  | .slice s, n, _ => congrArg Except.ok (sliceOf_relocate s n)
  | .descent, n, _ => descend_relocate maxDepth n.path (some maxDepth) n.value
  | .union members, n, hs => by
    rw [Selector.select, Selector.select]
    exact selectMembers_relocated hσ members hs
  | .filter p, n, hs => by
    rw [Selector.select, Selector.select, Node.children_relocate]
    refine relocated_collect fun child => ?_
    refine relocated_recover (eval_relocated hσ p hs) rfl fun v => ?_
    rw [Operand.isTruthy_relocate]
    split <;> rfl
  | .call f args, n, hs => by
    rw [Selector.select, Selector.select]
    refine relocated_recover (f := Operand.relocate base) ?_ rfl syntheticOf_relocate
    refine relocated_bind (evalAll_relocated hσ args hs.2) fun operands => ?_
    exact callAt_relocate (hσ.call hs.1) (.nodes [n] :: operands) n
  | .computed p, n, hs => by
    rw [Selector.select, Selector.select]
    exact relocated_recover (eval_relocated hσ p hs) rfl fun key => lookupKey_relocate key n

theorem selectChain_relocated (hσ : σ.IsLocal) : ∀ (chain : List Selector) (ns : List Node),
    ChainWithin σ chain →
    selectChain ⟨document', maxDepth⟩ chain (ns.map (Node.relocate base)) =
      relocated base (List.map (Node.relocate base)) (selectChain ⟨document, maxDepth⟩ chain ns)
  | [], ns, _ => rfl
  | s :: rest, ns, hs => by
    rw [selectChain_cons, selectChain_cons]
    have hstage : stage ⟨document', maxDepth⟩ s (ns.map (Node.relocate base)) =
        relocated base (List.map (Node.relocate base)) (stage ⟨document, maxDepth⟩ s ns) := by
      unfold stage
      split
      -- A list is as long after relocation, and its count is synthetic.
      · simp [relocated]
      · exact relocated_collect fun n => select_relocated hσ s hs.1
    exact relocated_bind hstage fun next => selectChain_relocated hσ rest next hs.2

theorem selectMembers_relocated (hσ : σ.IsLocal) : ∀ (members : List (List Selector)) {n : Node},
    UnionWithin σ members →
    selectMembers ⟨document', maxDepth⟩ members (n.relocate base) =
      relocated base (List.map (Node.relocate base)) (selectMembers ⟨document, maxDepth⟩ members n)
  | [], n, _ => rfl
  | chain :: rest, n, hs => by
    rw [selectMembers, selectMembers]
    refine relocated_bind (selectChain_relocated hσ chain [n] hs.1) fun first => ?_
    refine relocated_bind (selectMembers_relocated hσ rest hs.2) fun others => ?_
    exact congrArg Except.ok List.map_append.symm

theorem eval_relocated (hσ : σ.IsLocal) : ∀ (p : Predicate) {n : Node}, p.Within σ →
    p.eval ⟨document', maxDepth⟩ (n.relocate base) =
      relocated base (Operand.relocate base) (p.eval ⟨document, maxDepth⟩ n)
  | .literal _, _, _ | .current, _, _ => rfl
  | .root, n, hp => (hσ.root hp).elim
  | .fromCurrent chain, n, hp => by
    rw [Predicate.eval, Predicate.eval]
    exact relocated_map (selectChain_relocated hσ chain [n] hp) fun _ => rfl
  | .fromRoot _, n, hp => (hσ.root hp.1).elim
  | .comparison op l r, n, hp => by
    rw [Predicate.eval, Predicate.eval]
    refine relocated_bind (eval_relocated hσ l hp.1) fun left =>
      relocated_bind (eval_relocated hσ r hp.2) fun right => ?_
    rw [Operand.single?_relocate, Operand.single?_relocate]
    rfl
  | .operation op l r, n, hp => by
    rw [Predicate.eval, Predicate.eval]
    refine relocated_bind (eval_relocated hσ l hp.1) fun left =>
      relocated_bind (eval_relocated hσ r hp.2) fun right => ?_
    rw [Operand.single?_relocate, Operand.single?_relocate]
    split
    · exact congrArg Except.ok (Operand.relocate_ofOption _).symm
    · rfl
  | .negate p, n, hp => by
    rw [Predicate.eval, Predicate.eval]
    refine relocated_bind (eval_relocated hσ p hp) fun v => ?_
    rw [Operand.single?_relocate]
    exact congrArg Except.ok (Operand.relocate_ofOption _).symm
  | .and l r, n, hp => by
    rw [Predicate.eval, Predicate.eval]
    refine relocated_bind (eval_relocated hσ l hp.1) fun left => ?_
    rw [Operand.isTruthy_relocate]
    split
    · refine relocated_bind (eval_relocated hσ r hp.2) fun right => ?_
      rw [Operand.isTruthy_relocate]
      rfl
    · rfl
  | .or l r, n, hp => by
    rw [Predicate.eval, Predicate.eval]
    refine relocated_bind (eval_relocated hσ l hp.1) fun left => ?_
    rw [Operand.isTruthy_relocate]
    split
    · rfl
    · refine relocated_bind (eval_relocated hσ r hp.2) fun right => ?_
      rw [Operand.isTruthy_relocate]
      rfl
  | .not p, n, hp => by
    rw [Predicate.eval, Predicate.eval]
    refine relocated_bind (eval_relocated hσ p hp) fun v => ?_
    rw [Operand.isTruthy_relocate]
    rfl
  | .search p r, n, hp => by
    rw [Predicate.eval, Predicate.eval]
    refine relocated_bind (eval_relocated hσ p hp) fun v => ?_
    rw [Operand.single?_relocate]
    split <;> rfl
  | .call f args, n, hp => by
    rw [Predicate.eval, Predicate.eval]
    exact relocated_bind (evalAll_relocated hσ args hp.2) fun operands =>
      callAt_relocate (hσ.call hp.1) operands n

theorem evalAll_relocated (hσ : σ.IsLocal) : ∀ (args : List Predicate) {n : Node},
    ArgumentsWithin σ args →
    evalAll ⟨document', maxDepth⟩ args (n.relocate base) =
      relocated base (List.map (Operand.relocate base)) (evalAll ⟨document, maxDepth⟩ args n)
  | [], _, _ => rfl
  | p :: rest, n, hp => by
    rw [evalAll, evalAll]
    exact relocated_bind (eval_relocated hσ p hp.1) fun v =>
      relocated_bind (evalAll_relocated hσ rest hp.2) fun others => rfl

end

/-- **One run along the other.** A chain at a node gives what it gives for the value as a document,
all of it relocated to where the node is. -/
theorem selectChain_node (hσ : σ.IsLocal) (chain : Chain) (h : ChainWithin σ chain) (n : Node) :
    selectChain ⟨document, maxDepth⟩ chain [n] =
      relocated n.path (List.map (Node.relocate n.path)) (evaluate maxDepth chain n.value) := by
  have hroot : [Node.root n.value].map (Node.relocate n.path) = [n] := by simp
  have hrun : selectChain ⟨document, maxDepth⟩ chain
      ([Node.root n.value].map (Node.relocate n.path)) =
        relocated n.path (List.map (Node.relocate n.path)) (evaluate maxDepth chain n.value) :=
    selectChain_relocated hσ chain [.root n.value] h
  rw [hroot] at hrun
  exact hrun

/-- **Evaluation is relocatable.** At a node, be it located or synthetic, a chain that calls
built-in functions only and does not refer to the root succeeds just when it does on the value as a
document. It finds the same values then, in the same order, with the place of the node put before
the places in the value; and if it fails, then with the same fault, at the relocated place. -/
theorem selectChain_node_iff {chain : Chain} (h : ChainWithin .relative chain) (document : Value)
    (maxDepth : Nat) (n : Node) :
    (∀ rs, selectChain ⟨document, maxDepth⟩ chain [n] = .ok rs ↔
        ∃ ss, evaluate maxDepth chain n.value = .ok ss ∧ rs = ss.map (Node.relocate n.path)) ∧
      ∀ e, selectChain ⟨document, maxDepth⟩ chain [n] = .error e ↔
        ∃ e', evaluate maxDepth chain n.value = .error e' ∧ e = e'.relocate n.path := by
  rw [selectChain_node Scope.isLocal_relative chain h n]
  cases evaluate maxDepth chain n.value with
  | ok ss => simp [relocated, eq_comm]
  | error e => simp [relocated, eq_comm]

/-- The children of an array that pass a filter, and its length: from `$['a']` the one place is
found below it, from a synthetic node none is; and a descent that goes too deep fails below
`$['a']`. -/
theorem selectChain_node_iff_array :
    selectChain ⟨.null, 8⟩ [.union [[.filter (.not (.fromCurrent [.name "b"]))],
          [.call (.builtin .length) []]]] [⟨.array [.bool true], some ⟨[.name "a"]⟩⟩] =
        .ok [⟨.bool true, some ⟨[.name "a", .index 0]⟩⟩, .synthetic (.int 1)] ∧
      selectChain ⟨.null, 8⟩ [.union [[.filter (.not (.fromCurrent [.name "b"]))],
          [.call (.builtin .length) []]]] [.synthetic (.array [.bool true])] =
        .ok [.synthetic (.bool true), .synthetic (.int 1)] ∧
      selectChain ⟨.null, 0⟩ [.descent] [⟨.array [.bool true], some ⟨[.name "a"]⟩⟩] =
        .error ⟨.depthExceeded 0, some ⟨[.name "a", .index 0]⟩⟩ := by
  have hunion : ChainWithin .relative [.union [[.filter (.not (.fromCurrent [.name "b"]))],
      [.call (.builtin .length) []]]] := by
    simp [ChainWithin, Selector.Within, UnionWithin, Predicate.Within, ArgumentsWithin,
      Scope.relative, Function.IsBuiltin]
  have hdescent : ChainWithin .relative [.descent] := by simp [ChainWithin, Selector.Within]
  exact ⟨((selectChain_node_iff hunion _ _ _).1 _).2 ⟨_, rfl, rfl⟩,
    ((selectChain_node_iff hunion _ _ _).1 _).2 ⟨_, rfl, rfl⟩,
    ((selectChain_node_iff hdescent _ _ _).2 _).2 ⟨_, rfl, rfl⟩⟩

/-- A function of a caller that tells where its node was found. -/
def whereabouts : CustomFunction where
  name := "whereabouts"
  arity := some 1
  body
    | [.nodes [n]] => .ok (n.path.elim .null fun p => .string p.text)
    | _ => .ok .null
  stamp := 0

/-- In a chain without predicates such a function is enough to tell a node at `$['a']` from the same
value as a document. -/
theorem selectChain_node_whereabouts :
    selectChain ⟨.null, 8⟩ [.call (.custom whereabouts) []]
          [⟨.bool true, some ⟨[.name "a"]⟩⟩] = .ok [.synthetic (.string "$['a']")] ∧
      evaluate 8 [.call (.custom whereabouts) []] (.bool true) =
        .ok [.synthetic (.string "$")] ∧
      (Value.string "$['a']").same (.string "$") = false := by
  refine ⟨rfl, rfl, ?_⟩
  decide

end Query

end JsonPath

import JsonPath.Proofs.Query.Readers

/-!
# The number of arguments

A function with a fixed number of arguments is called with so many of them, and with one less as a
selector, where the node it is applied to is the first. Reading refuses all other calls, so that
they stand nowhere in what is read: not in a union, in a filter or among the arguments of another
call, whichever functions there are.

* `Function.Takes` — the numbers of arguments that a function may be called with.
* `ChainObeys` — a rule about functions and numbers of arguments, for every call in a chain.
* `chainObeys_of_parsePath` — all calls in what is read have the right number of arguments.
-/

namespace JsonPath

/-- Whether a function may be called with so many arguments. -/
def Function.Takes (f : Function) (k : Nat) : Prop := ∀ n ∈ f.arity, k = n

instance (f : Function) (k : Nat) : Decidable (f.Takes k) :=
  inferInstanceAs (Decidable (∀ n ∈ f.arity, k = n))

namespace Query

variable {rule : Function → Nat → Prop}

mutual

/-- Whether every call in a selector obeys a rule about the function and the number of its
arguments; of a selector, the node is the first. -/
def Selector.Obeys (rule : Function → Nat → Prop) : Selector → Prop
  | .union members => UnionObeys rule members
  | .filter p | .computed p => p.Obeys rule
  | .call f args => rule f (args.length + 1) ∧ ArgumentsObey rule args
  | .name _ | .wildMember | .wildElement | .index _ | .slice _ | .descent => True

def ChainObeys (rule : Function → Nat → Prop) : List Selector → Prop
  | [] => True
  | s :: rest => s.Obeys rule ∧ ChainObeys rule rest

def UnionObeys (rule : Function → Nat → Prop) : List (List Selector) → Prop
  | [] => True
  | chain :: rest => ChainObeys rule chain ∧ UnionObeys rule rest

/-- The same for every call in a predicate. -/
def Predicate.Obeys (rule : Function → Nat → Prop) : Predicate → Prop
  | .literal _ | .current | .root => True
  | .fromCurrent chain | .fromRoot chain => ChainObeys rule chain
  | .comparison _ l r | .operation _ l r | .and l r | .or l r => l.Obeys rule ∧ r.Obeys rule
  | .negate p | .not p | .search p _ => p.Obeys rule
  | .call f args => rule f args.length ∧ ArgumentsObey rule args

def ArgumentsObey (rule : Function → Nat → Prop) : List Predicate → Prop
  | [] => True
  | p :: rest => p.Obeys rule ∧ ArgumentsObey rule rest

end

theorem chainObeys_iff {chain : List Selector} :
    ChainObeys rule chain ↔ ∀ s ∈ chain, s.Obeys rule := by
  induction chain with
  | nil => simp [ChainObeys]
  | cons s chain ih => simp [ChainObeys, ih]

theorem unionObeys_iff {members : List (List Selector)} :
    UnionObeys rule members ↔ ∀ chain ∈ members, ChainObeys rule chain := by
  induction members with
  | nil => simp [UnionObeys]
  | cons chain members ih => simp [UnionObeys, ih]

theorem argumentsObey_iff {args : List Predicate} :
    ArgumentsObey rule args ↔ ∀ p ∈ args, p.Obeys rule := by
  induction args with
  | nil => simp [ArgumentsObey]
  | cons p args ih => simp [ArgumentsObey, ih]

mutual

theorem Selector.obeys_of_forall (h : ∀ f k, rule f k) : ∀ s : Selector, s.Obeys rule
  | .union members => unionObeys_of_forall h members
  | .filter p | .computed p => Predicate.obeys_of_forall h p
  | .call _ args => ⟨h _ _, argumentsObey_of_forall h args⟩
  | .name _ | .wildMember | .wildElement | .index _ | .slice _ | .descent => trivial

/-- A rule that allows everything is obeyed. -/
theorem chainObeys_of_forall (h : ∀ f k, rule f k) : ∀ chain : List Selector, ChainObeys rule chain
  | [] => trivial
  | s :: rest => ⟨Selector.obeys_of_forall h s, chainObeys_of_forall h rest⟩

theorem unionObeys_of_forall (h : ∀ f k, rule f k) :
    ∀ members : List (List Selector), UnionObeys rule members
  | [] => trivial
  | chain :: rest => ⟨chainObeys_of_forall h chain, unionObeys_of_forall h rest⟩

theorem Predicate.obeys_of_forall (h : ∀ f k, rule f k) : ∀ p : Predicate, p.Obeys rule
  | .literal _ | .current | .root => trivial
  | .fromCurrent chain | .fromRoot chain => chainObeys_of_forall h chain
  | .comparison _ l r | .operation _ l r | .and l r | .or l r =>
    ⟨Predicate.obeys_of_forall h l, Predicate.obeys_of_forall h r⟩
  | .negate p | .not p | .search p _ => Predicate.obeys_of_forall h p
  | .call _ args => ⟨h _ _, argumentsObey_of_forall h args⟩

theorem argumentsObey_of_forall (h : ∀ f k, rule f k) :
    ∀ args : List Predicate, ArgumentsObey rule args
  | [] => trivial
  | p :: rest => ⟨Predicate.obeys_of_forall h p, argumentsObey_of_forall h rest⟩

end

/-! ## Reading -/

/-- A function that takes no arguments is no selector, as it has no room for the node. -/
theorem selectorArityFault?_eq_none {f : Function} {found : Nat} :
    selectorArityFault? f found = none ↔ f.Takes (found + 1) := by
  unfold selectorArityFault? Function.Takes
  split
  · simp [*]
  · simp [*]
  · split <;> simp [*]

theorem callArityFault?_eq_none {f : Function} {found : Nat} :
    callArityFault? f found = none ↔ f.Takes found := by
  unfold callArityFault? Function.Takes
  split
  · simp [*]
  · split <;> simp [*]

theorem obeys_negated {p : Predicate} (h : p.Obeys rule) : (negated p).Obeys rule := by
  unfold negated
  split
  · trivial
  · trivial
  · exact h

/-- Readers make calls with the right number of arguments, of any functions. -/
theorem closed_obeys (functions : Registry) :
    Closed functions (Selector.Obeys Function.Takes) (Predicate.Obeys Function.Takes) where
  name _ := trivial
  wildMember := trivial
  wildElement := trivial
  index _ := trivial
  slice _ := trivial
  descent := trivial
  union _ _ h := unionObeys_iff.2 fun chain hchain => chainObeys_iff.2 (h chain hchain)
  filter h := h
  computed h := h
  selectorCall _ _ harity h := ⟨selectorArityFault?_eq_none.1 harity, argumentsObey_iff.2 h⟩
  literal _ := trivial
  current := trivial
  root := trivial
  fromCurrent _ h := chainObeys_iff.2 h
  fromRoot _ h := chainObeys_iff.2 h
  comparison _ _ _ hp hq := ⟨hp, hq⟩
  operation _ _ _ hp hq := ⟨hp, hq⟩
  and hp hq := ⟨hp, hq⟩
  or hp hq := ⟨hp, hq⟩
  not h := h
  negated := obeys_negated
  search hp _ := hp
  call _ _ _ harity h := ⟨callArityFault?_eq_none.1 harity, argumentsObey_iff.2 h⟩

/-- **What is read calls functions rightly.** Every call in the chain that any text is read to has
the right number of arguments. -/
theorem chainObeys_of_parsePath {functions : Registry} {text : String} {chain : Chain}
    (h : parsePath functions text = .ok chain) : ChainObeys Function.Takes chain :=
  chainObeys_iff.2 ((closed_obeys functions).of_parsePath h)

end Query

end JsonPath

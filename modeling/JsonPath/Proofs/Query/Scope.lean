import JsonPath.Query.Selector

/-!
# What an expression may use

What evaluation can do depends on two things that may stand anywhere in an expression, in a path
inside a filter as well as at the top: the functions that are called, as selectors or in predicates,
and references to the root of the document. A scope says which of them are allowed.

* `ChainWithin` — everything in a chain is allowed.
* `chainWithin_everything` — every chain stays within the scope that allows everything.
-/

namespace JsonPath

/-- Whether a function is one of those that every expression may call. -/
def Function.IsBuiltin : Function → Prop
  | builtin _ => True
  | custom _ => False

namespace Query

/-- What an expression may use. -/
structure Scope where
  /-- The functions that may be called. -/
  Calls : Function → Prop
  /-- Whether predicates may refer to the root of the document. -/
  Root : Prop

namespace Scope

def everything : Scope := ⟨fun _ => True, True⟩

/-- Built-in functions only. -/
def builtins : Scope := ⟨Function.IsBuiltin, True⟩

/-- Built-in functions only, and no reference to the root. -/
def relative : Scope := ⟨Function.IsBuiltin, False⟩

end Scope

mutual

/-- Whether a selector stays within a scope. -/
def Selector.Within (σ : Scope) : Selector → Prop
  | .union members => UnionWithin σ members
  | .filter p | .computed p => p.Within σ
  | .call f args => σ.Calls f ∧ ArgumentsWithin σ args
  | .name _ | .wildMember | .wildElement | .index _ | .slice _ | .descent => True

def ChainWithin (σ : Scope) : List Selector → Prop
  | [] => True
  | s :: rest => s.Within σ ∧ ChainWithin σ rest

def UnionWithin (σ : Scope) : List (List Selector) → Prop
  | [] => True
  | chain :: rest => ChainWithin σ chain ∧ UnionWithin σ rest

/-- Whether a predicate stays within a scope. -/
def Predicate.Within (σ : Scope) : Predicate → Prop
  | .literal _ | .current => True
  | .root => σ.Root
  | .fromCurrent chain => ChainWithin σ chain
  | .fromRoot chain => σ.Root ∧ ChainWithin σ chain
  | .comparison _ l r | .operation _ l r | .and l r | .or l r => l.Within σ ∧ r.Within σ
  | .negate p | .not p | .search p _ => p.Within σ
  | .call f args => σ.Calls f ∧ ArgumentsWithin σ args

def ArgumentsWithin (σ : Scope) : List Predicate → Prop
  | [] => True
  | p :: rest => p.Within σ ∧ ArgumentsWithin σ rest

end

variable {σ : Scope}

theorem chainWithin_iff {chain : List Selector} :
    ChainWithin σ chain ↔ ∀ s ∈ chain, s.Within σ := by
  induction chain with
  | nil => simp [ChainWithin]
  | cons s chain ih => simp [ChainWithin, ih]

theorem unionWithin_iff {members : List (List Selector)} :
    UnionWithin σ members ↔ ∀ chain ∈ members, ChainWithin σ chain := by
  induction members with
  | nil => simp [UnionWithin]
  | cons chain members ih => simp [UnionWithin, ih]

theorem argumentsWithin_iff {args : List Predicate} :
    ArgumentsWithin σ args ↔ ∀ p ∈ args, p.Within σ := by
  induction args with
  | nil => simp [ArgumentsWithin]
  | cons p args ih => simp [ArgumentsWithin, ih]

mutual

theorem Selector.within_everything : ∀ s : Selector, s.Within .everything
  | .union members => unionWithin_everything members
  | .filter p | .computed p => Predicate.within_everything p
  | .call _ args => ⟨trivial, argumentsWithin_everything args⟩
  | .name _ | .wildMember | .wildElement | .index _ | .slice _ | .descent => trivial

theorem chainWithin_everything : ∀ chain : List Selector, ChainWithin .everything chain
  | [] => trivial
  | s :: rest => ⟨Selector.within_everything s, chainWithin_everything rest⟩

theorem unionWithin_everything : ∀ members : List (List Selector), UnionWithin .everything members
  | [] => trivial
  | chain :: rest => ⟨chainWithin_everything chain, unionWithin_everything rest⟩

theorem Predicate.within_everything : ∀ p : Predicate, p.Within .everything
  | .literal _ | .current | .root => trivial
  | .fromCurrent chain => chainWithin_everything chain
  | .fromRoot chain => ⟨trivial, chainWithin_everything chain⟩
  | .comparison _ l r | .operation _ l r | .and l r | .or l r =>
    ⟨Predicate.within_everything l, Predicate.within_everything r⟩
  | .negate p | .not p | .search p _ => Predicate.within_everything p
  | .call _ args => ⟨trivial, argumentsWithin_everything args⟩

theorem argumentsWithin_everything : ∀ args : List Predicate, ArgumentsWithin .everything args
  | [] => trivial
  | p :: rest => ⟨Predicate.within_everything p, argumentsWithin_everything rest⟩

end

end Query

end JsonPath

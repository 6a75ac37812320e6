import JsonPath.Function.Registry
import JsonPath.Query.Slice

/-!
# Selectors and predicates

An expression is a chain of selectors: each takes every node of a list to some others. Filters and
computed positions hold predicates, which are evaluated at one node at a time and may hold chains in
their turn.
-/

namespace JsonPath.Query

/-- The comparisons. -/
inductive Comparison where
  | equal
  | notEqual
  | less
  | lessEqual
  | greater
  | greaterEqual
  deriving DecidableEq

def Comparison.text : Comparison → String
  | equal => "=="
  | notEqual => "!="
  | less => "<"
  | lessEqual => "<="
  | greater => ">"
  | greaterEqual => ">="

/-- The operations on numbers. -/
inductive Operation where
  | add
  | subtract
  | multiply
  | divide
  | modulo
  deriving DecidableEq

def Operation.text : Operation → String
  | add => "+"
  | subtract => "-"
  | multiply => "*"
  | divide => "/"
  | modulo => "%"

/-- A regular expression as written, with the program that searches for it. -/
structure RegexLiteral where
  source : String
  flags : String
  program : Regex.Program

/-- Whether a text has a match. -/
def RegexLiteral.isMatch (r : RegexLiteral) (text : String) : Bool :=
  r.program.isMatch none text.toList

/-- Two literals are the same if they are written alike. -/
def RegexLiteral.same (r s : RegexLiteral) : Bool := r.source == s.source && r.flags == s.flags

mutual

/-- One stage of a path. -/
inductive Selector where
  /-- A member; for the name `length`, the length of an array too. -/
  | name (s : String)
  /-- All children, written after a dot. -/
  | wildMember
  /-- All children, written in brackets. -/
  | wildElement
  /-- An element, counted from the end if the position is negative. -/
  | index (i : Int64)
  | slice (s : Slice)
  /-- The node and everything below it. -/
  | descent
  /-- The results of several chains from the same node. -/
  | union (members : List (List Selector))
  /-- The children for which a predicate holds. -/
  | filter (p : Predicate)
  /-- A function of the node. -/
  | call (f : Function) (args : List Predicate)
  /-- The member or element whose name or position a predicate gives. -/
  | computed (p : Predicate)

/-- A condition or value at one node. -/
inductive Predicate where
  | literal (v : Value)
  /-- The node itself. -/
  | current
  /-- The root of the document. -/
  | root
  | fromCurrent (chain : List Selector)
  | fromRoot (chain : List Selector)
  | comparison (op : Comparison) (left right : Predicate)
  | operation (op : Operation) (left right : Predicate)
  | negate (p : Predicate)
  | and (left right : Predicate)
  | or (left right : Predicate)
  | not (p : Predicate)
  | search (p : Predicate) (r : RegexLiteral)
  | call (f : Function) (args : List Predicate)

end

/-- The selectors of an expression or of a path inside one. -/
abbrev Chain := List Selector

namespace Selector

/-- The step of a path that the selector stands for, if it is a name or a position that is not
negative. -/
def step? : Selector → Option Step
  | name s => some (.name s)
  | index i => if 0 ≤ i.toInt then some (.index i.toInt.toNat) else none
  | _ => none

/-- Whether the selector counts the nodes of a list. -/
def isCount : Selector → Bool
  | call (.builtin .count) _ => true
  | _ => false

end Selector

/-! ## Sameness -/

mutual

def Selector.same : Selector → Selector → Bool
  | .name s, .name t => s == t
  | .wildMember, .wildMember => true
  | .wildElement, .wildElement => true
  | .index i, .index j => i == j
  | .slice s, .slice t => s == t
  | .descent, .descent => true
  | .union a, .union b => sameChains a b
  | .filter p, .filter q => p.same q
  | .call f ps, .call g qs => f.same g && samePredicates ps qs
  | .computed p, .computed q => p.same q
  | _, _ => false

def Predicate.same : Predicate → Predicate → Bool
  | .literal v, .literal w => v.same w
  | .current, .current => true
  | .root, .root => true
  | .fromCurrent a, .fromCurrent b => sameChain a b
  | .fromRoot a, .fromRoot b => sameChain a b
  | .comparison op l r, .comparison op' l' r' => op == op' && l.same l' && r.same r'
  | .operation op l r, .operation op' l' r' => op == op' && l.same l' && r.same r'
  | .negate p, .negate q => p.same q
  | .and l r, .and l' r' => l.same l' && r.same r'
  | .or l r, .or l' r' => l.same l' && r.same r'
  | .not p, .not q => p.same q
  | .search p r, .search q s => p.same q && r.same s
  | .call f ps, .call g qs => f.same g && samePredicates ps qs
  | _, _ => false

def sameChain : List Selector → List Selector → Bool
  | [], [] => true
  | s :: ss, t :: ts => s.same t && sameChain ss ts
  | _, _ => false

def sameChains : List (List Selector) → List (List Selector) → Bool
  | [], [] => true
  | a :: as, b :: bs => sameChain a b && sameChains as bs
  | _, _ => false

def samePredicates : List Predicate → List Predicate → Bool
  | [], [] => true
  | p :: ps, q :: qs => p.same q && samePredicates ps qs
  | _, _ => false

end

end JsonPath.Query

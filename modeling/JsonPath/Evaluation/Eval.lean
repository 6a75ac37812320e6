import JsonPath.Evaluation.Arithmetic

/-!
# Evaluation

A chain takes a list of nodes to another, one selector after the other. A selector works on each
node by itself and the results follow one another; only `count()` looks at the list as a whole.

An argument that a function does not take leaves out the node at hand: a candidate of a filter, or a
node that a function or a computed position is applied to. A descent that goes too deep ends the
evaluation.
-/

namespace JsonPath.Query

/-- What evaluation does not change: the document, and how deep a descent may go. -/
structure Context where
  document : Value
  maxDepth : Nat

/-- How deep a descent goes unless told otherwise. -/
def defaultMaxDepth : Nat := 512

/-- Applies a function to each item and joins the results; the first error counts. -/
def collect (f : α → Except ε (List β)) : List α → Except ε (List β)
  | [] => .ok []
  | a :: rest => do
    let bs ← f a
    let cs ← collect f rest
    return bs ++ cs

/-! ## Descent -/

/-- The room one level deeper, of which there may be none. -/
def deeper : Nat → Option Nat
  | 0 => none
  | room + 1 => some room

mutual

/-- A value, found at `path`, and everything below it, before what follows. `room` is how many
levels deeper the descent may go; without any, it fails where it is. -/
def descend (limit : Nat) (path : Option Path) :
    (room : Option Nat) → Value → Except EvalError (List Node)
  | none, _ => .error ⟨.depthExceeded limit, path⟩
  | some room, .array items => do
    let below ← descendItems limit path (deeper room) 0 items
    return ⟨.array items, path⟩ :: below
  | some room, .object members => do
    let below ← descendMembers limit path (deeper room) members
    return ⟨.object members, path⟩ :: below
  | some _, v => .ok [⟨v, path⟩]

def descendItems (limit : Nat) (path : Option Path) (room : Option Nat) :
    (i : Nat) → List Value → Except EvalError (List Node)
  | _, [] => .ok []
  | i, v :: rest => do
    let first ← descend limit (path.map (·.childIndex i)) room v
    let others ← descendItems limit path room (i + 1) rest
    return first ++ others

def descendMembers (limit : Nat) (path : Option Path) (room : Option Nat) :
    List (String × Value) → Except EvalError (List Node)
  | [] => .ok []
  | (name, v) :: rest => do
    let first ← descend limit (path.map (·.childName name)) room v
    let others ← descendMembers limit path room rest
    return first ++ others

end

/-! ## Steps that need no predicate -/

/-- The member of a node, or the length of an array by the name `length`. -/
def memberOrLength (name : String) (n : Node) : List Node :=
  match n.member? name with
  | some child => [child]
  | none =>
    if name == "length" then
      match n.value with
      | .array items => [Node.synthetic (.ofNat items.length)]
      | _ => []
    else []

/-- The elements that a slice picks. -/
def sliceOf (s : Slice) (n : Node) : List Node :=
  (s.indices n.value.elements.length).filterMap n.element?

/-- The part of a node that a key leads to: a name, or a whole number. -/
def lookupKey (key : Operand) (n : Node) : List Node :=
  match key.single? with
  | some (.string name) => (n.member? name).toList
  | some v =>
    if v.isNumber then ((v.asInt?).bind fun i => n.elementAt? i.toInt).toList else []
  | none => []

/-- Lets an error that only concerns the node at hand stand for `default`. -/
def recover (default : β) (use : α → β) : Except EvalError α → Except EvalError β
  | .ok a => .ok (use a)
  | .error e => if e.isRecoverable then .ok default else .error e

/-- The value of a call as a list of nodes. -/
def syntheticOf : Operand → List Node
  | .value v => [Node.synthetic v]
  | _ => []

/-- Calls a function at a node, which locates its errors. -/
def callAt (f : Function) (args : List Operand) (n : Node) : Except EvalError Operand :=
  (f.call args).mapError (·.locatedAt n.path)

/-! ## Selectors and predicates -/

mutual

/-- Applies a selector to one node. -/
def Selector.select (ctx : Context) : Selector → Node → Except EvalError (List Node)
  | .name s, n => .ok (memberOrLength s n)
  | .wildMember, n => .ok n.children
  | .wildElement, n => .ok n.children
  | .index i, n => .ok (n.elementAt? i.toInt).toList
  | .slice s, n => .ok (sliceOf s n)
  | .descent, n => descend ctx.maxDepth n.path (some ctx.maxDepth) n.value
  | .union members, n => selectMembers ctx members n
  | .filter p, n =>
    collect (fun child =>
      recover [] (fun v : Operand => if v.isTruthy then [child] else []) (p.eval ctx child))
      n.children
  | .call f args, n =>
    recover [] syntheticOf do
      let operands ← evalAll ctx args n
      callAt f (.nodes [n] :: operands) n
  | .computed p, n => recover [] (fun key => lookupKey key n) (p.eval ctx n)

/-- Applies a chain to a list of nodes. -/
def selectChain (ctx : Context) : List Selector → List Node → Except EvalError (List Node)
  | [], ns => .ok ns
  | s :: rest, ns => do
    let next ←
      if s.isCount then .ok [Node.synthetic (.ofNat ns.length)] else collect (s.select ctx) ns
    selectChain ctx rest next

/-- Applies the members of a union to one node. -/
def selectMembers (ctx : Context) : List (List Selector) → Node → Except EvalError (List Node)
  | [], _ => .ok []
  | chain :: rest, n => do
    let first ← selectChain ctx chain [n]
    let others ← selectMembers ctx rest n
    return first ++ others

/-- What a predicate stands for at a node. -/
def Predicate.eval (ctx : Context) : Predicate → Node → Except EvalError Operand
  | .literal v, _ => .ok (.value v)
  | .current, n => .ok (.nodes [n])
  | .root, _ => .ok (.nodes [Node.root ctx.document])
  | .fromCurrent chain, n => (selectChain ctx chain [n]).map .nodes
  | .fromRoot chain, _ => (selectChain ctx chain [Node.root ctx.document]).map .nodes
  | .comparison op l r, n => do
    let left ← l.eval ctx n
    let right ← r.eval ctx n
    return .bool (op.holds left.single? right.single?)
  | .operation op l r, n => do
    let left ← l.eval ctx n
    let right ← r.eval ctx n
    match left.single?, right.single? with
    | some a, some b => return .ofOption (op.apply a b)
    | _, _ => return .absent
  | .negate p, n => do
    let v ← p.eval ctx n
    return .ofOption (v.single?.bind negate?)
  | .and l r, n => do
    let left ← l.eval ctx n
    if left.isTruthy then
      let right ← r.eval ctx n
      return .bool right.isTruthy
    else return .bool false
  | .or l r, n => do
    let left ← l.eval ctx n
    if left.isTruthy then return .bool true
    else
      let right ← r.eval ctx n
      return .bool right.isTruthy
  | .not p, n => do
    let v ← p.eval ctx n
    return .bool (!v.isTruthy)
  | .search p r, n => do
    let v ← p.eval ctx n
    match v.single? with
    | some (.string s) => return .bool (r.isMatch s)
    | _ => return .bool false
  | .call f args, n => do
    let operands ← evalAll ctx args n
    callAt f operands n

/-- What some arguments stand for at a node. -/
def evalAll (ctx : Context) : List Predicate → Node → Except EvalError (List Operand)
  | [], _ => .ok []
  | p :: rest, n => do
    let v ← p.eval ctx n
    let others ← evalAll ctx rest n
    return v :: others

end

/-- Applies a chain to the root of a document. -/
def evaluate (maxDepth : Nat) (chain : Chain) (document : Value) : Except EvalError (List Node) :=
  selectChain ⟨document, maxDepth⟩ chain [Node.root document]

end JsonPath.Query

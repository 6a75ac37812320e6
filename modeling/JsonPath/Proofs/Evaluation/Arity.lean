import JsonPath.Evaluation.Expression
import JsonPath.Proofs.Evaluation.Outcome
import JsonPath.Proofs.Query.Arity

/-!
# Numbers of arguments during evaluation

Every function counts its arguments before it does anything else, and refuses a wrong number. For
what has been compiled this never happens: each call in an expression has the right number of
arguments, and evaluation hands over a value for each of them, after the node itself for a selector.

What is never done can be replaced by anything. So evaluation is taken with an arbitrary way of
calling functions, and compared with the one that counts: as long as every call obeys a rule, only
numbers of arguments that the rule allows make a difference.

* `evaluateWith` — evaluation with another way of calling functions.
* `Function.callOr` — a call that leaves wrong numbers of arguments to somebody else.
* `selectChainWith_eq`, `evalWith_eq` — one run along the other.
* `Expression.compile_arity` — the number of arguments is settled when an expression is compiled.
-/

namespace JsonPath

/-! ## Counting arguments -/

/-- A way of calling functions. -/
abbrev Calling : Type := Function → List Operand → Except EvalError Operand

namespace Function

/-- What a function gives for a wrong number of arguments. -/
def refuse : Calling := fun f args =>
  .error (.invalidArgument f.name (.wrongCount (f.arity.getD 0) args.length))

/-- Calls a function with a right number of arguments, and leaves the others to `other`. -/
def callOr (other : Calling) : Calling := fun f args =>
  if f.Takes args.length then f.call args else other f args

theorem callOr_of_takes (other : Calling) {f : Function} {args : List Operand}
    (h : f.Takes args.length) : callOr other f args = f.call args := if_pos h

/-- **The check.** A wrong number of arguments is refused, whatever the arguments are. -/
theorem call_of_ne {f : Function} {n : Nat} {args : List Operand} (hn : f.arity = some n)
    (h : args.length ≠ n) :
    f.call args = .error (.invalidArgument f.name (.wrongCount n args.length)) := by
  cases f with
  | builtin b =>
    obtain rfl := Option.some.inj hn
    show b.call args = _
    unfold Builtin.call
    split <;> first | rfl | exact absurd rfl h
  | custom g =>
    show g.call args = _
    unfold CustomFunction.call
    rw [show g.arity = some n from hn]
    exact if_neg h

theorem callOr_refuse : callOr refuse = Function.call := by
  funext f args
  by_cases h : f.Takes args.length
  · exact callOr_of_takes refuse h
  · obtain ⟨n, hn, hne⟩ : ∃ n, f.arity = some n ∧ args.length ≠ n := by
      simpa [Function.Takes] using h
    rw [callOr, if_neg h, call_of_ne hn hne, refuse, hn]
    rfl

end Function

namespace Query

/-! ## Evaluation with any calls -/

/-- Calls a function at a node in some way. -/
def callAtWith (call : Calling) (f : Function) (args : List Operand) (n : Node) :
    Except EvalError Operand :=
  (call f args).mapError (·.locatedAt n.path)

mutual

/-- Applies a selector to one node, with calls of some kind. -/
def Selector.selectWith (call : Calling) (ctx : Context) :
    Selector → Node → Except EvalError (List Node)
  | .name s, n => .ok (memberOrLength s n)
  | .wildMember, n => .ok n.children
  | .wildElement, n => .ok n.children
  | .index i, n => .ok (n.elementAt? i.toInt).toList
  | .slice s, n => .ok (sliceOf s n)
  | .descent, n => descend ctx.maxDepth n.path (some ctx.maxDepth) n.value
  | .union members, n => selectMembersWith call ctx members n
  | .filter p, n =>
    collect (fun child =>
      recover [] (fun v : Operand => if v.isTruthy then [child] else [])
        (p.evalWith call ctx child)) n.children
  | .call f args, n =>
    recover [] syntheticOf do
      let operands ← evalAllWith call ctx args n
      callAtWith call f (.nodes [n] :: operands) n
  | .computed p, n => recover [] (fun key => lookupKey key n) (p.evalWith call ctx n)

def selectChainWith (call : Calling) (ctx : Context) :
    List Selector → List Node → Except EvalError (List Node)
  | [], ns => .ok ns
  | s :: rest, ns => do
    let next ←
      if s.isCount then .ok [Node.synthetic (.ofNat ns.length)]
      else collect (s.selectWith call ctx) ns
    selectChainWith call ctx rest next

def selectMembersWith (call : Calling) (ctx : Context) :
    List (List Selector) → Node → Except EvalError (List Node)
  | [], _ => .ok []
  | chain :: rest, n => do
    let first ← selectChainWith call ctx chain [n]
    let others ← selectMembersWith call ctx rest n
    return first ++ others

/-- What a predicate stands for at a node, with calls of some kind. -/
def Predicate.evalWith (call : Calling) (ctx : Context) :
    Predicate → Node → Except EvalError Operand
  | .literal v, _ => .ok (.value v)
  | .current, n => .ok (.nodes [n])
  | .root, _ => .ok (.nodes [Node.root ctx.document])
  | .fromCurrent chain, n => (selectChainWith call ctx chain [n]).map .nodes
  | .fromRoot chain, _ => (selectChainWith call ctx chain [Node.root ctx.document]).map .nodes
  | .comparison op l r, n => do
    let left ← l.evalWith call ctx n
    let right ← r.evalWith call ctx n
    return .bool (op.holds left.single? right.single?)
  | .operation op l r, n => do
    let left ← l.evalWith call ctx n
    let right ← r.evalWith call ctx n
    match left.single?, right.single? with
    | some a, some b => return .ofOption (op.apply a b)
    | _, _ => return .absent
  | .negate p, n => do
    let v ← p.evalWith call ctx n
    return .ofOption (v.single?.bind negate?)
  | .and l r, n => do
    let left ← l.evalWith call ctx n
    if left.isTruthy then
      let right ← r.evalWith call ctx n
      return .bool right.isTruthy
    else return .bool false
  | .or l r, n => do
    let left ← l.evalWith call ctx n
    if left.isTruthy then return .bool true
    else
      let right ← r.evalWith call ctx n
      return .bool right.isTruthy
  | .not p, n => do
    let v ← p.evalWith call ctx n
    return .bool (!v.isTruthy)
  | .search p r, n => do
    let v ← p.evalWith call ctx n
    match v.single? with
    | some (.string s) => return .bool (r.isMatch s)
    | _ => return .bool false
  | .call f args, n => do
    let operands ← evalAllWith call ctx args n
    callAtWith call f operands n

def evalAllWith (call : Calling) (ctx : Context) :
    List Predicate → Node → Except EvalError (List Operand)
  | [], _ => .ok []
  | p :: rest, n => do
    let v ← p.evalWith call ctx n
    let others ← evalAllWith call ctx rest n
    return v :: others

end

/-- Applies a chain to the root of a document, with calls of some kind. -/
def evaluateWith (call : Calling) (maxDepth : Nat) (chain : Chain) (document : Value) :
    Except EvalError (List Node) :=
  selectChainWith call ⟨document, maxDepth⟩ chain [Node.root document]

/-! ## One run along the other -/

/-- Whether a way of calling functions does what the functions do wherever a rule allows a call. -/
def Agrees (rule : Function → Nat → Prop) (call : Calling) : Prop :=
  ∀ (f : Function) (args : List Operand), rule f args.length → call f args = f.call args

variable {call : Calling} {ctx : Context} {rule : Function → Nat → Prop}

/-- There is a value for each argument. -/
theorem length_of_evalAll {args : List Predicate} {n : Node} {operands : List Operand}
    (h : evalAll ctx args n = .ok operands) : operands.length = args.length := by
  induction args generalizing operands with
  | nil =>
    obtain rfl := Except.ok.inj h
    rfl
  | cons p rest ih =>
    rw [evalAll, bind_eq_ok] at h
    obtain ⟨v, -, h⟩ := h
    obtain ⟨others, hothers, h⟩ := bind_eq_ok.1 h
    obtain rfl := Except.ok.inj h
    rw [List.length_cons, List.length_cons, ih hothers]

/-- What comes after the arguments may rely on their number. -/
theorem evalAll_bind_congr {α : Type} {args : List Predicate} {n : Node}
    {f g : List Operand → Except EvalError α}
    (h : ∀ operands, operands.length = args.length → f operands = g operands) :
    (evalAll ctx args n >>= f) = evalAll ctx args n >>= g := by
  cases hall : evalAll ctx args n with
  | error e => rfl
  | ok operands => exact h operands (length_of_evalAll hall)

theorem callAtWith_eq (h : Agrees rule call) {f : Function} {args : List Operand}
    (hrule : rule f args.length) (n : Node) : callAtWith call f args n = callAt f args n := by
  rw [callAtWith, callAt, h f args hrule]

mutual

theorem selectWith_eq (h : Agrees rule call) : ∀ (s : Selector) (n : Node), s.Obeys rule →
    s.selectWith call ctx n = s.select ctx n
  | .name _, _, _ | .wildMember, _, _ | .wildElement, _, _ | .index _, _, _ | .slice _, _, _
  | .descent, _, _ => rfl
  | .union members, n, hs => by
    rw [Selector.selectWith, Selector.select]
    exact selectMembersWith_eq h members n hs
  | .filter p, n, hs => by
    rw [Selector.selectWith, Selector.select]
    simp only [fun child => evalWith_eq h p child hs]
  | .call f args, n, hs => by
    rw [Selector.selectWith, Selector.select, evalAllWith_eq h args n hs.2]
    congr 1
    refine evalAll_bind_congr fun operands hlength => callAtWith_eq h ?_ n
    rw [List.length_cons, hlength]
    exact hs.1
  | .computed p, n, hs => by
    rw [Selector.selectWith, Selector.select, evalWith_eq h p n hs]

theorem selectChainWith_eq (h : Agrees rule call) : ∀ (chain : List Selector) (ns : List Node),
    ChainObeys rule chain → selectChainWith call ctx chain ns = selectChain ctx chain ns
  | [], _, _ => rfl
  | s :: rest, ns, hs => by
    have hselect : s.selectWith call ctx = s.select ctx :=
      funext fun n => selectWith_eq h s n hs.1
    have hrest : selectChainWith call ctx rest = selectChain ctx rest :=
      funext fun next => selectChainWith_eq h rest next hs.2
    rw [selectChainWith, selectChain, hselect, hrest]

theorem selectMembersWith_eq (h : Agrees rule call) : ∀ (members : List (List Selector)) (n : Node),
    UnionObeys rule members → selectMembersWith call ctx members n = selectMembers ctx members n
  | [], _, _ => rfl
  | chain :: rest, n, hs => by
    rw [selectMembersWith, selectMembers, selectChainWith_eq h chain [n] hs.1,
      selectMembersWith_eq h rest n hs.2]

theorem evalWith_eq (h : Agrees rule call) : ∀ (p : Predicate) (n : Node), p.Obeys rule →
    p.evalWith call ctx n = p.eval ctx n
  | .literal _, _, _ | .current, _, _ | .root, _, _ => rfl
  | .fromCurrent chain, n, hp => by
    rw [Predicate.evalWith, Predicate.eval, selectChainWith_eq h chain [n] hp]
  | .fromRoot chain, n, hp => by
    rw [Predicate.evalWith, Predicate.eval, selectChainWith_eq h chain [.root ctx.document] hp]
  | .comparison _ l r, n, hp | .and l r, n, hp | .or l r, n, hp => by
    rw [Predicate.evalWith, Predicate.eval, evalWith_eq h l n hp.1, evalWith_eq h r n hp.2]
  | .operation _ l r, n, hp => by
    rw [Predicate.evalWith, Predicate.eval, evalWith_eq h r n hp.2]
    exact congrArg (· >>= _) (evalWith_eq h l n hp.1)
  | .negate p, n, hp | .not p, n, hp => by
    rw [Predicate.evalWith, Predicate.eval, evalWith_eq h p n hp]
  | .search p _, n, hp => by
    rw [Predicate.evalWith, Predicate.eval]
    exact congrArg (· >>= _) (evalWith_eq h p n hp)
  | .call f args, n, hp => by
    rw [Predicate.evalWith, Predicate.eval, evalAllWith_eq h args n hp.2]
    refine evalAll_bind_congr fun operands hlength => callAtWith_eq h ?_ n
    rw [hlength]
    exact hp.1

theorem evalAllWith_eq (h : Agrees rule call) : ∀ (args : List Predicate) (n : Node),
    ArgumentsObey rule args → evalAllWith call ctx args n = evalAll ctx args n
  | [], _, _ => rfl
  | p :: rest, n, hp => by
    rw [evalAllWith, evalAll, evalWith_eq h p n hp.1, evalAllWith_eq h rest n hp.2]

end

/-- Evaluation with calls that count is evaluation. -/
theorem evaluateWith_call : evaluateWith Function.call = evaluate := by
  funext maxDepth chain document
  have hagrees : Agrees (fun _ _ => True) Function.call := fun _ _ _ => rfl
  exact selectChainWith_eq hagrees chain _ (chainObeys_of_forall (fun _ _ => trivial) chain)

/-- A chain that no text is read to can reach the check: `abs` of a node and one argument more. -/
example : evaluate 0 [.call (.builtin .abs) [.current]] .null = .ok [] ∧
    evaluateWith (Function.callOr fun _ _ => .ok (.value .null)) 0
      [.call (.builtin .abs) [.current]] .null = .ok [.synthetic .null] := ⟨rfl, rfl⟩

end Query

namespace Expression

open Query

/-- **The number of arguments is settled by compiling.** Whatever text and functions an expression
is compiled from, every call in it has just as many arguments as its function takes, and one less as
a selector. Evaluation refuses wrong numbers; but on no document and for no depth does it make a
difference what is done instead of refusing, and so this is never reached. -/
theorem compile_arity {functions : Registry} {text : String} {e : Expression}
    (h : compile functions text = .ok e) :
    ChainObeys Function.Takes e.selectors ∧
      evaluateWith (Function.callOr Function.refuse) = Query.evaluate ∧
      ∀ (other : Calling) (maxDepth : Nat) (document : Value),
        evaluateWith (Function.callOr other) maxDepth e.selectors document =
          e.evaluateTo maxDepth document := by
  have hobeys := chainObeys_of_parsePath (compile_eq_ok.1 h).2
  refine ⟨hobeys, ?_, fun other maxDepth document => ?_⟩
  · rw [Function.callOr_refuse, evaluateWith_call]
  · exact selectChainWith_eq (fun _ _ => Function.callOr_of_takes other) e.selectors _ hobeys

/-- A call without arguments inside a selector in a union, and a function for any number of
arguments, one of them with a selector. -/
theorem compile_arity_nested :
    ∃ e, compile ((Registry.empty.register ⟨"now", some 0, fun _ => .ok (.int 2), 0⟩).register
        ⟨"any", none, fun args => .ok (.ofNat args.length), 1⟩)
        "$[@.contains(now()), ?any(@.length(), 'b') > 1]" = .ok e ∧
      ChainObeys Function.Takes e.selectors ∧
      ∀ other, evaluateWith (Function.callOr other) 8 e.selectors (.array [.int 2]) =
        .ok [.synthetic (.bool true), ⟨.int 2, some ⟨[.index 0]⟩⟩] := by
  have h : compile ((Registry.empty.register ⟨"now", some 0, fun _ => .ok (.int 2), 0⟩).register
      ⟨"any", none, fun args => .ok (.ofNat args.length), 1⟩)
      "$[@.contains(now()), ?any(@.length(), 'b') > 1]" = .ok ⟨_, _⟩ :=
    compile_eq_ok.2 ⟨rfl, (readAll_of_lexemes (by cbv) rfl).trans rfl⟩
  obtain ⟨hobeys, -, heval⟩ := compile_arity h
  exact ⟨_, h, hobeys, fun other => (heval other 8 _).trans rfl⟩

end Expression

end JsonPath

import JsonPath.Function.Call

/-!
# Functions of callers

Callers may add functions of their own. They are found by name when an expression is compiled, after
the built-in ones. A body cannot be compared with another, so each comes with a stamp: functions are
the same if their names, arities and stamps are.
-/

namespace JsonPath

/-- A function of a caller. -/
structure CustomFunction where
  name : String
  /-- The number of arguments; without one, any number is taken. -/
  arity : Option Nat
  body : List Operand → Except EvalError Value
  /-- Tells the body from all others. -/
  stamp : Nat

namespace CustomFunction

def same (f g : CustomFunction) : Bool :=
  f.name == g.name && f.arity == g.arity && f.stamp == g.stamp

def call (f : CustomFunction) (args : List Operand) : Except EvalError Operand :=
  match f.arity with
  | some n =>
    if args.length = n then (f.body args).map Operand.value
    else .error (.invalidArgument f.name (.wrongCount n args.length))
  | none => (f.body args).map Operand.value

end CustomFunction

/-- A function that an expression calls. -/
inductive Function where
  | builtin (f : Builtin)
  | custom (f : CustomFunction)

namespace Function

def name : Function → String
  | builtin f => f.name
  | custom f => f.name

/-- The number of arguments, if it is fixed; the node that a selector is applied to counts. -/
def arity : Function → Option Nat
  | builtin f => some f.arity
  | custom f => f.arity

def same : Function → Function → Bool
  | builtin f, builtin g => f == g
  | custom f, custom g => f.same g
  | _, _ => false

def call : Function → List Operand → Except EvalError Operand
  | builtin f, args => f.call args
  | custom f, args => f.call args

end Function

/-- The functions that a caller has added, one for each name. -/
structure Registry where
  functions : List (String × CustomFunction) := []

namespace Registry

def empty : Registry := {}

/-- Adds a function; it takes the place of one with its name. -/
def register (r : Registry) (f : CustomFunction) : Registry :=
  ⟨Members.insert f.name f r.functions⟩

def get? (r : Registry) (name : String) : Option CustomFunction := r.functions.lookup name

def size (r : Registry) : Nat := r.functions.length

/-- The function of a name: a built-in one before one that was added. -/
def resolve? (r : Registry) (name : String) : Option Function :=
  match Builtin.ofName? name with
  | some f => some (.builtin f)
  | none => (r.get? name).map .custom

end Registry

end JsonPath

import JsonPath.Location.Text

/-!
# Errors of evaluation

A path that matches nothing is no error. Only two things are: a descent beyond the depth limit, and
an argument that a function does not take; the latter only leaves out the node that it came up at.
-/

namespace JsonPath

/-- What a function finds wrong with its arguments. -/
inductive ArgumentFault where
  | wrongCount (expected found : Nat)
  /-- A function, what it requires, and the kind of value it got. -/
  | wrongType (function expected found : String)
  | invalidPattern
  | other (message : String)

def ArgumentFault.message : ArgumentFault → String
  | wrongCount expected found =>
    "expected " ++ toString expected ++ " argument(s), got " ++ toString found
  | wrongType function expected found => function ++ "() requires " ++ expected ++ ", got " ++ found
  | invalidPattern => "invalid pattern"
  | other message => message

/-- Why evaluation fails. -/
inductive EvalFault where
  /-- Recursive descent went below the limit. -/
  | depthExceeded (limit : Nat)
  | invalidArgument (function : String) (fault : ArgumentFault)

def EvalFault.message : EvalFault → String
  | depthExceeded limit => "maximum recursion depth of " ++ toString limit ++ " exceeded"
  | invalidArgument function fault =>
    "invalid argument to '" ++ function ++ "': " ++ fault.message

/-- A fault, and the path of the node at which it came up, if that has one. -/
structure EvalError where
  fault : EvalFault
  path : Option Path := none

namespace EvalError

def invalidArgument (function : String) (fault : ArgumentFault) : EvalError :=
  ⟨.invalidArgument function fault, none⟩

/-- Adds a location; one that is known already stays. -/
def locatedAt (e : EvalError) (path : Option Path) : EvalError := { e with path := e.path.or path }

/-- Whether the fault only leaves out the node at hand. -/
def isRecoverable (e : EvalError) : Bool :=
  match e.fault with
  | .invalidArgument _ _ => true
  | .depthExceeded _ => false

def message (e : EvalError) : String :=
  match e.path with
  | some p => e.fault.message ++ " at " ++ p.text
  | none => e.fault.message

end EvalError

end JsonPath

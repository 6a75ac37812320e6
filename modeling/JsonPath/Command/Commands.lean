import JsonPath.Edit.Flat
import JsonPath.Evaluation.Expression
import JsonPath.Json.Reader

/-!
# Commands

What the program does for each of its commands: texts in, a value out. The expression or path is
compiled first, then a new value is read, then the input.
-/

namespace JsonPath.Command

/-- Why a command fails. -/
inductive CommandError where
  | compile (e : ParseError)
  | eval (e : EvalError)
  | json
  | flatten (e : FlattenError)
  | noInput
  /-- There is no way to store at the path. -/
  | unreachable (path : Path)

def CommandError.message : CommandError → String
  | compile e => "Compile error: " ++ e.message
  | eval e => "Evaluation error: " ++ e.message
  | json => "Invalid JSON"
  | flatten e => "Flatten error: " ++ e.message
  | noInput => "No input provided. Use --input or pipe JSON to stdin."
  | unreachable path =>
    "Cannot set " ++ path.text ++
      ": the location is missing or a value of another type is in the way"

/-- The result of a command. -/
abbrev Result := Except CommandError

def compile (text : String) : Result Expression :=
  (Expression.compile Registry.empty text).mapError .compile

def readValue (text : String) : Result Value :=
  match Json.parse? text with
  | some v => .ok v
  | none => .error .json

def readInput : Option String → Result Value
  | some text => readValue text
  | none => .error .noInput

/-- Compiles an expression, and no more. -/
def check (text : String) : Result Unit := do
  let _ ← compile text
  return ()

/-- Evaluates an expression on the input. -/
def query (text : String) (o : OutputForm) (maxDepth : Option Nat) (input : Option String) :
    Result Value := do
  let e ← compile text
  let document ← readInput input
  let nodes ← (e.evaluateTo (maxDepth.getD Query.defaultMaxDepth) document).mapError .eval
  return (assemble o nodes).toValue

/-- The input without the nodes of an expression. -/
def remove (text : String) (input : Option String) : Result Value := do
  let e ← compile text
  let document ← readInput input
  let (document, _) ← (e.remove document).mapError .eval
  return document

/-- The input with a new value in the place of the nodes of an expression. -/
def replace (text : String) (value : String) (input : Option String) : Result Value := do
  let e ← compile text
  let new ← readValue value
  let document ← readInput input
  let (document, _) ← (e.replaceAll new document).mapError .eval
  return document

/-- The input with a new value at a path. -/
def set (path : String) (value : String) (create : Bool) (input : Option String) :
    Result Value := do
  let p ← (Path.parse path).mapError .compile
  let new ← readValue value
  let document ← readInput input
  let (document, stored) := p.store new create document
  if stored then return document else throw (.unreachable p)

/-- The flat form of the input. -/
def flatten (input : Option String) : Result Value := do
  return JsonPath.flatten (← readInput input)

/-- The document whose flat form is the input. -/
def unflatten (input : Option String) : Result Value := do
  (JsonPath.unflatten (← readInput input)).mapError .flatten

end JsonPath.Command

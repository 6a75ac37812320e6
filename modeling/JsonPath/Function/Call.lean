import JsonPath.Evaluation.Node
import JsonPath.Function.Builtin
import JsonPath.Number.Notation
import JsonPath.Regex.Reader

/-!
# Calling built-in functions

A call with an absent argument is absent, and one with an argument of the wrong kind fails.
Functions of numbers keep integers exact: where an exact result does not fit, sums and products go
on as floats and the absolute value is absent.
-/

namespace JsonPath.Builtin

/-- The function does not take a value of this kind. -/
def wrongType (f : Builtin) (expected : String) (found : Value) : Except EvalError α :=
  .error (.invalidArgument f.name (.wrongType f.name expected found.typeName))

/-! ## Numbers -/

/-- Applies a function to a number. -/
def numeric (f : Builtin) (exact : Int64 → Option Int64) (rounded : Float → Float)
    (arg : Operand) : Except EvalError Operand :=
  match arg.single? with
  | none => .ok .absent
  | some (.int n) => .ok (.ofOption ((exact n).map .int))
  | some (.float x) => .ok (.value (.float (rounded x)))
  | some v => f.wrongType "a number" v

/-- Drops blanks at both ends. -/
def trim (cs : List Char) : List Char :=
  ((cs.dropWhile Text.isBlank).reverse.dropWhile Text.isBlank).reverse

/-- The number that a string writes. -/
def numberOfText? (s : String) : Option Value :=
  let cs := trim s.toList
  ((Number.parseInt? cs).map Value.int).or ((Number.parseFloat? cs).map Value.float)

/-- Numbers stay; strings that write a number become it, and others are absent. -/
def callToNumber (arg : Operand) : Except EvalError Operand :=
  match arg.single? with
  | none => .ok .absent
  | some (.int n) => .ok (.value (.int n))
  | some (.float x) => .ok (.value (.float x))
  | some (.string s) => .ok (.ofOption (numberOfText? s))
  | some v => toNumber.wrongType "a number or string" v

/-! ## Aggregates -/

/-- The items to aggregate: the elements of a single array, or the values of several nodes or of
none. -/
def items? (f : Builtin) : Operand → Except EvalError (Option (List Value))
  | .absent => .ok none
  | .value (.array items) => .ok (some items)
  | .value v => f.wrongType "an array" v
  | .nodes [n] =>
    match n.value with
    | .array items => .ok (some items)
    | v => f.wrongType "an array" v
  | .nodes ns => .ok (some (ns.map Node.value))

/-- The items to aggregate, which must be numbers. -/
def numbers? (f : Builtin) (arg : Operand) : Except EvalError (Option (List Value)) := do
  match ← f.items? arg with
  | none => return none
  | some items =>
    match items.find? fun v => !v.isNumber with
    | some bad => f.wrongType "numeric values" bad
    | none => return some items

/-- A running total: exact while it is an integer, and rounded from then on. -/
inductive Total where
  | exact (n : Int64)
  | rounded (x : Float)

namespace Total

def toFloat : Total → Float
  | exact n => Number.floatOfInt n.toInt
  | rounded x => x

def toValue : Total → Value
  | exact n => .int n
  | rounded x => .float x

/-- Adds a number; other values count as nothing. -/
def add (t : Total) (v : Value) : Total :=
  let sum := rounded (t.toFloat + v.asFloat?.getD 0.0)
  match t, v with
  | exact s, .int n =>
    match Number.ofInt? (s.toInt + n.toInt) with
    | some k => exact k
    | none => sum
  | _, _ => sum

end Total

/-- A running product, exact while it is an integer, and the same product rounded all along. -/
structure Product where
  exact : Option Int64
  rounded : Float

/-- Multiplies by a number; other values count as one. -/
def Product.mul (p : Product) (v : Value) : Product :=
  { exact := match p.exact, v with
      | some k, .int n => Number.ofInt? (k.toInt * n.toInt)
      | _, _ => none
    rounded := p.rounded * v.asFloat?.getD 1.0 }

def Product.toValue (p : Product) : Value :=
  match p.exact with
  | some n => .int n
  | none => .float p.rounded

def callSum (arg : Operand) : Except EvalError Operand := do
  match ← sum.numbers? arg with
  | none => return .absent
  | some items => return .value (items.foldl Total.add (.exact 0)).toValue

/-- The product of nothing is absent. -/
def callProd (arg : Operand) : Except EvalError Operand := do
  match ← prod.numbers? arg with
  | none | some [] => return .absent
  | some items => return .value (items.foldl Product.mul ⟨some 1, 1.0⟩).toValue

/-- The mean of nothing is absent; a mean is a float. -/
def callAvg (arg : Operand) : Except EvalError Operand := do
  match ← avg.numbers? arg with
  | none | some [] => return .absent
  | some items =>
    let total := (items.filterMap Value.asFloat?).foldl (· + ·) (-0.0)
    return .value (.float (total / Number.floatOfNat items.length))

/-- The best of some items; of equal ones the first. An item is better if it compares as
`wanted`. -/
def extreme (f : Builtin) (wanted : Ordering) (best : Option Value) :
    List Value → Except EvalError (Option Value)
  | [] => .ok best
  | item :: rest =>
    if !item.isNumber && !item.isString then f.wrongType "numbers or strings" item
    else
      match best with
      | none => extreme f wanted (some item) rest
      | some current =>
        match item.compare? current with
        | some order => extreme f wanted (some (if order == wanted then item else current)) rest
        | none => f.wrongType "values of one type" item

/-- The least or the greatest item; there is none of nothing. -/
def callExtreme (f : Builtin) (wanted : Ordering) (arg : Operand) : Except EvalError Operand := do
  match ← f.items? arg with
  | none => return .absent
  | some items => return .ofOption (← f.extreme wanted none items)

/-! ## Structure -/

/-- The number of elements, members or characters. -/
def callLength (arg : Operand) : Except EvalError Operand :=
  match arg.single? with
  | none => .ok .absent
  | some (.string s) => .ok (.value (.ofNat s.toList.length))
  | some (.array items) => .ok (.value (.ofNat items.length))
  | some (.object members) => .ok (.value (.ofNat members.length))
  | some v => length.wrongType "an array, object or string" v

/-- The number of nodes; a value counts as one. -/
def countOf : Operand → Nat
  | .nodes ns => ns.length
  | .value _ => 1
  | .absent => 0

def callKeys (arg : Operand) : Except EvalError Operand :=
  match arg.single? with
  | none => .ok .absent
  | some (.object members) => .ok (.value (.array (members.map fun m => .string m.1)))
  | some v => keys.wrongType "an object" v

def callValues (arg : Operand) : Except EvalError Operand :=
  match arg.single? with
  | none => .ok .absent
  | some (.object members) => .ok (.value (.array (members.map Prod.snd)))
  | some v => values.wrongType "an object" v

/-! ## Strings -/

/-- Whether a text occurs in another one. -/
def occursIn (part : List Char) : List Char → Bool
  | [] => part.isEmpty
  | c :: cs => part.isPrefixOf (c :: cs) || occursIn part cs

/-- Whether an array has an equivalent element, or a string the other one in it. -/
def callContains (haystack needle : Operand) : Except EvalError Operand :=
  match haystack.single?, needle.single? with
  | some (.array items), some needle => .ok (.bool (items.any fun v => v.equivalent needle))
  | some (.string s), some (.string part) => .ok (.bool (occursIn part.toList s.toList))
  | some (.string _), some other => contains.wrongType "a string to search for" other
  | some other, some _ => contains.wrongType "an array or string" other
  | _, _ => .ok .absent

/-- Whether a string has another one at one of its ends. -/
def affix (f : Builtin) (test : List Char → List Char → Bool) (text part : Operand) :
    Except EvalError Operand :=
  match text.single?, part.single? with
  | some (.string s), some (.string p) => .ok (.bool (test p.toList s.toList))
  | some (.string _), some other => f.wrongType "strings" other
  | some other, some _ => f.wrongType "strings" other
  | _, _ => .ok .absent

/-- Splits a string at every match of a pattern. -/
def callTokenize (text pattern : Operand) : Except EvalError Operand :=
  match text.single?, pattern.single? with
  | some (.string s), some (.string p) =>
    match Regex.Program.ofText? {} p with
    | some program =>
      .ok (.value (.array ((program.split s.toList).map fun cs => .string (String.ofList cs))))
    | none => .error (.invalidArgument tokenize.name .invalidPattern)
  | some (.string _), some other => tokenize.wrongType "strings" other
  | some other, some _ => tokenize.wrongType "strings" other
  | _, _ => .ok .absent

/-! ## All of them -/

/-- Calls a function; the number of arguments must be its own. -/
def call (f : Builtin) (args : List Operand) : Except EvalError Operand :=
  match f, args with
  | abs, [a] => abs.numeric (fun n => Number.ofInt? n.toInt.natAbs) Float.abs a
  | ceil, [a] => ceil.numeric some Number.ceil a
  | floor, [a] => floor.numeric some Number.floor a
  | toNumber, [a] => callToNumber a
  | sum, [a] => callSum a
  | prod, [a] => callProd a
  | avg, [a] => callAvg a
  | min, [a] => min.callExtreme .lt a
  | max, [a] => max.callExtreme .gt a
  | length, [a] => callLength a
  | count, [a] => .ok (.value (.ofNat (countOf a)))
  | keys, [a] => callKeys a
  | values, [a] => callValues a
  | contains, [a, b] => callContains a b
  | startsWith, [a, b] => startsWith.affix List.isPrefixOf a b
  | endsWith, [a, b] => endsWith.affix List.isSuffixOf a b
  | tokenize, [a, b] => callTokenize a b
  | _, _ => .error (.invalidArgument f.name (.wrongCount f.arity args.length))

end JsonPath.Builtin

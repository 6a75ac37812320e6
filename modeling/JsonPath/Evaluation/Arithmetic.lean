import JsonPath.Json.Compare
import JsonPath.Number.Decimal
import JsonPath.Query.Selector

/-!
# Comparing and calculating

What the operators of predicates do with two values. A missing side makes every comparison false.
Integers are calculated exactly or not at all; an integer and a float are calculated in decimals, so
that `100 * 1.1` is `110`, and as floats where decimals do not reach.
-/

namespace JsonPath.Query

/-- Whether a comparison holds between two values that may be missing. -/
def Comparison.holds (op : Comparison) (left right : Option Value) : Bool :=
  match left, right with
  | some l, some r =>
    match op with
    | equal => l.equivalent r
    | notEqual => !l.equivalent r
    | less => l.compare? r == some .lt
    | lessEqual => l.compare? r == some .lt || l.compare? r == some .eq
    | greater => l.compare? r == some .gt
    | greaterEqual => l.compare? r == some .gt || l.compare? r == some .eq
  | _, _ => false

namespace Operation

/-- Two integers. A quotient that is not whole is a float. -/
def ofInts (op : Operation) (a b : Int64) : Option Value :=
  let exact (n : Int) : Option Value := (Number.ofInt? n).map .int
  let x := a.toInt
  let y := b.toInt
  match op with
  | add => exact (x + y)
  | subtract => exact (x - y)
  | multiply => exact (x * y)
  | divide =>
    if y = 0 ∨ (x = Int64.minValue.toInt ∧ y = -1) then none
    else if x.tmod y = 0 then exact (x.tdiv y)
    else some (.float (Number.floatOfInt x / Number.floatOfInt y))
  | modulo =>
    if y = 0 ∨ (x = Int64.minValue.toInt ∧ y = -1) then none else exact (x.tmod y)

/-- Two floats. There is no division by zero, and no result that is not finite. -/
def ofFloats (op : Operation) (a b : Float) : Option Value :=
  let finite (x : Float) : Option Value := if x.isFinite then some (.float x) else none
  match op with
  | add => finite (a + b)
  | subtract => finite (a - b)
  | multiply => finite (a * b)
  | divide => if b == 0.0 then none else finite (a / b)
  | modulo => if b == 0.0 then none else finite (Number.remainder a b)

/-- Two decimals; a whole result is an integer if it fits. -/
def ofDecimals (op : Operation) (a b : Number.Decimal) : Option Value := do
  let result ← match op with
    | add => a.add? b
    | subtract => a.sub? b
    | multiply => a.mul? b
    | divide => a.div? b
    | modulo => a.mod? b
  match result.toInt64? with
  | some n => some (.int n)
  | none => some (.float result.toFloat)

/-- An integer and a float, given as decimals where they have such, and as floats. -/
def ofMixed (op : Operation) (a b : Option Number.Decimal) (x y : Float) : Option Value :=
  match a, b with
  | some a, some b => (op.ofDecimals a b).or (op.ofFloats x y)
  | _, _ => op.ofFloats x y

/-- The result of an operation, if there is one. -/
def apply (op : Operation) : Value → Value → Option Value
  | .int a, .int b => op.ofInts a b
  | .float a, .float b => op.ofFloats a b
  | .int a, .float b =>
    op.ofMixed (some (.ofInt a.toInt)) (Number.Decimal.ofFloat? b) (Number.floatOfInt a.toInt) b
  | .float a, .int b =>
    op.ofMixed (Number.Decimal.ofFloat? a) (some (.ofInt b.toInt)) a (Number.floatOfInt b.toInt)
  | _, _ => none

end Operation

/-- The negative of a number, if it fits. -/
def negate? : Value → Option Value
  | .int n => (Number.ofInt? (-n.toInt)).map .int
  | .float x => some (.float (-x))
  | _ => none

end JsonPath.Query

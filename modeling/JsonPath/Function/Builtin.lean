/-!
# Built-in functions

The functions that every expression may call, with their names and numbers of arguments. No two
share a name, so `Builtin.ofName?` finds each (`ofName?_name`).
-/

namespace JsonPath

inductive Builtin where
  | abs
  | ceil
  | floor
  | toNumber
  | sum
  | prod
  | avg
  | min
  | max
  | length
  | count
  | keys
  | values
  | contains
  | startsWith
  | endsWith
  | tokenize
  deriving DecidableEq

namespace Builtin

def all : List Builtin :=
  [abs, ceil, floor, toNumber, sum, prod, avg, min, max, length, count, keys, values, contains,
    startsWith, endsWith, tokenize]

def name : Builtin → String
  | abs => "abs"
  | ceil => "ceil"
  | floor => "floor"
  | toNumber => "to_number"
  | sum => "sum"
  | prod => "prod"
  | avg => "avg"
  | min => "min"
  | max => "max"
  | length => "length"
  | count => "count"
  | keys => "keys"
  | values => "values"
  | contains => "contains"
  | startsWith => "starts_with"
  | endsWith => "ends_with"
  | tokenize => "tokenize"

/-- The number of arguments. -/
def arity : Builtin → Nat
  | contains | startsWith | endsWith | tokenize => 2
  | _ => 1

def ofName? (name : String) : Option Builtin := all.find? fun b => b.name == name

theorem ofName?_name (b : Builtin) : ofName? b.name = some b := by
  cases b <;> decide

end Builtin

end JsonPath

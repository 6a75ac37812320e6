import JsonPath.Json.Value

/-!
# Equality and order of values

Two equalities of values are in use. `same` tells integers from floats; `equivalent` compares
numbers by value, as filters do. Neither looks at the order of members. Only two numbers or two
strings are ordered.
-/

namespace JsonPath.Value

mutual

/-- Equality that tells `1` from `1.0`; members may come in any order. -/
def same : Value → Value → Bool
  | null, null => true
  | bool a, bool b => a == b
  | float a, float b => a == b
  | int a, int b => a == b
  | string a, string b => a == b
  | array a, array b => sameItems a b
  | object a, object b => a.length == b.length && sameMembers a b
  | _, _ => false

def sameItems : List Value → List Value → Bool
  | [], [] => true
  | v :: vs, w :: ws => same v w && sameItems vs ws
  | _, _ => false

/-- Whether every member on the left has its like on the right. -/
def sameMembers : List (String × Value) → List (String × Value) → Bool
  | [], _ => true
  | (name, v) :: rest, other =>
    (match other.lookup name with
      | some w => same v w
      | none => false) && sameMembers rest other

end

mutual

/-- Equality by numeric value: `1` is equivalent to `1.0`, at any depth. -/
def equivalent : Value → Value → Bool
  | null, null => true
  | bool a, bool b => a == b
  | int a, int b => a == b
  | int a, float b => Number.floatOfInt a.toInt == b
  | float a, int b => a == Number.floatOfInt b.toInt
  | float a, float b => a == b
  | string a, string b => a == b
  | array a, array b => equivalentItems a b
  | object a, object b => a.length == b.length && equivalentMembers a b
  | _, _ => false

def equivalentItems : List Value → List Value → Bool
  | [], [] => true
  | v :: vs, w :: ws => equivalent v w && equivalentItems vs ws
  | _, _ => false

/-- Whether every member on the left has an equivalent on the right. -/
def equivalentMembers : List (String × Value) → List (String × Value) → Bool
  | [], _ => true
  | (name, v) :: rest, other =>
    (match other.lookup name with
      | some w => equivalent v w
      | none => false) && equivalentMembers rest other

end

/-- The order of two doubles; a NaN has none. -/
def compareFloat? (a b : Float) : Option Ordering :=
  if a < b then some .lt else if a == b then some .eq else if b < a then some .gt else none

/-- The order of two numbers or two strings; strings compare by code points. -/
def compare? : Value → Value → Option Ordering
  | int a, int b => some (compare a.toInt b.toInt)
  | string a, string b => some (compare a b)
  | int a, float b => compareFloat? (Number.floatOfInt a.toInt) b
  | float a, int b => compareFloat? a (Number.floatOfInt b.toInt)
  | float a, float b => compareFloat? a b
  | _, _ => none

end JsonPath.Value

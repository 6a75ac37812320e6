import JsonPath.Number.Integer
import JsonPath.Number.Binary64

/-!
# JSON values

A document is a JSON value. Whole numbers and others are kept apart, so that numbers are written
back as they were read; the members of an object keep the order in which they came in, and each name
stands once (`WellFormed`).
-/

namespace JsonPath

/-- A JSON value. -/
inductive Value where
  | null
  | bool (b : Bool)
  | float (x : Float)
  | int (n : Int64)
  | string (s : String)
  | array (items : List Value)
  | object (members : List (String × Value))

/-- The kinds of values. -/
inductive Kind where
  | null
  | boolean
  | integer
  | float
  | string
  | array
  | object
  deriving DecidableEq

/-- The name of a kind in messages. -/
def Kind.name : Kind → String
  | null => "null"
  | boolean => "boolean"
  | integer => "integer"
  | float => "float"
  | string => "string"
  | array => "array"
  | object => "object"

/-! ## Members by name -/

namespace Members

/-- Stores a member: in the place of one with that name, else at the end. -/
def insert (name : String) (value : α) : List (String × α) → List (String × α)
  | [] => [(name, value)]
  | (n, v) :: rest => if n == name then (n, value) :: rest else (n, v) :: insert name value rest

/-- Takes out a member; the others keep their order. -/
def erase (name : String) : List (String × α) → List (String × α)
  | [] => []
  | (n, v) :: rest => if n == name then rest else (n, v) :: erase name rest

/-- Members in the order in which their names first come, each with the value that comes last. -/
def ofList (entries : List (String × α)) : List (String × α) :=
  entries.foldl (fun members entry => insert entry.1 entry.2 members) []

@[simp] theorem lookup_insert_self (name : String) (value : α) (members : List (String × α)) :
    (insert name value members).lookup name = some value := by
  induction members with
  | nil => simp [insert]
  | cons m rest ih =>
    obtain ⟨n, v⟩ := m
    by_cases h : n = name
    · subst h; simp [insert]
    · simp [insert, h, List.lookup_cons, beq_eq_false_iff_ne.2 (Ne.symm h), ih]

theorem lookup_insert_of_ne {name other : String} (h : other ≠ name) (value : α)
    (members : List (String × α)) :
    (insert name value members).lookup other = members.lookup other := by
  induction members with
  | nil => simp [insert, List.lookup_cons, beq_eq_false_iff_ne.2 h]
  | cons m rest ih =>
    obtain ⟨n, v⟩ := m
    by_cases hn : n = name
    · subst hn; simp [insert, List.lookup_cons, beq_eq_false_iff_ne.2 h]
    · simp only [insert, beq_iff_eq, hn, if_false, List.lookup_cons, ih]

end Members

namespace Value

def kind : Value → Kind
  | null => .null
  | bool _ => .boolean
  | float _ => .float
  | int _ => .integer
  | string _ => .string
  | array _ => .array
  | object _ => .object

/-- The name of the value's kind. -/
def typeName (v : Value) : String := v.kind.name

mutual

/-- No object inside the value has two members of one name. -/
def WellFormed : Value → Prop
  | array items => WellFormedItems items
  | object members => (members.map Prod.fst).Nodup ∧ WellFormedMembers members
  | _ => True

def WellFormedItems : List Value → Prop
  | [] => True
  | v :: rest => WellFormed v ∧ WellFormedItems rest

def WellFormedMembers : List (String × Value) → Prop
  | [] => True
  | (_, v) :: rest => WellFormed v ∧ WellFormedMembers rest

end

/-! ## Looking into a value -/

def isNull : Value → Bool
  | null => true
  | _ => false

def isBool : Value → Bool
  | bool _ => true
  | _ => false

def isNumber : Value → Bool
  | int _ | float _ => true
  | _ => false

def isString : Value → Bool
  | string _ => true
  | _ => false

def isArray : Value → Bool
  | array _ => true
  | _ => false

def isObject : Value → Bool
  | object _ => true
  | _ => false

/-- The members of an object; other values have none. -/
def members : Value → List (String × Value)
  | object members => members
  | _ => []

/-- The elements of an array; other values have none. -/
def elements : Value → List Value
  | array items => items
  | _ => []

/-- The member of that name. -/
def member? (name : String) (v : Value) : Option Value := v.members.lookup name

/-- The element at that position. -/
def element? (i : Nat) (v : Value) : Option Value := v.elements[i]?

/-- The number of elements or members. -/
def size : Value → Nat
  | array items => items.length
  | object members => members.length
  | _ => 0

def asBool? : Value → Option Bool
  | bool b => some b
  | _ => none

def asString? : Value → Option String
  | string s => some s
  | _ => none

/-- A number as a double. -/
def asFloat? : Value → Option Float
  | int n => some (Number.floatOfInt n.toInt)
  | float x => some x
  | _ => none

/-- A whole number as an integer; a double beyond the integers counts as the last of them. -/
def asInt? : Value → Option Int64
  | int n => some n
  | float x => ((Number.Binary64.ofFloat? x).bind Number.Binary64.toInt?).map Number.clampInt
  | _ => none

/-- A count as a number. -/
def ofNat (n : Nat) : Value :=
  match Number.ofNat? n with
  | some k => int k
  | none => float (Number.floatOfNat n)

/-! ## Changing a value -/

/-- Stores a member of an object. -/
def setMember? (v : Value) (name : String) (new : Value) : Option Value :=
  match v with
  | object members => some (object (Members.insert name new members))
  | _ => none

/-- Replaces an element of an array. -/
def setElement? (v : Value) (i : Nat) (new : Value) : Option Value :=
  match v with
  | array items => if i < items.length then some (array (items.set i new)) else none
  | _ => none

/-- Appends to an array. -/
def push? (v new : Value) : Option Value :=
  match v with
  | array items => some (array (items ++ [new]))
  | _ => none

/-- Takes out a member; gives it and what is left. -/
def eraseMember? (name : String) : Value → Option (Value × Value)
  | object members =>
    (members.lookup name).map fun old => (old, object (Members.erase name members))
  | _ => none

/-- Takes out an element, so that later ones move down; gives it and what is left. -/
def eraseElement? (i : Nat) : Value → Option (Value × Value)
  | array items => items[i]?.map fun old => (old, array (items.eraseIdx i))
  | _ => none

end Value

end JsonPath

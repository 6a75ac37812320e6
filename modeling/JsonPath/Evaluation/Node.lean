import JsonPath.Evaluation.EvalError
import JsonPath.Json.Compare

/-!
# Nodes and operands

A node is a value together with the path where it was found. Values that functions make are nodes
too; they are synthetic, with no path, and so is every part of them.

An operand is what a part of a predicate stands for: the nodes that a path leads to, a value, or
nothing.
-/

namespace JsonPath

/-- A value, and where it was found in the document. -/
structure Node where
  value : Value
  path : Option Path

namespace Node

/-- The root of a document. -/
def root (document : Value) : Node := ⟨document, some Path.root⟩

/-- A value with no place in the document. -/
def synthetic (v : Value) : Node := ⟨v, none⟩

def isSynthetic (n : Node) : Bool := n.path.isNone

/-- The part of a node that a step leads to, if its value is this one. -/
def part (n : Node) (s : Step) (v : Value) : Node := ⟨v, n.path.map (·.child s)⟩

/-- The member of that name. -/
def member? (n : Node) (name : String) : Option Node :=
  (n.value.member? name).map (n.part (.name name))

/-- The element at that position. -/
def element? (n : Node) (i : Nat) : Option Node := (n.value.element? i).map (n.part (.index i))

/-- The element at a position, counted from the end if it is negative. -/
def elementAt? (n : Node) (i : Int) : Option Node :=
  let i := if i < 0 then i + n.value.elements.length else i
  if i < 0 then none else n.element? i.toNat

end Node

/-- The parts of a value in document order, each with the step that leads to it. -/
def Value.parts : Value → List (Step × Value)
  | .array items => (items.zipIdx).map fun (v, i) => (.index i, v)
  | .object members => members.map fun (name, v) => (.name name, v)
  | _ => []

/-- The elements or members of a node in document order. -/
def Node.children (n : Node) : List Node := n.value.parts.map fun (s, v) => n.part s v

/-- What a part of a predicate stands for. -/
inductive Operand where
  | nodes (nodes : List Node)
  | value (v : Value)
  | absent

namespace Operand

def ofOption : Option Value → Operand
  | some v => value v
  | none => absent

def bool (b : Bool) : Operand := value (.bool b)

/-- The value that the operand stands for by itself; nodes stand for one only if there is just one
of them. -/
def single? : Operand → Option Value
  | nodes [n] => some n.value
  | nodes _ => none
  | value v => some v
  | absent => none

/-- Whether the operand counts as true: nodes if there are any, a value only if it is `true`. -/
def isTruthy : Operand → Bool
  | nodes ns => !ns.isEmpty
  | value (.bool b) => b
  | _ => false

def isAbsent : Operand → Bool
  | absent => true
  | _ => false

end Operand

end JsonPath

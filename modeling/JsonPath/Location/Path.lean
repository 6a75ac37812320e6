import JsonPath.Json.Value

/-!
# Locations in a document

A path leads from the root of a document to one place in it, by names of members and positions of
elements. It is a value of its own and stays one when the document changes.

Paths are ordered step by step: a path comes before its extensions, positions before names. In
descending order later elements come before earlier ones and parts before the whole, which is the
order in which places can be changed without disturbing those still to come.

* `follow_append` — a way is followed part by part.
* `get?_child` — a path one step longer leads to that part of the value.
-/

namespace JsonPath

/-- One step of a path. -/
inductive Step where
  /-- The root itself; as a step further on it leads nowhere else. -/
  | root
  | index (i : Nat)
  | name (s : String)
  deriving DecidableEq

/-- A path, given by its steps below the root. -/
structure Path where
  steps : List Step
  deriving DecidableEq

namespace Step

/-- Whether a step leads to a part of a value. -/
def IsPlain : Step → Prop
  | root => False
  | _ => True

instance (s : Step) : Decidable s.IsPlain := by
  cases s <;> unfold IsPlain <;> infer_instance

/-- The order of steps: the root, then positions, then names. -/
def compare : Step → Step → Ordering
  | root, root => .eq
  | root, _ => .lt
  | _, root => .gt
  | index i, index j => Ord.compare i j
  | index _, name _ => .lt
  | name _, index _ => .gt
  | name s, name t => Ord.compare s t

/-- The part of a value that a step leads to. -/
def get? : Step → Value → Option Value
  | root, v => some v
  | index i, v => v.element? i
  | name s, v => v.member? s

end Step

namespace Path

/-- The root of the document. -/
def root : Path := ⟨[]⟩

/-- The path of some steps; steps to the root are left out. -/
def ofSteps (steps : List Step) : Path := ⟨steps.filter (· ≠ .root)⟩

/-- Whether every step leads to a part of a value. -/
def IsPlain (p : Path) : Prop := ∀ s ∈ p.steps, s.IsPlain

/-- One step further. -/
def child (p : Path) (s : Step) : Path := ⟨p.steps ++ [s]⟩

def childName (p : Path) (name : String) : Path := p.child (.name name)

def childIndex (p : Path) (i : Nat) : Path := p.child (.index i)

/-- All steps, the root first. -/
def elements (p : Path) : List Step := .root :: p.steps

def isRoot (p : Path) : Bool := p.steps.isEmpty

/-- The number of steps, the root included. -/
def length (p : Path) : Nat := p.steps.length + 1

/-- The last step, which is the root if there is no other. -/
def last (p : Path) : Step := p.steps.getLast?.getD .root

/-- One step back; there is no way back from the root. -/
def parent? (p : Path) : Option Path := if p.isRoot then none else some ⟨p.steps.dropLast⟩

/-- The order of lists of steps. -/
def compareSteps : List Step → List Step → Ordering
  | [], [] => .eq
  | [], _ :: _ => .lt
  | _ :: _, [] => .gt
  | s :: ss, t :: ts => (s.compare t).then (compareSteps ss ts)

/-- The order of paths. -/
def compare (p q : Path) : Ordering := compareSteps p.steps q.steps

/-- Whether a path does not come after another one. -/
def le (p q : Path) : Bool := p.compare q != .gt

/-- Follows some steps from a value on. -/
def follow : List Step → Value → Option Value
  | [], v => some v
  | s :: rest, v => (s.get? v).bind (follow rest)

/-- The value at a path. -/
def get? (p : Path) (document : Value) : Option Value := follow p.steps document

theorem follow_append (ss ts : List Step) (v : Value) :
    follow (ss ++ ts) v = (follow ss v).bind (follow ts) := by
  induction ss generalizing v with
  | nil => rfl
  | cons s ss ih =>
    simp only [List.cons_append, follow]
    cases s.get? v with
    | none => rfl
    | some w => exact ih w

theorem get?_child (p : Path) (s : Step) (document : Value) :
    (p.child s).get? document = (p.get? document).bind s.get? := by
  simp only [get?, child, follow_append]
  congr 1
  funext v
  simp [follow]

end Path

end JsonPath

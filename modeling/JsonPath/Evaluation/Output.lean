import JsonPath.Evaluation.Node
import JsonPath.Json.Writer

/-!
# Output

The nodes that an expression finds are put in order and rid of repetitions if that is asked for, and
given out as values, as paths, or as both. Synthetic nodes come after all paths, and none of them
repeats another.
-/

namespace JsonPath

/-- How nodes are arranged and what is given out of them. -/
structure OutputForm where
  values : Bool := false
  paths : Bool := false
  /-- Keep the first node of each path only. -/
  distinct : Bool := false
  ascending : Bool := false
  /-- Wins over `ascending`. -/
  descending : Bool := false

/-- The order of nodes: by path, and synthetic nodes last. -/
def Node.compare (a b : Node) : Ordering :=
  match a.path, b.path with
  | some p, some q => p.compare q
  | some _, none => .lt
  | none, some _ => .gt
  | none, none => .eq

/-- Sorts nodes; those that compare equal stay in order. -/
def sortNodes (descending : Bool) (ns : List Node) : List Node :=
  ns.mergeSort fun a b => (if descending then b.compare a else a.compare b) != .gt

/-- Keeps the first node of each path that is not among `seen`, and all synthetic nodes. -/
def distinctNodes (seen : List Path) : List Node → List Node
  | [] => []
  | n :: rest =>
    match n.path with
    | none => n :: distinctNodes seen rest
    | some p => if p ∈ seen then distinctNodes seen rest else n :: distinctNodes (p :: seen) rest

/-- Sorts and then drops repetitions, as the options ask. -/
def arrange (o : OutputForm) (ns : List Node) : List Node :=
  let ns := if o.descending || o.ascending then sortNodes o.descending ns else ns
  if o.distinct then distinctNodes [] ns else ns

/-- What is given out. -/
inductive Output where
  | values (vs : List Value)
  /-- Synthetic nodes have none. -/
  | paths (ps : List Path)
  | pairs (ps : List (Option Path × Value))

namespace Output

def size : Output → Nat
  | values vs => vs.length
  | paths ps => ps.length
  | pairs ps => ps.length

def values? : Output → Option (List Value)
  | values vs => some vs
  | _ => none

def paths? : Output → Option (List Path)
  | paths ps => some ps
  | _ => none

/-- A path as a value; null if there is none. -/
def ofPath : Option Path → Value
  | some p => .string p.text
  | none => .null

/-- The output as one array, of values, of paths, or of objects with a path and a value. -/
def toValue : Output → Value
  | values vs => .array vs
  | paths ps => .array (ps.map fun p => .string p.text)
  | pairs ps => .array (ps.map fun (p, v) => .object [("path", ofPath p), ("value", v)])

end Output

/-- Arranges nodes and gives out what the options ask for: values unless told otherwise. -/
def assemble (o : OutputForm) (ns : List Node) : Output :=
  let ns := arrange o ns
  match o.values, o.paths with
  | true, true => .pairs (ns.map fun n => (n.path, n.value))
  | false, true => .paths (ns.filterMap Node.path)
  | _, false => .values (ns.map Node.value)

end JsonPath

import JsonPath.Location.Path

/-!
# Changes at a path

A document is changed at a place by rebuilding the values on the way to it; everything else stays as
it was. Where a path leads nowhere nothing changes, except that `store`, asked to create what is
missing, may have created a part of the way before it finds the rest barred.

How far an array grows is up to memory, which is a parameter here. What is said of changes holds
whatever memory grants; the program runs with the most that it can grant.
-/

namespace JsonPath

/-- How much room there is for arrays. -/
class Memory where
  /-- The most elements that an array can have. -/
  maxItems : Nat
  /-- An element takes 72 bytes, and an array less than `2 ^ 63` in all. -/
  room : 72 * maxItems < Nat.pow 2 63

export Memory (maxItems)

/-- As much room as there can be. -/
instance : Memory where
  maxItems := (Nat.pow 2 63 - 1) / 72
  room := by decide

variable [Memory]

namespace Step

/-- Puts a value in the place of a part that is there; other values stay as they are. -/
def put (s : Step) (new : Value) (v : Value) : Value :=
  match s, v with
  | .index i, .array items => .array (items.set i new)
  | .name n, .object members => .object (Members.insert n new members)
  | .root, _ => new
  | _, v => v

/-- Takes a part out; there is nothing to take out at the root. -/
def erase? (s : Step) (v : Value) : Option Value :=
  match s with
  | .root => none
  | .index i => (v.eraseElement? i).map Prod.snd
  | .name n => (v.eraseMember? n).map Prod.snd

/-- An empty container that a step can lead into. -/
def container : Step → Value
  | .index _ => .array []
  | _ => .object []

/-- Fills an array with nulls up to a position, if memory has room for an array that long. -/
def padTo? (items : List Value) (i : Nat) : Option (List Value) :=
  if i < maxItems then some (items ++ List.replicate (i - items.length) .null) else none

/-- The value with a part where the step leads: the one there, or else a new one. -/
def provide? (s : Step) (new : Value) (v : Value) : Option Value :=
  match s, v with
  | .root, v => some v
  | .index i, .array items =>
    if i < items.length then some v else (padTo? items i).map fun padded => .array (padded ++ [new])
  | .name n, .object members =>
    if (members.lookup n).isSome then some v else some (.object (members ++ [(n, new)]))
  | _, _ => none

end Step

namespace Path

/-- Changes the value that some steps lead to, if it is there. -/
def modifySteps? (f : Value → Value) : List Step → Value → Option Value
  | [], v => some (f v)
  | s :: rest, v => do
    let part ← s.get? v
    let changed ← modifySteps? f rest part
    return s.put changed v

/-- Changes the value at a path, if it is there. -/
def modify? (p : Path) (f : Value → Value) (document : Value) : Option Value :=
  modifySteps? f p.steps document

/-- Takes out the value that some steps lead to, if it is there. -/
def eraseSteps? : List Step → Value → Option Value
  | [], _ => none
  | [s], v => s.erase? v
  | s :: rest, v => do
    let part ← s.get? v
    let changed ← eraseSteps? rest part
    return s.put changed v

/-- Takes out the value at a path, if it is there; the root stays. -/
def erase? (p : Path) (document : Value) : Option Value := eraseSteps? p.steps document

/-- Stores a value where the last step leads, and tells whether that was possible. -/
def storeLast (create : Bool) (new : Value) (s : Step) (v : Value) : Value × Bool :=
  match s with
  | .root => (v, false)
  | _ =>
    if (s.get? v).isSome then (s.put new v, true)
    else if create then
      match s.provide? new v with
      | some v => (v, true)
      | none => (v, false)
    else (v, false)

/-- Stores a value where some steps lead. With `create` what is missing on the way is made, as the
step after it needs. -/
def storeSteps (create : Bool) (new : Value) : List Step → Value → Value × Bool
  | [], _ => (new, true)
  | [s], v => storeLast create new s v
  | s :: next :: rest, v =>
    match if create then s.provide? next.container v else some v with
    | none => (v, false)
    | some provided =>
      match s.get? provided with
      | none => (v, false)
      | some part =>
        let (changed, stored) := storeSteps create new (next :: rest) part
        (s.put changed provided, stored)

/-- Stores a value at a path. Without `create` the place must be there already. Gives the document
and whether the value was stored. -/
def store (p : Path) (new : Value) (create : Bool) (document : Value) : Value × Bool :=
  storeSteps create new p.steps document

end Path

/-! ## Several places at once -/

/-- Paths in descending order, each once. -/
def descendingPaths (ps : List Path) : List Path :=
  (ps.mergeSort fun p q => q.le p).eraseReps

/-- Takes out the values at some paths, and counts those that were there. In descending order no
removal moves a place that is still to come. -/
def removePaths (ps : List Path) (document : Value) : Value × Nat :=
  (descendingPaths ps).foldl
    (fun (document, count) p =>
      match p.erase? document with
      | some changed => (changed, count + 1)
      | none => (document, count))
    (document, 0)

end JsonPath

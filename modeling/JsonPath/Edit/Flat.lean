import JsonPath.Edit.Change
import JsonPath.Location.Text

/-!
# Flat documents

A document can be laid out flat: an object with one member for each value that has no parts, named
by the path of that value. Empty arrays and objects have no parts. `unflatten` builds the document
from such an object.
-/

namespace JsonPath

/-- Why an object is no flat form of a document. -/
inductive FlattenError where
  /-- Not an object, but a value of the kind named. -/
  | notAnObject (found : String)
  | invalidKey (key : String) (e : ParseError)
  /-- A path that leads through a value, or past one, that an earlier key put there. -/
  | conflict (key : String)

def FlattenError.message : FlattenError → String
  | notAnObject found => "expected an object of path/value pairs, got " ++ found
  | invalidKey key e => "invalid path key '" ++ key ++ "': " ++ e.message
  | conflict key => "path '" ++ key ++ "' conflicts with an earlier key"

mutual

/-- The values without parts in a value at some path, in document order. -/
def leaves (path : Path) : Value → List (Path × Value)
  | .array (v :: rest) => leavesOfItems path 0 (v :: rest)
  | .object (m :: rest) => leavesOfMembers path (m :: rest)
  | v => [(path, v)]

def leavesOfItems (path : Path) : (i : Nat) → List Value → List (Path × Value)
  | _, [] => []
  | i, v :: rest => leaves (path.childIndex i) v ++ leavesOfItems path (i + 1) rest

def leavesOfMembers (path : Path) : List (String × Value) → List (Path × Value)
  | [] => []
  | (name, v) :: rest => leaves (path.childName name) v ++ leavesOfMembers path rest

end

/-- The flat form of a document. -/
def flatten (document : Value) : Value :=
  .object (Members.ofList ((leaves Path.root document).map fun (p, v) => (p.text, v)))

/-- The value to start from, before the first entry: a container for the first step of its path. -/
def seed (p : Path) : Value :=
  match p.steps with
  | s :: _ => s.container
  | [] => .null

variable [Memory]

/-- Adds one entry of a flat form to the document so far, which is null as long as nothing is in
it. -/
def addEntry (document : Value) (key : String) (leaf : Value) : Except FlattenError Value :=
  match Path.parse key with
  | .error e => .error (.invalidKey key e)
  | .ok p =>
    if document.isNull && p.isRoot then .ok leaf
    else
      let start := if document.isNull then seed p else document
      let (document, stored) := p.store leaf true start
      if stored then .ok document else .error (.conflict key)

/-- The document of a flat form. -/
def unflatten (flat : Value) : Except FlattenError Value :=
  match flat with
  | .object members => members.foldlM (fun document (key, leaf) => addEntry document key leaf) .null
  | v => .error (.notAnObject v.typeName)

end JsonPath

import JsonPath.Edit.Change
import JsonPath.Evaluation.Eval
import JsonPath.Evaluation.Output
import JsonPath.Query.Grammar

/-!
# Compiled expressions

An expression is compiled once and used on any number of documents: to find nodes, and to remove,
replace or update them. Edits go through the distinct paths of the nodes found in the document as it
was; if evaluation fails there is no edit.
-/

namespace JsonPath

/-- A text and the chain that it compiles to. -/
structure Expression where
  text : String
  selectors : Query.Chain

namespace Expression

/-- Compiles a text; the functions given are available beside the built-in ones. -/
def compile (functions : Registry) (text : String) : Except ParseError Expression :=
  (Query.parsePath functions text).map fun selectors => ⟨text, selectors⟩

theorem compile_eq_ok {functions : Registry} {text : String} {e : Expression} :
    compile functions text = .ok e ↔
      e.text = text ∧ Query.parsePath functions text = .ok e.selectors := by
  unfold compile
  constructor
  · intro h
    cases hparse : Query.parsePath functions text with
    | error fault =>
      rw [hparse] at h
      contradiction
    | ok selectors =>
      rw [hparse] at h
      rw [← Except.ok.inj h]
      exact ⟨rfl, rfl⟩
  · rintro ⟨rfl, hparse⟩
    rw [hparse]
    rfl

/-- Whether two expressions have the same text and selectors. -/
def same (a b : Expression) : Bool := a.text == b.text && Query.sameChain a.selectors b.selectors

/-- The nodes that the expression finds, where descents go `maxDepth` levels deep at most. -/
def evaluateTo (maxDepth : Nat) (e : Expression) (document : Value) :
    Except EvalError (List Node) :=
  Query.evaluate maxDepth e.selectors document

/-- The nodes that the expression finds within the default depth. -/
def evaluate (e : Expression) (document : Value) : Except EvalError (List Node) :=
  e.evaluateTo Query.defaultMaxDepth document

/-- The nodes as the options ask. -/
def select (e : Expression) (o : OutputForm) (document : Value) : Except EvalError Output :=
  (e.evaluate document).map (assemble o)

/-- The values of the nodes, as they are found. -/
def selectValues (e : Expression) (document : Value) : Except EvalError (List Value) :=
  (e.evaluate document).map fun ns => ns.map Node.value

/-- The distinct paths of the nodes, in ascending order. -/
def selectPaths (e : Expression) (document : Value) : Except EvalError (List Path) :=
  (e.evaluate document).map fun ns =>
    (arrange { distinct := true, ascending := true } ns).filterMap Node.path

/-- Removes the nodes, and counts them. -/
def remove (e : Expression) (document : Value) : Except EvalError (Value × Nat) :=
  (e.selectPaths document).map fun ps => removePaths ps document

/-- Changes the nodes by a function of path and value, the deepest and last first, and gives the
paths in that order. -/
def update (e : Expression) (f : Path → Value → Value) (document : Value) :
    Except EvalError (Value × List Path) :=
  (e.selectPaths document).map fun ps =>
    ps.reverse.foldl
      (fun (document, visited) p =>
        match p.modify? (f p) document with
        | some changed => (changed, visited ++ [p])
        | none => (document, visited))
      (document, [])

/-- Puts a value in the place of every node, and counts them. -/
def replaceAll (e : Expression) (new : Value) (document : Value) :
    Except EvalError (Value × Nat) :=
  (e.update (fun _ _ => new) document).map fun (document, visited) => (document, visited.length)

end Expression

/-- Why a query fails: at its text, or at the document. -/
inductive QueryError where
  | parse (e : ParseError)
  | eval (e : EvalError)

/-- Compiles a text and evaluates it on one document. -/
def query (o : OutputForm) (text : String) (document : Value) : Except QueryError Output :=
  match Expression.compile Registry.empty text with
  | .error e => .error (.parse e)
  | .ok e => (e.select o document).mapError .eval

end JsonPath

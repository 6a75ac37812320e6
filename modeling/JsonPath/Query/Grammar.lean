import JsonPath.Query.Parse
import JsonPath.Query.Selector

/-!
# The grammar of expressions

A path is `$` and segments: names and positions after a dot, descents, and brackets. Filters,
computed positions and arguments hold predicates, whose operators bind in this order: `!` and the
minus sign, then `*` `/` `%`, then `+` `-`, then one comparison, then `&&`, then `||`.

Brackets, predicates, unary operators and each further operator in a row nest one level deeper, and
there are `maxNesting` levels. A `Level` reads every kind of phrase with a certain number of levels
left; what is nested inside is read by the level below it.
-/

namespace JsonPath.Query

open Parse

/-- The number of levels that phrases may be nested. -/
def maxNesting : Nat := 64

/-- The readers that phrases one level up nest. -/
structure Level where
  /-- A predicate, which takes a level of its own. -/
  predicate : Parse Predicate
  segments : Parse Chain
  unary : Parse Predicate
  product : Parse Predicate
  comparison : Parse Predicate
  conjunction : Parse Predicate
  disjunction : Parse Predicate
  /-- What follows the first operand of a product. -/
  productRest : Predicate → Parse Predicate
  sumRest : Predicate → Parse Predicate
  conjunctionRest : Predicate → Parse Predicate
  disjunctionRest : Predicate → Parse Predicate

/-- Goes one level down, if there is one. -/
def nest (below : Option Level) (read : Level → Parse α) : Parse α :=
  match below with
  | some level => read level
  | none => fail (.nestingTooDeep maxNesting)

/-! ## Pieces -/

/-- A token that may stand for a member: an identifier, or one of the words for literals. -/
def memberName? : Token → Option String
  | .identifier name => some name
  | .boolean b => some (if b then "true" else "false")
  | .null => some "null"
  | _ => none

/-- The function of a name that stands at an offset. -/
def resolve (functions : Registry) (name : String) (offset : Nat) : Parse Function :=
  match functions.resolve? name with
  | some f => pure f
  | none => failAt offset (.unknownFunction name)

/-- Arguments and the parenthesis that closes them. -/
def arguments (predicate : Parse Predicate) (openOffset : Nat) : Parse (List Predicate) := do
  let t ← current
  let args ←
    if t == .mark .closeParen || t == .endOfText then pure [] else separated predicate
  expectClosing .closeParen '(' openOffset
  return args

/-- The wrong number of arguments after the node that a function is applied to: the expected number
and the one found. A function without arguments has no room even for the node. -/
def selectorArityFault? (f : Function) (found : Nat) : Option (Nat × Nat) :=
  match f.arity with
  | none => none
  | some 0 => some (0, found + 1)
  | some (n + 1) => if found = n then none else some (n, found)

/-- The same for a call in a predicate. -/
def callArityFault? (f : Function) (found : Nat) : Option (Nat × Nat) :=
  match f.arity with
  | none => none
  | some n => if found = n then none else some (n, found)

/-- A call as a segment, from its opening parenthesis on. -/
def selectorCall (functions : Registry) (predicate : Parse Predicate) (name : String)
    (offset : Nat) : Parse Selector := do
  let f ← resolve functions name offset
  let openOffset ← Parse.offset
  advance
  let args ← arguments predicate openOffset
  match selectorArityFault? f args.length with
  | some (expected, found) => failAt offset (.arityMismatch name expected found)
  | none => return .call f args

/-- What follows a dot: a star, a position, a name or a call. -/
def dotMember (functions : Registry) (predicate : Parse Predicate) : Parse Selector := do
  let offset ← Parse.offset
  match ← current with
  | .mark .star => advance; return .wildMember
  | .integer n => advance; return .index n
  | t =>
    match memberName? t with
    | none => unexpected "member name"
    | some name =>
      advance
      if (← current) == .mark .openParen then selectorCall functions predicate name offset
      else return .name name

/-- What follows two dots: nothing, a star or a name. -/
def afterDescent : Parse Chain := do
  match ← current with
  | .mark .star => advance; return [.wildMember]
  | t =>
    match memberName? t with
    | some name => advance; return [.name name]
    | none => return []

/-- An integer with an optional sign, if one comes next. -/
def signed : Parse (Option Int64) := do
  let negative ← accept .minus
  match ← current with
  | .integer n => advance; return some (if negative then -n else n)
  | _ => if negative then unexpected "integer" else return none

/-- The step of a slice, after its second colon. -/
def sliceStep : Parse (Option Int64) := do
  let offset ← Parse.offset
  let step ← signed
  if step == some 0 then failAt offset .zeroSliceStep else return step

/-- A position, or the bounds of a slice. -/
def indexOrSlice : Parse Selector := do
  let start ← signed
  if ← accept .colon then
    let stop ← signed
    let step ← if ← accept .colon then sliceStep else pure none
    return .slice ⟨start, stop, step⟩
  else
    match start with
    | some i => return .index i
    | none => unexpected "index"

/-- One item in brackets: a chain, which for most items is one selector. -/
def bracketItem (level : Level) : Parse Chain := do
  match ← current with
  | .string name => advance; return [.name name]
  | .mark .star => advance; return [.wildElement]
  | .mark .question => advance; return [.filter (← level.predicate)]
  | .mark .openParen =>
    let openOffset ← Parse.offset
    advance
    let p ← level.predicate
    expectClosing .closeParen '(' openOffset
    return [.computed p]
  | .mark .atSign => advance; level.segments
  | .integer _ | .mark .minus | .mark .colon => return [← indexOrSlice]
  | t =>
    match memberName? t with
    | some name => advance; return [.name name]
    | none => unexpected "selector"

/-- The selector of some items: a single selector stands for itself. -/
def ofItems : List Chain → Selector
  | [[s]] => s
  | items => .union items

/-- Items in brackets, on the level they are nested in. -/
def bracket (level : Level) : Parse Selector := do
  let openOffset ← Parse.offset
  advance
  let items ← separated (bracketItem level)
  expectClosing .closeBracket '[' openOffset
  return ofItems items

/-- One segment, if one comes next. -/
def segment? (functions : Registry) (below : Option Level) (predicate : Parse Predicate) :
    Parse (Option Chain) := do
  match ← current with
  | .mark .dot => advance; return some [← dotMember functions predicate]
  | .mark .dotDot => advance; return some (.descent :: (← afterDescent))
  | .mark .openBracket => return some [← nest below bracket]
  | _ => return none

/-! ## Predicates -/

/-- A call in a predicate, after the name of the function. -/
def call (functions : Registry) (predicate : Parse Predicate) (name : String) (offset : Nat) :
    Parse Predicate := do
  let f ← resolve functions name offset
  let openOffset ← Parse.offset
  expect .openParen "'(' after function name"
  let args ← arguments predicate openOffset
  match callArityFault? f args.length with
  | some (expected, found) => failAt offset (.arityMismatch name expected found)
  | none => return .call f args

/-- A literal, a path, a predicate in parentheses or a call. -/
def primary (functions : Registry) (predicate : Parse Predicate) (segments : Parse Chain) :
    Parse Predicate := do
  let offset ← Parse.offset
  match ← current with
  | .float x => advance; return .literal (.float x)
  | .integer n => advance; return .literal (.int n)
  | .string s => advance; return .literal (.string s)
  | .boolean b => advance; return .literal (.bool b)
  | .null => advance; return .literal .null
  | .mark .atSign =>
    advance
    let chain ← segments
    return if chain.isEmpty then .current else .fromCurrent chain
  | .mark .dollar =>
    advance
    let chain ← segments
    return if chain.isEmpty then .root else .fromRoot chain
  | .mark .openParen =>
    advance
    let p ← predicate
    expectClosing .closeParen '(' offset
    return p
  | .identifier name => advance; call functions predicate name offset
  | _ => unexpected "operand"

/-- The negative of an operand; a numeric literal takes the sign itself. -/
def negated : Predicate → Predicate
  | .literal (.int n) => .literal (.int (-n))
  | .literal (.float x) => .literal (.float (-x))
  | p => .negate p

/-- An operand with its unary operators. -/
def unaryOf (below : Option Level) (primary : Parse Predicate) : Parse Predicate := do
  match ← current with
  | .mark .not => nest below fun level => do
    advance
    return .not (← level.unary)
  | .mark .minus => nest below fun level => do
    advance
    return negated (← level.unary)
  | _ => primary

/-- The operations of products. -/
def productOperation? : Token → Option Operation
  | .mark .star => some .multiply
  | .mark .slash => some .divide
  | .mark .percent => some .modulo
  | _ => none

/-- The operations of sums. -/
def sumOperation? : Token → Option Operation
  | .mark .plus => some .add
  | .mark .minus => some .subtract
  | _ => none

/-- The comparison that a mark stands for. -/
def comparison? : Token → Option Comparison
  | .mark .equal => some .equal
  | .mark .notEqual => some .notEqual
  | .mark .less => some .less
  | .mark .lessEqual => some .lessEqual
  | .mark .greater => some .greater
  | .mark .greaterEqual => some .greaterEqual
  | _ => none

/-- Operators in a row, from the left: each takes an operand one level down and goes on there. -/
def chained (below : Option Level)
    (operator? : Token → Option (Predicate → Predicate → Predicate))
    (operand : Level → Parse Predicate) (rest : Level → Predicate → Parse Predicate)
    (left : Predicate) : Parse Predicate := do
  match operator? (← current) with
  | some combine => nest below fun level => do
    advance
    let right ← operand level
    rest level (combine left right)
  | none => return left

/-- The settings of the flags after a regular expression. -/
def regexFlags : Regex.Flags → List Char → Except Char Regex.Flags
  | f, [] => .ok f
  | f, 'i' :: rest => regexFlags { f with ignoreCase := true } rest
  | f, 'm' :: rest => regexFlags { f with multiLine := true } rest
  | f, 's' :: rest => regexFlags { f with dotAll := true } rest
  | _, other :: _ => .error other

/-- The literal of a pattern and flags. -/
def regexLiteral (pattern flags : String) : Except ParseFault RegexLiteral :=
  match regexFlags {} flags.toList with
  | .error flag => .error (.unsupportedFlag flag)
  | .ok f =>
    match Regex.Program.ofText? f pattern with
    | some program => .ok ⟨pattern, flags, program⟩
    | none => .error .invalidRegex

/-- The regular expression after a match operator. -/
def regex : Parse RegexLiteral := do
  match ← current with
  | .regex pattern flags =>
    match regexLiteral pattern flags with
    | .ok r => advance; return r
    | .error fault => fail fault
  | _ => unexpected regexExpected

/-- A sum, alone or compared: with another one, or with a regular expression. -/
def comparisonOf (sum : Parse Predicate) : Parse Predicate := do
  let left ← sum
  if ← accept .matchSign then return .search left (← regex)
  else
    match comparison? (← current) with
    | some op =>
      advance
      return .comparison op left (← sum)
    | none => return left

/-! ## Levels -/

/-- The level above another one, or the last level if there is none below. -/
def Level.above (functions : Registry) (below : Option Level) : Level :=
  let predicate : Parse Predicate := nest below Level.disjunction
  let segments : Parse Chain := List.flatten <$> many (segment? functions below predicate)
  let unary : Parse Predicate := unaryOf below (primary functions predicate segments)
  let productRest := chained below (fun t => (productOperation? t).map Predicate.operation)
    Level.unary Level.productRest
  let product : Parse Predicate := unary >>= productRest
  let sumRest := chained below (fun t => (sumOperation? t).map Predicate.operation)
    Level.product Level.sumRest
  let comparison : Parse Predicate := comparisonOf (product >>= sumRest)
  let conjunctionRest := chained below
    (fun t => if t == .mark .and then some .and else none) Level.comparison Level.conjunctionRest
  let conjunction : Parse Predicate := comparison >>= conjunctionRest
  let disjunctionRest := chained below
    (fun t => if t == .mark .or then some .or else none) Level.conjunction Level.disjunctionRest
  let disjunction : Parse Predicate := conjunction >>= disjunctionRest
  { predicate, segments, unary, product, comparison, conjunction, disjunction, productRest, sumRest,
    conjunctionRest, disjunctionRest }

/-- The level with room for some levels below it. -/
def Level.ofRoom (functions : Registry) : Nat → Level
  | 0 => Level.above functions none
  | room + 1 => Level.above functions (some (Level.ofRoom functions room))

/-! ## Whole expressions -/

/-- A path: `$`, segments, and nothing more. -/
def path (functions : Registry) : Parse Chain := do
  expect .dollar "'$'"
  let chain ← (Level.ofRoom functions maxNesting).segments
  match ← current with
  | .endOfText => return chain
  | .mark .closeBracket => fail (.unbalancedBracket ']')
  | .mark .closeParen => fail (.unbalancedBracket ')')
  | _ => unexpected "'.', '..', '[' or end of expression"

/-- A predicate and nothing more. -/
def predicateOnly (functions : Registry) : Parse Predicate := do
  let p ← (Level.ofRoom functions maxNesting).predicate
  if (← current) == .endOfText then return p else unexpected "end of expression"

/-- Reads a whole text. -/
def readAll (read : Parse α) (text : String) : Except ParseError α := do
  let tokens ← (lexemes text).check
  let (a, _) ← read tokens
  return a

/-- Reads a path with the built-in functions and those given. -/
def parsePath (functions : Registry) (text : String) : Except ParseError Chain :=
  readAll (path functions) text

/-- Reads a predicate. -/
def parsePredicate (functions : Registry) (text : String) : Except ParseError Predicate :=
  readAll (predicateOnly functions) text

end JsonPath.Query

import JsonPath.Json.Writer
import JsonPath.Query.Selector

/-!
# Written chains and predicates

A chain is written as it would stand after `$` or `@`: names, positions and the like in brackets,
`.*`, `..` and calls after a dot. Predicates have parentheses around operations and connectives, and
none around comparisons.
-/

namespace JsonPath.Query

/-- How a character of a name is written in a selector. -/
def escapeNameChar (c : Char) : List Char :=
  match c with
  | '\'' => ['\\', '\'']
  | '\\' => ['\\', '\\']
  | '\n' => ['\\', 'n']
  | '\r' => ['\\', 'r']
  | '\t' => ['\\', 't']
  | _ => [c]

/-- The characters of a name in quotes. -/
def quotedName (name : String) : List Char :=
  '\'' :: name.toList.flatMap escapeNameChar ++ ['\'']

/-- The characters of a regular expression: slashes in it are escaped. -/
def RegexLiteral.chars (r : RegexLiteral) : List Char :=
  let source := r.source.toList.flatMap fun c => if c == '/' then ['\\', '/'] else [c]
  '/' :: source ++ '/' :: r.flags.toList

/-- A binary operation. -/
def infixChars (left : List Char) (op : String) (right : List Char) : List Char :=
  left ++ ' ' :: op.toList ++ ' ' :: right

/-- The same in parentheses. -/
def groupedChars (left : List Char) (op : String) (right : List Char) : List Char :=
  '(' :: infixChars left op right ++ [')']

mutual

/-- The characters of a selector. -/
def Selector.chars : Selector → List Char
  | .wildMember => ['.', '*']
  | .descent => ['.', '.']
  | .call f args => '.' :: f.name.toList ++ '(' :: argumentChars args ++ [')']
  | .union members => '[' :: unionChars members ++ [']']
  | .name s => '[' :: quotedName s ++ [']']
  | .wildElement => ['[', '*', ']']
  | .index i => '[' :: Slice.intChars i ++ [']']
  | .slice s => '[' :: s.chars ++ [']']
  | .filter p => '[' :: '?' :: '(' :: p.chars ++ [')', ']']
  | .computed p => '[' :: '(' :: p.chars ++ [')', ']']

/-- The characters of a chain. -/
def chainChars : List Selector → List Char
  | [] => []
  | s :: rest => s.chars ++ chainChars rest

/-- One member of a union: what may stand alone in brackets does so; other chains follow `@`. -/
def memberChars : List Selector → List Char
  | [.name s] => quotedName s
  | [.wildMember] => ['*']
  | [.wildElement] => ['*']
  | [.index i] => Slice.intChars i
  | [.slice s] => s.chars
  | [.filter p] => '?' :: '(' :: p.chars ++ [')']
  | [.computed p] => '(' :: p.chars ++ [')']
  | [] => ['@']
  | s :: rest => '@' :: (s.chars ++ chainChars rest)

/-- The members of a union. -/
def unionChars : List (List Selector) → List Char
  | [] => []
  | [chain] => memberChars chain
  | chain :: rest => memberChars chain ++ ',' :: unionChars rest

/-- The characters of a predicate. -/
def Predicate.chars : Predicate → List Char
  | .literal v => (Json.compact v).toList
  | .current => ['@']
  | .root => ['$']
  | .fromCurrent chain => '@' :: chainChars chain
  | .fromRoot chain => '$' :: chainChars chain
  | .comparison op l r => infixChars l.chars op.text r.chars
  | .operation op l r => groupedChars l.chars op.text r.chars
  | .negate p => '-' :: p.chars
  | .and l r => groupedChars l.chars "&&" r.chars
  | .or l r => groupedChars l.chars "||" r.chars
  | .not p => '!' :: p.chars
  | .search p r => p.chars ++ ' ' :: '=' :: '~' :: ' ' :: r.chars
  | .call f args => f.name.toList ++ '(' :: argumentChars args ++ [')']

/-- The arguments of a call. -/
def argumentChars : List Predicate → List Char
  | [] => []
  | [p] => p.chars
  | p :: rest => p.chars ++ ',' :: ' ' :: argumentChars rest

end

/-- The text of a chain. -/
def chainText (chain : Chain) : String := String.ofList (chainChars chain)

/-- The text of a predicate. -/
def Predicate.text (p : Predicate) : String := String.ofList p.chars

/-- The text of a slice. -/
def Slice.text (s : Slice) : String := String.ofList s.chars

end JsonPath.Query

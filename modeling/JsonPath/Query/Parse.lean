import JsonPath.Query.Scan

/-!
# Steps of reading an expression

An expression is read token by token. The state is what is left of the tokens; the one in front is
the current token. Passing a token looks at the next one right away, so that text which is no token
is an error as soon as it is reached.
-/

namespace JsonPath.Query

/-- Reads something from the tokens in front. -/
abbrev Parse := StateT Lexemes (Except ParseError)

namespace Lexemes

/-- The number of tokens left. -/
def length : Lexemes → Nat
  | more _ rest => rest.length + 1
  | done _ => 0
  | fault _ => 0

/-- The current token. -/
def token : Lexemes → Token
  | more l _ => l.token
  | done _ => .endOfText
  | fault _ => .endOfText

/-- The number of characters before the current token. -/
def offset : Lexemes → Nat
  | more l _ => l.offset
  | done offset => offset
  | fault e => e.offset

/-- The tokens, if they start with one. -/
def check : Lexemes → Except ParseError Lexemes
  | fault e => .error e
  | ts => .ok ts

/-- The tokens after the current one; after the end there is still the end. -/
def tail : Lexemes → Except ParseError Lexemes
  | more _ rest => rest.check
  | ts => ts.check

end Lexemes

namespace Parse

/-- The current token. -/
def current : Parse Token := do return (← get).token

/-- The number of characters before the current token. -/
def offset : Parse Nat := do return (← get).offset

/-- Passes the current token. -/
def advance : Parse Unit := fun ts => ts.tail.map fun rest => ((), rest)

def failAt (offset : Nat) (fault : ParseFault) : Parse α := fun _ => .error ⟨fault, offset⟩

/-- Fails at the current token. -/
def fail (fault : ParseFault) : Parse α := fun ts => .error ⟨fault, ts.offset⟩

/-- The current token is not what is expected. -/
def unexpected (expected : String) : Parse α := fun ts =>
  match ts.token with
  | .endOfText => .error ⟨.unexpectedEnd expected, ts.offset⟩
  | t => .error ⟨.unexpectedToken t.description expected, ts.offset⟩

/-- Passes a mark, which must come next. -/
def expect (m : Mark) (expected : String) : Parse Unit := do
  if (← current) == .mark m then advance else unexpected expected

/-- Passes a mark if it comes next. -/
def accept (m : Mark) : Parse Bool := do
  if (← current) == .mark m then
    advance
    return true
  else return false

/-- Passes a closing bracket. At the end of the text the opening one is what is wrong. -/
def expectClosing (close : Mark) (openChar : Char) (openOffset : Nat) : Parse Unit := do
  if (← current) == .endOfText then failAt openOffset (.unbalancedBracket openChar)
  else expect close ("'" ++ close.text ++ "'")

/-- Repeats a reader until it finds nothing. Each time it passes a token, so there are at most as
many results as tokens. -/
def many (one : Parse (Option α)) : Parse (List α) := fun ts => go (ts.length + 1) ts
where
  go : Nat → Lexemes → Except ParseError (List α × Lexemes)
    | 0, ts => .ok ([], ts)
    | fuel + 1, ts => do
      match ← one ts with
      | (none, ts) => return ([], ts)
      | (some a, ts) =>
        let (as, ts) ← go fuel ts
        return (a :: as, ts)

/-- One or more items with commas between them. -/
def separated (item : Parse α) : Parse (List α) := do
  let first ← item
  let others ← many do
    if ← accept .comma then return some (← item) else return none
  return first :: others

end Parse

end JsonPath.Query

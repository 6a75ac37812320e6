import JsonPath.Location.Path
import JsonPath.Number.Notation
import JsonPath.Query.ParseError
import JsonPath.Text.Cursor
import JsonPath.Text.Quoted

/-!
# Written paths

A path is written with each step in brackets after the dollar sign, positions in digits and names in
single quotes: `$['a'][0]`. Reading takes that form and also names after a dot, double quotes and
blanks inside the brackets.
-/

namespace JsonPath

open Text (Cursor)

/-- How a character of a name is written between single quotes. -/
def escapeNameChar (c : Char) : List Char :=
  match c with
  | '\'' => ['\\', '\'']
  | '\\' => ['\\', '\\']
  | '\x08' => ['\\', 'b']
  | '\x0c' => ['\\', 'f']
  | '\n' => ['\\', 'n']
  | '\r' => ['\\', 'r']
  | '\t' => ['\\', 't']
  | _ =>
    if c.toNat < 32 then
      ['\\', 'u', '0', '0', Text.hexDigit (c.toNat / 16), Text.hexDigit (c.toNat % 16)]
    else [c]

/-- The characters of a step. -/
def Step.chars : Step → List Char
  | root => ['$']
  | index i => '[' :: Nat.toDigits 10 i ++ [']']
  | name s => '[' :: '\'' :: s.toList.flatMap escapeNameChar ++ ['\'', ']']

namespace Path

/-- The characters of a path. -/
def chars (p : Path) : List Char := p.elements.flatMap Step.chars

/-- The text of a path. -/
def text (p : Path) : String := String.ofList p.chars

/-! ## Reading -/

/-- What comes next is not what is expected. -/
def unexpected (c : Cursor) (expected : String) : ParseError :=
  match c.rest with
  | found :: _ => ⟨.unexpectedToken ("'" ++ found.toString ++ "'") expected, c.offset⟩
  | [] => ⟨.unexpectedEnd expected, c.offset⟩

/-- Positions fit 64 bits. -/
def indexBound : Nat := Nat.pow 2 64

/-- Reads what stands between brackets: a quoted name or a position in digits. -/
def readBracketed (c : Cursor) : Except ParseError (Step × Cursor) :=
  match c.rest with
  | first :: rest =>
    if first == '\'' || first == '"' then
      match Text.Quoted.read first 1 rest with
      | .ok (s, n) => .ok (.name (String.ofList s), c.advance n)
      | .error .unterminated => .error ⟨.unterminatedString, c.offset⟩
      | .error (.badEscape distance e) => .error ⟨.invalidEscape e, c.offset + distance⟩
    else if first.isDigit then
      let digits := c.rest.takeWhile Char.isDigit
      let n := Number.ofDigits digits
      if n < indexBound then .ok (.index n, c.advance digits.length)
      else .error ⟨.invalidNumber (String.ofList digits), c.offset⟩
    else .error (unexpected c "name or index")
  | [] => .error (unexpected c "name or index")

/-- Reads the bracket that closes a step. -/
def closeBracket (c : Cursor) : Except ParseError Cursor :=
  match c.rest with
  | ']' :: _ => .ok (c.advance 1)
  | [] => .error ⟨.unbalancedBracket '[', c.offset⟩
  | _ => .error (unexpected c "']'")

/-- Reads one step: a name after a dot, or a name or a position in brackets. -/
def readStep (c : Cursor) : Except ParseError (Step × Cursor) :=
  match c.rest with
  | '.' :: rest =>
    let c := c.advance 1
    if rest.head?.any Text.isIdentifierStart then
      let name := rest.takeWhile Text.isIdentifierChar
      .ok (.name (String.ofList name), c.advance name.length)
    else .error (unexpected c "member name")
  | '[' :: _ => do
    let (step, c) ← readBracketed ((c.advance 1).skipWhile Text.isBlank)
    let c ← closeBracket (c.skipWhile Text.isBlank)
    return (step, c)
  | _ => .error (unexpected c "'.' or '['")

/-- Reads steps to the end of the text; each takes a character, so `fuel` of them, the length of the
text, are enough. -/
def readSteps : (fuel : Nat) → Cursor → Except ParseError (List Step)
  | 0, _ => .ok []
  | fuel + 1, c =>
    if c.rest.isEmpty then .ok []
    else do
      let (step, c) ← readStep c
      let steps ← readSteps fuel c
      return step :: steps

/-- Reads a path. -/
def parse (text : String) : Except ParseError Path :=
  let c := Cursor.start text
  match c.rest with
  | '$' :: _ => (readSteps c.rest.length (c.advance 1)).map Path.mk
  | _ => .error (unexpected c "'$'")

end Path

end JsonPath

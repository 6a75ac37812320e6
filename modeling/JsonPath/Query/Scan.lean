import JsonPath.Number.Notation
import JsonPath.Query.ParseError
import JsonPath.Query.Token
import JsonPath.Text.Cursor
import JsonPath.Text.Quoted

/-!
# Reading tokens

`nextToken` reads the token at a cursor and `nextRegex` the regular expression after a match
operator, which would read as division otherwise. Each gives its outcome together with the cursor
after it; after an error that cursor tells how far reading came.

`lexemes` reads a whole text.
-/

namespace JsonPath.Query

open Text (Cursor)

/-- What was read, and where reading stopped. -/
structure Scan where
  outcome : Except ParseError Lexeme
  cursor : Cursor

/-- The mark at the start of a text; of two that fit it is the longer. -/
def markHere? : List Char → Option Mark
  | '.' :: '.' :: _ => some .dotDot
  | '=' :: '=' :: _ => some .equal
  | '=' :: '~' :: _ => some .matchSign
  | '!' :: '=' :: _ => some .notEqual
  | '<' :: '=' :: _ => some .lessEqual
  | '>' :: '=' :: _ => some .greaterEqual
  | '&' :: '&' :: _ => some .and
  | '|' :: '|' :: _ => some .or
  | '$' :: _ => some .dollar
  | '@' :: _ => some .atSign
  | '.' :: _ => some .dot
  | '*' :: _ => some .star
  | '?' :: _ => some .question
  | '[' :: _ => some .openBracket
  | ']' :: _ => some .closeBracket
  | '(' :: _ => some .openParen
  | ')' :: _ => some .closeParen
  | ',' :: _ => some .comma
  | ':' :: _ => some .colon
  | '+' :: _ => some .plus
  | '-' :: _ => some .minus
  | '/' :: _ => some .slash
  | '%' :: _ => some .percent
  | '!' :: _ => some .not
  | '<' :: _ => some .less
  | '>' :: _ => some .greater
  | _ => none

/-- The token of an identifier: three of them are literals. -/
def wordToken (word : String) : Token :=
  if word == "true" then .boolean true
  else if word == "false" then .boolean false
  else if word == "null" then .null
  else .identifier word

/-- The parts of the number at the start of a text. -/
structure NumberText where
  whole : List Char
  places : List Char
  exponent : Int
  /-- The number of characters of the exponent. -/
  exponentLength : Nat

/-- Takes the number at the start of a text apart. A point belongs to it only before a digit, and so
does an exponent mark. -/
def numberHere (cs : List Char) : NumberText :=
  let whole := cs.takeWhile Char.isDigit
  let rest := cs.dropWhile Char.isDigit
  let places := match rest with
    | '.' :: rest => rest.takeWhile Char.isDigit
    | _ => []
  let rest := if places.isEmpty then rest else rest.drop (places.length + 1)
  let (exponent, length) := Number.exponentHere rest
  ⟨whole, places, exponent, length⟩

/-- The number of characters of a number. -/
def NumberText.length (n : NumberText) : Nat :=
  n.whole.length + (if n.places.isEmpty then 0 else n.places.length + 1) + n.exponentLength

/-- The token of a number: an integer if only digits are written, which must fit 64 bits. -/
def NumberText.token (n : NumberText) : Except ParseFault Token :=
  if n.places.isEmpty && n.exponentLength == 0 then
    match Number.ofNat? (Number.ofDigits n.whole) with
    | some k => .ok (.integer k)
    | none => .error (.invalidNumber (String.ofList n.whole))
  else .ok (.float (Number.floatOfNotation n.whole n.places n.exponent))

/-- A fault in a literal that starts at an offset. -/
def quoteError (start : Nat) : Text.QuoteFault → ParseError
  | .unterminated => ⟨.unterminatedString, start⟩
  | .badEscape distance c => ⟨.invalidEscape c, start + distance⟩

/-- A token, and the cursor after its characters. -/
def Scan.token (c : Cursor) (t : Token) (length : Nat) : Scan :=
  ⟨.ok ⟨t, c.offset⟩, c.advance length⟩

/-- Reads the token at a cursor, past blanks. -/
def nextToken (c : Cursor) : Scan :=
  let c := c.skipWhile Text.isBlank
  match c.rest with
  | [] => .token c .endOfText 0
  | first :: rest =>
    match markHere? c.rest with
    | some m => .token c (.mark m) m.text.length
    | none =>
      if first == '"' || first == '\'' then
        match Text.Quoted.read first 1 rest with
        | .ok (s, n) => .token c (.string (String.ofList s)) n
        | .error fault => ⟨.error (quoteError c.offset fault), c⟩
      else if Text.isIdentifierStart first then
        let word := c.rest.takeWhile Text.isIdentifierChar
        .token c (wordToken (String.ofList word)) word.length
      else if first.isDigit then
        let n := numberHere c.rest
        match n.token with
        | .ok t => .token c t n.length
        | .error fault => ⟨.error ⟨fault, c.offset⟩, c.advance n.length⟩
      else ⟨.error ⟨.unexpectedCharacter first, c.offset⟩, c⟩

/-! ## Regular expressions -/

/-- The characters of a pattern up to the slash that closes it, which stands alone: `\/` is a slash
of the pattern, and every other pair of a backslash and a character stays as it is. Gives the
pattern and the number of characters through the closing slash. -/
def patternHere? : List Char → Option (List Char × Nat)
  | [] => none
  | '/' :: _ => some ([], 1)
  | ['\\'] => none
  | '\\' :: '/' :: rest => (patternHere? rest).map fun (p, n) => ('/' :: p, n + 2)
  | '\\' :: c :: rest => (patternHere? rest).map fun (p, n) => ('\\' :: c :: p, n + 2)
  | c :: rest => (patternHere? rest).map fun (p, n) => (c :: p, n + 1)

/-- What is called for after a match operator. -/
def regexExpected : String := "regular expression"

/-- Reads the regular expression at a cursor, past blanks: a pattern between slashes and the letters
of its flags. -/
def nextRegex (c : Cursor) : Scan :=
  let c := c.skipWhile Text.isBlank
  match c.rest with
  | [] => ⟨.error ⟨.unexpectedEnd regexExpected, c.offset⟩, c⟩
  | '/' :: rest =>
    match patternHere? rest with
    | some (pattern, n) =>
      let flags := (rest.drop n).takeWhile Char.isAlpha
      .token c (.regex (String.ofList pattern) (String.ofList flags)) (1 + n + flags.length)
    | none => ⟨.error ⟨.unterminatedRegex, c.offset⟩, c.advance c.rest.length⟩
  | _ =>
    let other := nextToken c
    match other.outcome with
    | .ok found =>
      ⟨.error ⟨.unexpectedToken found.token.description regexExpected, c.offset⟩, other.cursor⟩
    | .error _ => other

/-! ## Whole texts -/

/-- The tokens of a text, up to its end or to the first text that is no token. -/
inductive Lexemes where
  | more (first : Lexeme) (rest : Lexemes)
  /-- Nothing but blanks is left. -/
  | done (offset : Nat)
  | fault (e : ParseError)

/-- Reads all tokens from a cursor on; after `=~` a regular expression is read. -/
def Lexemes.read (regex : Bool) (c : Cursor) : Lexemes :=
  let scan := if regex then nextRegex c else nextToken c
  match scan.outcome with
  | .error e => .fault e
  | .ok l =>
    match l.token with
    | .endOfText => .done l.offset
    | t =>
      if scan.cursor.rest.length < c.rest.length then
        .more l (Lexemes.read (t == .mark .matchSign) scan.cursor)
      else .done l.offset
termination_by c.rest.length

/-- The tokens of a text. -/
def lexemes (text : String) : Lexemes := Lexemes.read false (Cursor.start text)

end JsonPath.Query

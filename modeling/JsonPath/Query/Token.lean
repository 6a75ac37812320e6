import JsonPath.Number.Shortest

/-!
# Tokens

The words of an expression: literals, names, and the marks that punctuate them. A regular expression
is a token where it follows `=~`.
-/

namespace JsonPath.Query

/-- Punctuation and operators. -/
inductive Mark where
  | dollar
  | atSign
  | dot
  | dotDot
  | star
  | question
  | openBracket
  | closeBracket
  | openParen
  | closeParen
  | comma
  | colon
  | equal
  | notEqual
  | less
  | lessEqual
  | greater
  | greaterEqual
  | matchSign
  | and
  | or
  | not
  | plus
  | minus
  | slash
  | percent
  deriving DecidableEq

/-- How a mark is written. -/
def Mark.text : Mark → String
  | dollar => "$"
  | atSign => "@"
  | dot => "."
  | dotDot => ".."
  | star => "*"
  | question => "?"
  | openBracket => "["
  | closeBracket => "]"
  | openParen => "("
  | closeParen => ")"
  | comma => ","
  | colon => ":"
  | equal => "=="
  | notEqual => "!="
  | less => "<"
  | lessEqual => "<="
  | greater => ">"
  | greaterEqual => ">="
  | matchSign => "=~"
  | and => "&&"
  | or => "||"
  | not => "!"
  | plus => "+"
  | minus => "-"
  | slash => "/"
  | percent => "%"

inductive Token where
  | float (x : Float)
  /-- A whole number; signs are marks of their own. -/
  | integer (n : Int64)
  | string (s : String)
  | boolean (b : Bool)
  | null
  | identifier (name : String)
  | regex (pattern flags : String)
  | mark (m : Mark)
  /-- The end of the text. -/
  | endOfText
  deriving DecidableEq

/-- A float in messages: the fewest digits, always positional, with no point after a whole
number. -/
def floatText (x : Float) : String :=
  match Number.Binary64.ofFloat? x with
  | none => if x.isNaN then "NaN" else if x < 0.0 then "-inf" else "inf"
  | some b =>
    let magnitude :=
      if b.mantissa = 0 then "0"
      else
        let (whole, places) := (Number.Digits.shortest b).positional
        Number.Digits.text whole ++
          if places.isEmpty then "" else "." ++ Number.Digits.text places
    if b.negative then "-" ++ magnitude else magnitude

/-- A token in messages. -/
def Token.description : Token → String
  | float x => "number " ++ floatText x
  | integer n => "number " ++ toString n.toInt
  | string s => "string '" ++ s ++ "'"
  | boolean b => if b then "'true'" else "'false'"
  | null => "'null'"
  | identifier name => "identifier '" ++ name ++ "'"
  | regex pattern flags => "regex /" ++ pattern ++ "/" ++ flags
  | mark m => "'" ++ m.text ++ "'"
  | endOfText => "end of expression"

/-- A token and the number of characters before it. -/
structure Lexeme where
  token : Token
  offset : Nat
  deriving DecidableEq

end JsonPath.Query

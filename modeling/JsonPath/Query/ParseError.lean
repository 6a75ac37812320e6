/-!
# Errors in written expressions

An expression or a path that cannot be read is refused with one error: what is wrong, and the place,
as the number of characters before it.
-/

namespace JsonPath

/-- What is wrong with a written expression or path. -/
inductive ParseFault where
  | unexpectedCharacter (c : Char)
  | unexpectedToken (found expected : String)
  | unexpectedEnd (expected : String)
  | unterminatedString
  | unterminatedRegex
  | invalidEscape (c : Char)
  /-- A whole number too large. -/
  | invalidNumber (digits : String)
  | invalidRegex
  | unsupportedFlag (flag : Char)
  | unbalancedBracket (bracket : Char)
  | unknownFunction (name : String)
  | arityMismatch (name : String) (expected found : Nat)
  | zeroSliceStep
  | nestingTooDeep (limit : Nat)
  deriving DecidableEq

def ParseFault.message : ParseFault → String
  | unexpectedCharacter c => "unexpected character '" ++ c.toString ++ "'"
  | unexpectedToken found expected => "unexpected " ++ found ++ ", expected " ++ expected
  | unexpectedEnd expected => "unexpected end of expression, expected " ++ expected
  | unterminatedString => "unterminated string literal"
  | unterminatedRegex => "unterminated regular expression"
  | invalidEscape c => "invalid escape sequence '\\" ++ c.toString ++ "'"
  | invalidNumber digits => "invalid number '" ++ digits ++ "'"
  | invalidRegex => "invalid regular expression"
  | unsupportedFlag flag =>
    "invalid regular expression: unsupported flag '" ++ flag.toString ++ "'"
  | unbalancedBracket bracket => "unbalanced '" ++ bracket.toString ++ "'"
  | unknownFunction name => "unknown function '" ++ name ++ "'"
  | arityMismatch name expected found =>
    "function '" ++ name ++ "' takes " ++ toString expected ++ " argument(s), got " ++
      toString found
  | zeroSliceStep => "slice step cannot be zero"
  | nestingTooDeep limit => "expression nested deeper than " ++ toString limit ++ " levels"

/-- A fault and the number of characters before it. -/
structure ParseError where
  fault : ParseFault
  offset : Nat
  deriving DecidableEq

def ParseError.message (e : ParseError) : String :=
  e.fault.message ++ " at offset " ++ toString e.offset

end JsonPath

import JsonPath.Json.Value
import JsonPath.Number.Shortest
import JsonPath.Text.CharClass

/-!
# JSON text of values

Values are written compactly or indented by two spaces a level. Strings escape what must be escaped
and nothing else; floats have the fewest digits that read back, and a point or an exponent that
tells them from integers. Infinities and NaN, which JSON cannot write, become `null`.
-/

namespace JsonPath.Json

/-- The escape of a character in a string, if it must not stand for itself. -/
def escape? (c : Char) : Option (List Char) :=
  match c with
  | '"' => some ['\\', '"']
  | '\\' => some ['\\', '\\']
  | '\x08' => some ['\\', 'b']
  | '\x0c' => some ['\\', 'f']
  | '\n' => some ['\\', 'n']
  | '\r' => some ['\\', 'r']
  | '\t' => some ['\\', 't']
  | _ =>
    if c.toNat < 32 then
      some ['\\', 'u', '0', '0', Text.hexDigit (c.toNat / 16), Text.hexDigit (c.toNat % 16)]
    else none

/-- The characters of a string in quotes. -/
def quoted (s : String) : List Char :=
  '"' :: s.toList.flatMap (fun c => (escape? c).getD [c]) ++ ['"']

/-- Floats are written positionally while the exponent of the first digit is at least this. -/
def minPositional : Int := -5

/-- From this exponent on floats are written with an exponent. -/
def minScientific : Int := 16

/-- A finite magnitude: positional with at least one place, or a first digit, the rest after a
point and a signed exponent. -/
def magnitudeText (d : Number.Digits) : String :=
  if minPositional ≤ d.exponent ∧ d.exponent < minScientific then
    let (whole, places) := d.positional
    let places := if places.isEmpty then [0] else places
    Number.Digits.text whole ++ "." ++ Number.Digits.text places
  else
    let first := Number.Digits.text (d.digits.take 1)
    let rest := Number.Digits.text (d.digits.drop 1)
    let sign := if d.exponent < 0 then "e-" else "e+"
    first ++ (if rest.isEmpty then "" else "." ++ rest) ++ sign ++ toString d.exponent.natAbs

/-- The text of a float. -/
def floatText (x : Float) : String :=
  match Number.Binary64.ofFloat? x with
  | none => "null"
  | some b =>
    let magnitude := if b.mantissa = 0 then "0.0" else magnitudeText (Number.Digits.shortest b)
    if b.negative then "-" ++ magnitude else magnitude

/-- The text of a value that holds no others; empty for arrays and objects. -/
def scalarText : Value → String
  | .null => "null"
  | .bool b => if b then "true" else "false"
  | .float x => floatText x
  | .int n => toString n.toInt
  | .string s => String.ofList (quoted s)
  | .array _ => ""
  | .object _ => ""

mutual

/-- Compact text. -/
def compact : Value → String
  | .array items => "[" ++ compactItems items ++ "]"
  | .object members => "\x7b" ++ compactMembers members ++ "\x7d"
  | scalar => scalarText scalar

def compactItems : List Value → String
  | [] => ""
  | [v] => compact v
  | v :: rest => compact v ++ "," ++ compactItems rest

def compactMembers : List (String × Value) → String
  | [] => ""
  | [(name, v)] => String.ofList (quoted name) ++ ":" ++ compact v
  | (name, v) :: rest =>
    String.ofList (quoted name) ++ ":" ++ compact v ++ "," ++ compactMembers rest

end

/-- The start of a line at a level. -/
def indentation (level : Nat) : String := String.ofList (List.replicate (2 * level) ' ')

mutual

/-- Indented text, for a value that starts at a level. -/
def indented (level : Nat) : Value → String
  | .array [] => "[]"
  | .object [] => "\x7b\x7d"
  | .array items => "[\n" ++ indentedItems (level + 1) items ++ "\n" ++ indentation level ++ "]"
  | .object members =>
    "\x7b\n" ++ indentedMembers (level + 1) members ++ "\n" ++ indentation level ++ "\x7d"
  | scalar => scalarText scalar

def indentedItems (level : Nat) : List Value → String
  | [] => ""
  | [v] => indentation level ++ indented level v
  | v :: rest => indentation level ++ indented level v ++ ",\n" ++ indentedItems level rest

def indentedMembers (level : Nat) : List (String × Value) → String
  | [] => ""
  | [(name, v)] => indentation level ++ String.ofList (quoted name) ++ ": " ++ indented level v
  | (name, v) :: rest =>
    indentation level ++ String.ofList (quoted name) ++ ": " ++ indented level v ++ ",\n" ++
      indentedMembers level rest

end

/-- Indented text. -/
def pretty (v : Value) : String := indented 0 v

/-- Either form. -/
def render (isPretty : Bool) (v : Value) : String := if isPretty then pretty v else compact v

end JsonPath.Json

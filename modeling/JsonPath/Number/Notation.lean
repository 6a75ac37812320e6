import JsonPath.Number.Binary64
import JsonPath.Number.Integer

/-!
# Numbers in decimal notation

A written number has digits before and after a point and an exponent of ten. Its value is the
nearest double, or an integer where only digits before the point are written.
-/

namespace JsonPath.Number

/-- The value of a digit. -/
def digitValue (c : Char) : Nat := c.toNat - 48

/-- The number that decimal digits write. -/
def ofDigits (digits : List Char) : Nat := digits.foldl (fun n c => 10 * n + digitValue c) 0

/-- The double nearest to `whole.places · 10 ^ exponent`. -/
def floatOfNotation (whole places : List Char) (exponent : Int) : Float :=
  floatOfDecimal (ofDigits (whole ++ places)) (exponent - places.length)

/-- Reads an exponent at the start of a text: its value, and the number of characters, which is zero
where no exponent is written. -/
def exponentHere (cs : List Char) : Int × Nat :=
  match cs with
  | c :: rest =>
    if c == 'e' || c == 'E' then
      let signed := match rest.head? with
        | some s => s == '+' || s == '-'
        | none => false
      let digits := (if signed then rest.drop 1 else rest).takeWhile Char.isDigit
      if digits.isEmpty then (0, 0)
      else
        let magnitude : Int := ofDigits digits
        (if rest.head? == some '-' then -magnitude else magnitude,
          1 + (if signed then 1 else 0) + digits.length)
    else (0, 0)
  | [] => (0, 0)

/-! ## Numbers in strings -/

/-- Takes a sign off. -/
def splitSign : List Char → Bool × List Char
  | '-' :: rest => (true, rest)
  | '+' :: rest => (false, rest)
  | rest => (false, rest)

/-- A text of digits with an optional sign, as a 64-bit integer. -/
def parseInt? (cs : List Char) : Option Int64 :=
  let (negative, digits) := splitSign cs
  if digits.isEmpty || !digits.all Char.isDigit then none
  else
    let n : Int := ofDigits digits
    ofInt? (if negative then -n else n)

/-- A text of an optional sign, digits with an optional point among them, and an optional exponent,
as a finite double. -/
def parseFloat? (cs : List Char) : Option Float :=
  let (negative, cs) := splitSign cs
  let whole := cs.takeWhile Char.isDigit
  let (places, rest) := match cs.dropWhile Char.isDigit with
    | '.' :: rest => (rest.takeWhile Char.isDigit, rest.dropWhile Char.isDigit)
    | rest => ([], rest)
  let (exponent, taken) := exponentHere rest
  if (whole.isEmpty && places.isEmpty) || !(rest.drop taken).isEmpty then none
  else
    let x := floatOfNotation whole places exponent
    if x.isFinite then some (withSign negative x) else none

end JsonPath.Number

import JsonPath.Json.Value
import JsonPath.Text.Escape

/-!
# Reading JSON text

JSON text is read strictly: nothing but one value and blanks around it. Arrays and objects are
nested less than 128 deep. Of members with one name the last value counts, in the first one's place.

Floats are read by accumulating digits and scaling once by a power of ten, so that a long number may
come out one unit in the last place beside the nearest double.
-/

namespace JsonPath.Json

/-- Blanks between tokens. -/
def isBlank (c : Char) : Bool := c == ' ' || c == '\t' || c == '\n' || c == '\r'

def skipBlanks (cs : List Char) : List Char := cs.dropWhile isBlank

/-! ## Strings -/

/-- The character of a one-letter escape. -/
def shortEscape? : Char → Option Char
  | '"' => some '"'
  | '\\' => some '\\'
  | '/' => some '/'
  | 'b' => some '\x08'
  | 'f' => some '\x0c'
  | 'n' => some '\n'
  | 'r' => some '\r'
  | 't' => some '\t'
  | _ => none

/-- Reads the rest of a string after its opening quote, through the closing one. -/
def readString (cs : List Char) : Option (List Char × List Char) :=
  match cs with
  | [] => none
  | '"' :: rest => some ([], rest)
  | '\\' :: 'u' :: rest => do
    let (c, taken) ← Text.codeEscape? rest
    let (s, rest) ← readString (rest.drop taken)
    return (c :: s, rest)
  | '\\' :: e :: rest => do
    let c ← shortEscape? e
    let (s, rest) ← readString rest
    return (c :: s, rest)
  | c :: rest => do
    if c == '\\' || c.toNat < 32 then none
    else
      let (s, rest) ← readString rest
      return (c :: s, rest)
termination_by cs.length
decreasing_by all_goals simp only [List.length_cons, List.length_drop]; omega

/-! ## Numbers -/

/-- The digits at the start of a text, and what follows. -/
def digits (cs : List Char) : List Nat × List Char :=
  ((cs.takeWhile Char.isDigit).map fun c => c.toNat - 48, cs.dropWhile Char.isDigit)

/-- A number on its way: the digits that fit 64 bits, and the power of ten they are scaled by. -/
structure Scaled where
  significand : Nat
  exponent : Int

/-- Whether one more digit fits. -/
def Scaled.fits (s : Scaled) (d : Nat) : Bool := 10 * s.significand + d < Nat.pow 2 64

/-- Takes the digits before the point: from the first that does not fit, each counts in the exponent
only. -/
def Scaled.addWhole (s : Scaled) : List Nat → Scaled
  | [] => s
  | d :: ds =>
    if s.fits d then addWhole ⟨10 * s.significand + d, s.exponent⟩ ds
    else ⟨s.significand, s.exponent + (ds.length + 1)⟩

/-- Takes the digits after the point: from the first that does not fit, they are dropped. -/
def Scaled.addPlaces (s : Scaled) : List Nat → Scaled
  | [] => s
  | d :: ds =>
    if s.fits d then addPlaces ⟨10 * s.significand + d, s.exponent - 1⟩ ds else s

/-- Multiplies a float by a power of ten: large negative powers in steps of 308, and the rest by one
operation. There is no result beyond the largest float. -/
def scale? (f : Float) (exponent : Int) : Option Float :=
  if 308 < exponent then (if f == 0.0 then some f else none)
  else if exponent < -308 then
    if f == 0.0 then some f else scale? (f / 1e308) (exponent + 308)
  else if 0 ≤ exponent then
    let product := f * Number.floatOfDecimal 1 exponent
    if product.isInf then none else some product
  else some (f / Number.floatOfDecimal 1 (-exponent))
termination_by (-exponent).toNat
decreasing_by omega

/-- The value of digits and a written exponent. -/
def Scaled.float? (s : Scaled) (negative : Bool) (written : Int) : Option Value := do
  let f ←
    if written.natAbs < Nat.pow 2 31 then
      scale? (Number.floatOfNat s.significand) (s.exponent + written)
    else if 0 < written ∧ s.significand ≠ 0 then none
    else some 0.0
  return .float (Number.withSign negative f)

/-- The value of digits with neither point nor exponent: an integer if it fits, else a float; a
negative zero is a float. -/
def Scaled.whole? (s : Scaled) (negative : Bool) : Option Value :=
  if s.exponent ≠ 0 then s.float? negative 0
  else
    let n : Int := if negative then -(s.significand : Int) else s.significand
    if negative ∧ s.significand = 0 then some (.float (-0.0))
    else
      match Number.ofInt? n with
      | some n => some (.int n)
      | none => some (.float (Number.withSign negative (Number.floatOfNat s.significand)))

/-- Reads the digits after a point or an exponent mark; there must be one. -/
def someDigits (cs : List Char) : Option (List Nat × List Char) :=
  let (ds, rest) := digits cs
  if ds.isEmpty then none else some (ds, rest)

/-- Reads an exponent if there is one. -/
def readExponent (cs : List Char) : Option (Option Int × List Char) :=
  match cs with
  | c :: rest =>
    if c == 'e' || c == 'E' then do
      let (negative, rest) := match rest with
        | '-' :: rest => (true, rest)
        | '+' :: rest => (false, rest)
        | rest => (false, rest)
      let (ds, rest) ← someDigits rest
      let n : Nat := ds.foldl (fun n d => 10 * n + d) 0
      return (some (if negative then -(n : Int) else n), rest)
    else some (none, cs)
  | [] => some (none, [])

/-- Reads a number. A zero is not followed by another digit before the point. -/
def readNumber (cs : List Char) : Option (Value × List Char) := do
  let (negative, cs) := match cs with
    | '-' :: rest => (true, rest)
    | rest => (false, rest)
  let (whole, cs) ← someDigits cs
  if whole.head? == some 0 && whole.length != 1 then none
  else
    let s := Scaled.addWhole ⟨0, 0⟩ whole
    let (s, isWhole, cs) ← match cs with
      | '.' :: rest => do
        let (places, rest) ← someDigits rest
        some (s.addPlaces places, false, rest)
      | rest => some (s, true, rest)
    let (exponent, cs) ← readExponent cs
    let value ← match exponent with
      | some e => s.float? negative e
      | none => if isWhole then s.whole? negative else s.float? negative 0
    return (value, cs)

/-! ## Values -/

/-- Takes a given text. -/
def readWord (word : String) (v : Value) (cs : List Char) : Option (Value × List Char) :=
  if word.toList.isPrefixOf cs then some (v, cs.drop word.length) else none

/-- Reads items up to a closing bracket, with commas between them. An item takes a character, so
there are at most as many as `fuel`, the length of the text. -/
def readItems (item : List Char → Option (α × List Char)) (close : Char) :
    (fuel : Nat) → List Char → Option (List α × List Char)
  | 0, _ => none
  | fuel + 1, cs => do
    let (a, cs) ← item cs
    match skipBlanks cs with
    | c :: cs =>
      if c == ',' then do
        let (as, cs) ← readItems item close fuel cs
        return (a :: as, cs)
      else if c == close then some ([a], cs)
      else none
    | [] => none

/-- Reads what is between brackets: nothing, or items. -/
def readSeries (item : List Char → Option (α × List Char)) (close : Char) (cs : List Char) :
    Option (List α × List Char) :=
  match skipBlanks cs with
  | c :: rest => if c == close then some ([], rest) else readItems item close cs.length cs
  | [] => none

/-- Reads a member with the reader for its value. -/
def readMember (value : List Char → Option (Value × List Char)) (cs : List Char) :
    Option ((String × Value) × List Char) := do
  match skipBlanks cs with
  | '"' :: cs => do
    let (name, cs) ← readString cs
    match skipBlanks cs with
    | ':' :: cs => do
      let (v, cs) ← value cs
      return ((String.ofList name, v), cs)
    | _ => none
  | _ => none

/-- Reads a value with at most `depth` levels of brackets around its scalars. -/
def readValue : (depth : Nat) → List Char → Option (Value × List Char)
  | depth, cs =>
    match skipBlanks cs with
    | 'n' :: rest => readWord "ull" .null rest
    | 't' :: rest => readWord "rue" (.bool true) rest
    | 'f' :: rest => readWord "alse" (.bool false) rest
    | '"' :: rest => (readString rest).map fun (s, rest) => (.string (String.ofList s), rest)
    | '[' :: rest =>
      match depth with
      | 0 => none
      | depth + 1 =>
        (readSeries (readValue depth) ']' rest).map fun (items, rest) => (.array items, rest)
    | '\x7b' :: rest =>
      match depth with
      | 0 => none
      | depth + 1 =>
        (readSeries (readMember (readValue depth)) '\x7d' rest).map fun (entries, rest) =>
          (.object (Members.ofList entries), rest)
    | rest => readNumber rest

/-- Brackets are nested no deeper than this. -/
def maxDepth : Nat := 127

/-- The value of a JSON text, if it is one. -/
def parse? (text : String) : Option Value := do
  let (v, rest) ← readValue maxDepth text.toList
  if (skipBlanks rest).isEmpty then some v else none

end JsonPath.Json

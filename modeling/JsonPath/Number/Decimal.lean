import JsonPath.Number.Binary64
import JsonPath.Number.Integer

/-!
# Decimals of 96 bits

A decimal is `coefficient · 10 ^ -scale` with a coefficient below `2 ^ 96` in magnitude and a scale
of at most 28. Sums, products and quotients are exact where they fit, and else rounded half to even
at the largest scale at which they fit; where none does there is no result.

Decimals come into play where an operation has an integer and a double, and their arithmetic is no
part of the path language. What is assumed of it is what this module says, beyond the above:

* a double becomes a decimal by working off its power of two, which may cost its last digits, and
  by dropping what a double does not hold;
* there is no decimal of a double that does not fit, and none where `divideFives` runs out of room
  with too many tens to come, as it does at `2 ^ 96`;
* a decimal becomes a double in two parts, rounded to as many places as the decimal has.

Nothing that is proved of expressions rests on this. There an operation on an integer and a double
gives some number or nothing.
-/

namespace JsonPath.Number

/-- The decimal `coefficient · 10 ^ -scale`. -/
structure Decimal where
  coefficient : Int
  scale : Nat

namespace Decimal

/-- Magnitudes of coefficients stay below this bound. -/
def bound : Nat := Nat.pow 2 96

/-- The largest scale. -/
def maxScale : Nat := 28

def ofInt (n : Int) : Decimal := ⟨n, 0⟩

/-- Divides and rounds half to even. -/
def divideEven (n d : Nat) : Nat :=
  let q := n / d
  let rest := 2 * (n % d)
  if rest < d then q else if d < rest then q + 1 else if q % 2 == 0 then q else q + 1

/-! ## Reading a double -/

/-- A magnitude on its way from binary to decimal: `m · 2 ^ (-twos) · 5 ^ (-fives)…`, that is,
`m · 10 ^ tens · 5 ^ fives` with `fives` still to be worked off. -/
structure Draft where
  m : Nat
  fives : Int
  tens : Int

/-- Works off negative powers of two: each is halved away, or becomes a power of five and a power of
ten, with precision given up once the magnitude would not fit. -/
def multiplyFives : Nat → Draft → Draft
  | 0, d => d
  | n + 1, ⟨m, fives, tens⟩ =>
    if m % 2 == 0 then multiplyFives n ⟨m / 2, fives - 1, tens + 1⟩
    else if 5 * m < bound then multiplyFives n ⟨5 * m, fives - 1, tens⟩
    else multiplyFives n ⟨m / 2, fives - 1, tens + 1⟩

/-- Works off positive powers of two, by doubling while there is room and else by fifths. Without
room there is no result if the tens to come are more than half as many as the fifths. -/
def divideFives : Nat → Draft → Option Draft
  | 0, d => some d
  | n + 1, ⟨m, fives, tens⟩ =>
    if m < Nat.pow 2 95 then divideFives n ⟨2 * m, fives + 1, tens - 1⟩
    else if 2 * tens > -fives then none
    else divideFives n ⟨m / 5, fives + 1, tens⟩

/-- Multiplies by `10 ^ n`, if the result fits. -/
def multiplyTens : Nat → Nat → Option Nat
  | 0, m => some m
  | n + 1, m => if 10 * m < bound then multiplyTens n (10 * m) else none

/-- Divides by ten and rounds a half up. -/
def tenth (m : Nat) : Nat := if m % 10 ≥ 5 then m / 10 + 1 else m / 10

/-- Brings the scale down to the largest one; a magnitude that vanishes is zero. -/
def limitScale : Nat → Nat → Nat → Nat × Nat
  | 0, m, scale => (m, scale)
  | n + 1, m, scale =>
    if scale ≤ maxScale then (m, scale)
    else if m / 10 = 0 then (0, 0)
    else limitScale n (tenth m) (scale - 1)

/-- Keeps no more digits than a double holds. -/
def limitPrecision : (scale m : Nat) → Nat × Nat
  | 0, m => (m, 0)
  | scale + 1, m => if Nat.pow 2 52 ≤ m then limitPrecision scale (tenth m) else (m, scale + 1)

/-- Drops zeros at the end. -/
def normalize : (scale m : Nat) → Nat × Nat
  | 0, m => (m, 0)
  | scale + 1, m => if m % 10 == 0 then normalize scale (m / 10) else (m, scale + 1)

/-- The decimal of a finite double, to about the precision of the double. -/
def ofFloat? (x : Float) : Option Decimal := do
  let b ← Binary64.ofFloat? x
  if b.mantissa = 0 then return ⟨0, 0⟩
  let sign (m : Nat) : Int := if b.negative then -(m : Int) else m
  let start : Draft := ⟨b.mantissa, -b.exponent, b.exponent⟩
  let d ← if 0 ≤ start.fives then some (multiplyFives start.fives.toNat start)
    else divideFives (-start.fives).toNat start
  if 0 ≤ d.tens then
    let m ← multiplyTens d.tens.toNat d.m
    return ⟨sign m, 0⟩
  else
    let (m, scale) := limitScale (-d.tens).toNat d.m (-d.tens).toNat
    let (m, scale) := limitPrecision scale m
    let (m, scale) := normalize scale m
    return ⟨sign m, scale⟩

/-! ## Arithmetic -/

/-- Tries the scales from `scale` down: the first at which `numerator / denominator`, a fraction at
scale 0, fits once rounded. -/
def fit? (negative : Bool) (numerator denominator : Nat) : (scale : Nat) → Option Decimal
  | 0 =>
    let m := divideEven numerator denominator
    if m < bound then some ⟨if negative then -(m : Int) else m, 0⟩ else none
  | scale + 1 =>
    let m := divideEven (numerator * Nat.pow 10 (scale + 1)) denominator
    if m < bound then some ⟨if negative then -(m : Int) else m, scale + 1⟩
    else fit? negative numerator denominator scale

/-- The decimal `coefficient · 10 ^ -scale`, rounded to what fits. -/
def ofExact? (coefficient : Int) (scale : Nat) : Option Decimal :=
  fit? (coefficient < 0) coefficient.natAbs (Nat.pow 10 scale) (min scale maxScale)

/-- The coefficient at a larger scale. -/
def coefficientAt (d : Decimal) (scale : Nat) : Int := d.coefficient * Nat.pow 10 (scale - d.scale)

def add? (a b : Decimal) : Option Decimal :=
  if a.coefficient = 0 then some b
  else if b.coefficient = 0 then some a
  else
    let scale := max a.scale b.scale
    ofExact? (a.coefficientAt scale + b.coefficientAt scale) scale

def neg (a : Decimal) : Decimal := ⟨-a.coefficient, a.scale⟩

def sub? (a b : Decimal) : Option Decimal := add? a b.neg

def mul? (a b : Decimal) : Option Decimal :=
  if a.coefficient = 0 ∨ b.coefficient = 0 then some ⟨0, 0⟩
  else ofExact? (a.coefficient * b.coefficient) (a.scale + b.scale)

/-- The quotient has no zeros at its end. -/
def div? (a b : Decimal) : Option Decimal := do
  if b.coefficient = 0 then none
  else
    let negative := (a.coefficient < 0) != (b.coefficient < 0)
    let q ← fit? negative (a.coefficient.natAbs * Nat.pow 10 b.scale)
      (b.coefficient.natAbs * Nat.pow 10 a.scale) maxScale
    let (m, scale) := normalize q.scale q.coefficient.natAbs
    return ⟨if negative then -(m : Int) else m, scale⟩

/-- The remainder is exact and has the sign of the left side. -/
def mod? (a b : Decimal) : Option Decimal :=
  if b.coefficient = 0 then none
  else
    let scale := max a.scale b.scale
    some ⟨(a.coefficientAt scale).tmod (b.coefficientAt scale), scale⟩

/-! ## Back to numbers -/

/-- The value as a 64-bit integer, if it is one. -/
def toInt64? (d : Decimal) : Option Int64 :=
  let unit : Int := Nat.pow 10 d.scale
  if d.coefficient.tmod unit = 0 then ofInt? (d.coefficient.tdiv unit) else none

/-- The power `base ^ n` times `result`, by repeated squaring in the arithmetic of doubles. -/
def floatPower (n : Nat) (base result : Float) : Float :=
  if _h : n = 0 then result
  else floatPower (n / 2) (base * base) (if n % 2 == 1 then result * base else result)
termination_by n
decreasing_by omega

/-- The value as a double. The whole part and the fraction are converted apart, added, and rounded
to as many places as the decimal has. -/
def toFloat (d : Decimal) : Float :=
  let m := d.coefficient.natAbs
  let unit := Nat.pow 10 d.scale
  let magnitude :=
    if d.scale = 0 then floatOfNat m
    else
      let fraction := floatOfNat (m % unit) / floatOfNat unit
      if fraction == 0.0 then floatOfNat (m / unit)
      else
        let power := floatPower d.scale 10.0 1.0
        round ((floatOfNat (m / unit) + fraction) * power) / power
  withSign (d.coefficient < 0) magnitude

end Decimal

end JsonPath.Number

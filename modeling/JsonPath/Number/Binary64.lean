/-!
# Doubles as exact binary fractions

A finite double is `± mantissa · 2 ^ exponent` with whole `mantissa` and `exponent`. The
functions here that round, cut or divide work on that form in exact arithmetic, so each is said by
one rule, without reference to how a machine does it.
-/

namespace JsonPath.Number

/-- The exact value of a finite double. -/
structure Binary64 where
  negative : Bool
  mantissa : Nat
  exponent : Int

/-- Takes a finite double apart; there is no fraction for an infinity or a NaN. -/
def Binary64.ofFloat? (x : Float) : Option Binary64 :=
  let bits := x.toBits.toNat
  let negative := decide (Nat.pow 2 63 ≤ bits)
  let exponent : Nat := bits / Nat.pow 2 52 % Nat.pow 2 11
  let fraction : Nat := bits % Nat.pow 2 52
  if exponent = Nat.pow 2 11 - 1 then none
  else if exponent = 0 then some ⟨negative, fraction, -1074⟩
  else some ⟨negative, Nat.pow 2 52 + fraction, (exponent : Int) - 1075⟩

/-- The double nearest to an integer, ties to even. -/
def floatOfInt (n : Int) : Float := Float.ofModel (Float.Model.ofInt n)

/-- The double nearest to a natural number, ties to even. -/
def floatOfNat (n : Nat) : Float := floatOfInt n

/-- The double nearest to `mantissa · 10 ^ exponent`, ties to even. -/
def floatOfDecimal (mantissa : Nat) (exponent : Int) : Float :=
  Float.ofModel (Float.Model.ofScientific mantissa exponent)

/-- The double nearest to `mantissa · 2 ^ exponent`, ties to even. -/
def floatOfBinary (mantissa : Nat) (exponent : Int) : Float :=
  if 0 ≤ exponent then floatOfNat (mantissa * Nat.pow 2 exponent.toNat)
  else floatOfDecimal (mantissa * Nat.pow 5 (-exponent).toNat) exponent

/-- Gives a magnitude a sign; a negative zero keeps it. -/
def withSign (negative : Bool) (magnitude : Float) : Float :=
  if negative then -magnitude else magnitude

namespace Binary64

/-- The magnitude rounded toward zero. -/
def truncate (b : Binary64) : Nat :=
  if 0 ≤ b.exponent then b.mantissa * Nat.pow 2 b.exponent.toNat
  else b.mantissa / Nat.pow 2 (-b.exponent).toNat

/-- Whether the value is a whole number. -/
def isWhole (b : Binary64) : Bool :=
  0 ≤ b.exponent || b.mantissa % Nat.pow 2 (-b.exponent).toNat == 0

/-- The magnitude rounded away from zero. -/
def inflate (b : Binary64) : Nat :=
  if b.isWhole then b.truncate else b.truncate + 1

/-- The magnitude rounded to the nearest whole number, a half upward. -/
def nearest (b : Binary64) : Nat :=
  if 0 ≤ b.exponent then b.truncate
  else (2 * b.mantissa + Nat.pow 2 (-b.exponent).toNat) / Nat.pow 2 ((-b.exponent).toNat + 1)

/-- The value as a whole number, if it is one. -/
def toInt? (b : Binary64) : Option Int :=
  if b.isWhole then some (if b.negative then -(b.truncate : Int) else b.truncate) else none

/-- Puts a whole magnitude in place of the value; doubles of exponent 0 or more stay as they are. -/
def replaceMagnitude (x : Float) (magnitude : Binary64 → Nat) : Float :=
  match ofFloat? x with
  | some b => if 0 ≤ b.exponent then x else withSign b.negative (floatOfNat (magnitude b))
  | none => x

end Binary64

/-- The largest whole double not above `x`. -/
def floor (x : Float) : Float :=
  Binary64.replaceMagnitude x fun b => if b.negative then b.inflate else b.truncate

/-- The smallest whole double not below `x`; it is `-0.0` between -1 and 0. -/
def ceil (x : Float) : Float :=
  Binary64.replaceMagnitude x fun b => if b.negative then b.truncate else b.inflate

/-- The whole double nearest to `x`, a half away from zero. -/
def round (x : Float) : Float := Binary64.replaceMagnitude x Binary64.nearest

/-- The remainder of truncating division, exact and with the sign of `x`. -/
def remainder (x y : Float) : Float :=
  match Binary64.ofFloat? x, Binary64.ofFloat? y with
  | some a, some b =>
    if b.mantissa = 0 then 0.0 / 0.0
    else
      let exponent := min a.exponent b.exponent
      let scaled (c : Binary64) := c.mantissa * Nat.pow 2 (c.exponent - exponent).toNat
      withSign a.negative (floatOfBinary (scaled a % scaled b) exponent)
  | some _, none => if y.isNaN then y else x
  | none, _ => 0.0 / 0.0

end JsonPath.Number

import JsonPath.Number.Binary64

/-!
# Shortest decimal digits

The shortest digits of a double are the fewest decimal digits that read back as that double. The
doubles next to it bound an interval of reals that all read back as it; of the decimals with that
few digits inside the interval the one nearest to the double is taken, and the even one of two
equally near.
-/

namespace JsonPath.Number

/-- The positive decimal `0.d₁d₂… · 10 ^ (exponent + 1)`: `exponent` is that of the first digit. -/
structure Digits where
  digits : List Nat
  exponent : Int

namespace Digits

/-- The decimal digits of a number, most significant first. -/
def ofNat (n : Nat) : List Nat := (Nat.toDigits 10 n).map fun c => c.toNat - '0'.toNat

/-- A positive fraction `numerator / denominator`. -/
structure Ratio where
  numerator : Nat
  denominator : Nat

/-- Whether `a ≤ b`, or `a < b` when the bound does not count. -/
def Ratio.below (included : Bool) (a b : Ratio) : Bool :=
  let l := a.numerator * b.denominator
  let r := b.numerator * a.denominator
  if included then l ≤ r else l < r

/-- The fraction `mantissa · 2 ^ exponent`. -/
def Ratio.ofBinary (mantissa : Nat) (exponent : Int) : Ratio :=
  if 0 ≤ exponent then ⟨mantissa * Nat.pow 2 exponent.toNat, 1⟩
  else ⟨mantissa, Nat.pow 2 (-exponent).toNat⟩

/-- The fraction times `10 ^ shift`. -/
def Ratio.scale (r : Ratio) (shift : Int) : Ratio :=
  if 0 ≤ shift then ⟨r.numerator * Nat.pow 10 shift.toNat, r.denominator⟩
  else ⟨r.numerator, r.denominator * Nat.pow 10 (-shift).toNat⟩

/-- The exponent of ten of the first digit of a positive fraction. -/
def Ratio.magnitude (r : Ratio) : Int :=
  let guess : Int := (Nat.toDigits 10 r.numerator).length - (Nat.toDigits 10 r.denominator).length
  if Ratio.below true ⟨1, 1⟩ (r.scale (-guess)) then guess else guess - 1

/-- The reals that read back as one double. -/
structure Interval where
  low : Ratio
  high : Ratio
  /-- Whether the two ends belong to it. -/
  closed : Bool

/-- The interval of a positive double: half way to its neighbours, the lower one being nearer at a
power of two. -/
def interval (b : Binary64) : Interval :=
  let nearerBelow := b.mantissa == Nat.pow 2 52 && b.exponent != -1074
  { low := if nearerBelow then Ratio.ofBinary (4 * b.mantissa - 1) (b.exponent - 2)
           else Ratio.ofBinary (2 * b.mantissa - 1) (b.exponent - 1)
    high := Ratio.ofBinary (2 * b.mantissa + 1) (b.exponent - 1)
    closed := b.mantissa % 2 == 0 }

/-- Whether `n · 10 ^ shift` lies in the interval. -/
def Interval.holds (i : Interval) (n : Nat) (shift : Int) : Bool :=
  let x := (Ratio.mk n 1).scale shift
  i.low.below i.closed x && x.below i.closed i.high

/-- The point of the grid of step `10 ^ shift` that lies in the interval nearest to `r`. -/
def Interval.gridPoint? (i : Interval) (r : Ratio) (shift : Int) : Option Nat :=
  let s := r.scale (-shift)
  let down := s.numerator / s.denominator
  match i.holds down shift, i.holds (down + 1) shift with
  | false, false => none
  | true, false => some down
  | false, true => some (down + 1)
  | true, true =>
    let rest := 2 * (s.numerator % s.denominator)
    if rest < s.denominator then some down
    else if s.denominator < rest then some (down + 1)
    else some (if down % 2 == 0 then down else down + 1)

/-- Searches the grids of `count`, `count + 1`, … digits, `fuel` of them. -/
def search (i : Interval) (r : Ratio) (magnitude : Int) : (fuel count : Nat) → Nat × Int
  | 0, _ => (0, 0)
  | fuel + 1, count =>
    let shift := magnitude - count + 1
    match i.gridPoint? r shift with
    | some n => (n, shift)
    | none => search i r magnitude fuel (count + 1)

/-- Drops the zeros at the end of a list of digits. -/
def dropTrailingZeros (digits : List Nat) : List Nat := (digits.reverse.dropWhile (· == 0)).reverse

/-- The shortest digits of the magnitude of a non-zero double; seventeen are always enough. -/
def shortest (b : Binary64) : Digits :=
  let r := Ratio.ofBinary b.mantissa b.exponent
  let (n, shift) := search (interval b) r r.magnitude 17 1
  let digits := ofNat n
  ⟨dropTrailingZeros digits, shift + digits.length - 1⟩

/-- The character of a digit. -/
def digitChar (d : Nat) : Char := Char.ofNat ('0'.toNat + d)

def text (digits : List Nat) : String := String.ofList (digits.map digitChar)

/-- The digits before the point and those after it, in positional notation. -/
def positional (d : Digits) : List Nat × List Nat :=
  if d.exponent < 0 then ([0], List.replicate (-d.exponent - 1).toNat 0 ++ d.digits)
  else
    let whole := d.exponent.toNat + 1
    (d.digits.take whole ++ List.replicate (whole - d.digits.length) 0, d.digits.drop whole)

end Digits

end JsonPath.Number

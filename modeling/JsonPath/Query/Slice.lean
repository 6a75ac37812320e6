import JsonPath.Number.Integer

/-!
# Slices

A slice picks elements of an array by a first position, one to stop before, and a step. Negative
positions count from the end, positions outside the array move to its ends, and a negative step goes
backward.

Positions are computed in 64-bit integers, each sum being checked: `indices?` gives nothing if one
of them does not fit.
-/

namespace JsonPath.Query

open Number (ofInt? toInt_of_ofInt?)

/-- The bounds and the step of a slice, each of which may be left out. -/
structure Slice where
  start : Option Int64
  stop : Option Int64
  step : Option Int64
  deriving DecidableEq

namespace Slice

/-- The step; one that is left out is 1. -/
def stride (s : Slice) : Int64 := s.step.getD 1

/-- Moves a number between two bounds. -/
def clamp (low high n : Int64) : Int64 := max low (min n high)

/-- A bound as a position; one that is left out is at `default`, a negative one counts from the
end. -/
def bound? (length default low high : Int64) : Option Int64 → Option Int64
  | none => some (clamp low high default)
  | some n =>
    if n < 0 then (ofInt? (n.toInt + length.toInt)).map (clamp low high)
    else some (clamp low high n)

/-- The positions from `i` on, `step` apart, that lie before `stop`. Where the next one does not fit
64 bits it lies behind every bound, and there are no more. -/
def forward (stop step : Int64) (hstep : 0 < step) (i : Int64) : List Nat :=
  if i < stop then
    i.toInt.toNat ::
      match _h : ofInt? (i.toInt + step.toInt) with
      | some next => forward stop step hstep next
      | none => []
  else []
termination_by (stop.toInt - i.toInt).toNat
decreasing_by
  have hnext := toInt_of_ofInt? (by assumption)
  have hpos := Int64.lt_iff_toInt_lt.1 hstep
  have hi := Int64.lt_iff_toInt_lt.1 (by assumption : i < stop)
  simp only [Int64.toInt_zero] at hpos
  omega

/-- The positions from `i` down, a negative `step` apart, that lie behind `stop`. -/
def backward? (stop step : Int64) (hstep : step < 0) (i : Int64) : Option (List Nat) :=
  if stop < i then
    match _h : ofInt? (i.toInt + step.toInt) with
    | some next => (backward? stop step hstep next).map (i.toInt.toNat :: ·)
    | none => none
  else some []
termination_by (i.toInt - stop.toInt).toNat
decreasing_by
  have hnext := toInt_of_ofInt? (by assumption)
  have hneg := Int64.lt_iff_toInt_lt.1 hstep
  have hi := Int64.lt_iff_toInt_lt.1 (by assumption : stop < i)
  simp only [Int64.toInt_zero] at hneg
  omega

/-- The positions that the slice picks from an array of some length, in the order of picking, unless
a sum on the way does not fit 64 bits. -/
def indices? (s : Slice) (length : Nat) : Option (List Nat) :=
  let len := Int64.ofNat length
  if len = 0 then some []
  else if hstep : 0 < s.stride then do
    let start ← bound? len 0 0 len s.start
    let stop ← bound? len len 0 len s.stop
    return forward stop s.stride hstep start
  else if hstep : s.stride < 0 then do
    let last ← ofInt? (len.toInt - 1)
    let start ← bound? len last (-1) last s.start
    let stop ← bound? len (-1) (-1) last s.stop
    backward? stop s.stride hstep start
  else some []

/-- The positions that the slice picks from an array of some length, in the order of picking. -/
def indices (s : Slice) (length : Nat) : List Nat := (s.indices? length).getD []

/-- The characters of an integer. -/
def intChars (n : Int64) : List Char := (toString n.toInt).toList

/-- The characters of a slice. -/
def chars (s : Slice) : List Char :=
  let bound (b : Option Int64) := (b.map intChars).getD []
  bound s.start ++ ':' :: bound s.stop ++ (s.step.map fun n => ':' :: intChars n).getD []

end Slice

end JsonPath.Query

import JsonPath.Regex.Basic

/-!
# The room that patterns take

A pattern is compiled to an automaton that reads the bytes of UTF-8, in a version that reads
forwards and in one that reads backwards. Each state takes a fixed room and so does each of its
transitions. A pattern whose automaton takes too much room is refused, so the room is part of what
a pattern means, although matching here goes by characters.

The limit is documented; how much room a state takes, and that states share all they can, is assumed.
A pattern of large sets may so be refused, or taken, a few parts in a hundred off the limit.
-/

namespace JsonPath.Regex

/-- First and last byte. -/
abbrev ByteRange := Nat × Nat

/-- The bytes of a code point in UTF-8. -/
def utf8 (n : Nat) : List Nat :=
  if n < 0x80 then [n]
  else if n < 0x800 then [0xC0 + n / 64, 0x80 + n % 64]
  else if n < 0x10000 then [0xE0 + n / 4096, 0x80 + n / 64 % 64, 0x80 + n % 64]
  else [0xF0 + n / 262144, 0x80 + n / 4096 % 64, 0x80 + n / 64 % 64, 0x80 + n % 64]

/-- Where a range of code points must be cut so that its encodings are all sequences of bytes from
fixed ranges: the last code point of the first part. -/
def cutPoint? (a b : Nat) : Option Nat :=
  match [0x7F, 0x7FF, 0xFFFF].find? fun last => a ≤ last && last < b with
  | some last => some last
  | none =>
    if b ≤ 0x7F then none
    else [64, 4096, 262144].findSome? fun block =>
      if a / block = b / block then none
      else if a % block ≠ 0 then some (a / block * block + block - 1)
      else if b % block ≠ block - 1 then some (b / block * block - 1)
      else none

/-- The encodings of a range, as sequences of byte ranges. No range needs more than a few cuts. -/
def encodings : (fuel : Nat) → (a b : Nat) → List (List ByteRange)
  | 0, _, _ => []
  | fuel + 1, a, b =>
    match cutPoint? a b with
    | none => [(utf8 a).zip (utf8 b)]
    | some last => encodings fuel a last ++ encodings fuel (last + 1) b

namespace CharSet

/-- The encodings of a set, ascending. Surrogates have none. -/
def encoded (s : CharSet) : List (List ByteRange) :=
  s.ranges.flatMap fun (a, b) =>
    ([(a, min b 0xD7FF), (max a 0xE000, b)].filter fun r => r.1 ≤ r.2).flatMap fun r =>
      encodings 32 r.1 r.2

/-- The room of a state. -/
def stateRoom : Nat := 32

/-- The room of a state that chooses between bytes. -/
def choiceRoom (choices : Nat) : Nat := stateRoom + 8 * choices

/-- The number of bytes in which a list differs from the beginning of the one before it. -/
def newBytes : (before now : List ByteRange) → Nat
  | r :: before, s :: now => if r == s then newBytes before now else now.length + 1
  | _, now => now.length

/-- The number of states that read the encodings, where equal beginnings share theirs; `before` is
the encoding before the first. -/
def beginnings (before : List ByteRange) : List (List ByteRange) → Nat
  | [] => 0
  | now :: encoded => newBytes before now + beginnings now encoded

/-- The encodings that start with the same byte range, together. -/
def byFirst (encoded : List (List ByteRange)) : List (List (List ByteRange)) :=
  encoded.splitBy fun r s => r.head? == s.head?

/-- What is left to read in the states that read the encodings, from the first state on. -/
def continuations : (length : Nat) → List (List ByteRange) → List (List (List ByteRange))
  | 0, _ => []
  | length + 1, encoded =>
    encoded :: (byFirst encoded).flatMap fun group =>
      let rest := group.map List.tail
      if rest == [[]] then [] else continuations length rest

/-- The room of a set read forwards: states with the same continuation are one. -/
def roomForwards (s : CharSet) : Nat :=
  (continuations 4 s.encoded).eraseDups.foldl (fun n rest => n + choiceRoom (byFirst rest).length)
    stateRoom

/-- The room of a set read backwards: one state for each byte range and a choice among all. -/
def roomBackwards (s : CharSet) : Nat :=
  2 * stateRoom + 4 * s.encoded.length + stateRoom * beginnings [] s.encoded

/-- The room of a set: a single character takes a state for each byte. -/
def room (backwards : Bool) (s : CharSet) : Nat :=
  match s.ranges with
  | [(a, b)] =>
    if a = b then stateRoom * (utf8 a).length
    else if s.isAscii then stateRoom + choiceRoom 1
    else if backwards then s.roomBackwards else s.roomForwards
  | ranges =>
    if s.isAscii then stateRoom + choiceRoom ranges.length
    else if backwards then s.roomBackwards else s.roomForwards

end CharSet

namespace Pattern

/-- The set of the characters that the pattern matches, if it is made of single characters only. -/
def asSet? : Pattern → Option CharSet
  | set s => some s
  | alt p q =>
    match p.asSet?, q.asSet? with
    | some s, some t => some (s.union t)
    | _, _ => none
  | _ => none

def isEmpty : Pattern → Bool
  | empty => true
  | _ => false

/-- The room of the pattern, with repetitions written out. -/
def room (backwards : Bool) : Pattern → Nat
  | empty => CharSet.stateRoom
  | set s => s.room backwards
  | assert _ _ => CharSet.stateRoom
  | group p => p.room backwards + if backwards then 0 else 2 * CharSet.stateRoom
  | seq p q =>
    (if p.isEmpty then 0 else p.room backwards) + (if q.isEmpty then 0 else q.room backwards)
  | alt p q =>
    match (alt p q).asSet? with
    | some s => s.room backwards
    | none =>
      let fork := 2 * CharSet.stateRoom
      fork + 4 + p.room backwards +
        match q with
        | alt _ _ => q.room backwards - fork
        | _ => 4 + q.room backwards
  | repeated p min (some max) _ =>
    let fork := CharSet.stateRoom + 8
    let one := p.room backwards
    if max ≤ min then min * one
    else if min = 0 ∧ max = 1 then fork + CharSet.stateRoom + one
    else Nat.max CharSet.stateRoom (min * one) + CharSet.stateRoom + (max - min) * (fork + one)
  | repeated p min none _ =>
    let fork := CharSet.stateRoom + 8
    let one := p.room backwards
    if min = 0 ∧ p.nullable then 2 * fork + CharSet.stateRoom + one
    else Nat.max 1 min * one + fork

/-- The room of what surrounds every pattern: where it starts, what comes before, and the match. -/
def frameRoom (backwards : Bool) : Nat := if backwards then 144 else 208

/-- Automata take no more room than this. -/
def maxRoom : Nat := 10 * Nat.pow 2 20

/-- Whether both automata have room. -/
def fits (p : Pattern) : Bool :=
  [false, true].all fun backwards => p.room backwards + frameRoom backwards ≤ maxRoom

end Pattern

end JsonPath.Regex

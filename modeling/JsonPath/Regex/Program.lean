import JsonPath.Regex.Basic

/-!
# Searching for a pattern

A pattern becomes a program of numbered instructions, which is run on a text by a list of threads
in order of preference. All threads advance by one character at a time, and of the threads at one
instruction the most preferred is kept, so a run takes time proportional to the text and the
program. Of all matches the leftmost counts, and of those at one place the one that the pattern
prefers.

Which match counts is what is assumed of the engine. How it is found is not: any search for it gives
the same.
-/

namespace JsonPath.Regex

inductive Instruction where
  /-- Takes one character of the set. -/
  | take (chars : CharSet) (next : Nat)
  /-- Goes on at both places, preferring the first. -/
  | fork (first second : Nat)
  /-- Goes on if the assertion holds here. -/
  | check (a : Assertion) (word : CharSet) (next : Nat)
  /-- The match is complete. -/
  | accept

/-- A program under construction. -/
structure Draft where
  code : Array Instruction

namespace Draft

/-- Appends an instruction and returns its number. -/
def emit (i : Instruction) (d : Draft) : Nat × Draft := (d.code.size, ⟨d.code.push i⟩)

/-- Puts an instruction in the place of an earlier one. -/
def patch (number : Nat) (i : Instruction) (d : Draft) : Draft :=
  ⟨d.code.setIfInBounds number i⟩

/-- Prefers `enter` to `skip` if greedy, and the other way round if not. -/
def choice (greedy : Bool) (enter skip : Nat) : Instruction :=
  if greedy then .fork enter skip else .fork skip enter

end Draft

/-- Appends `n` copies, the last of which goes on at `next`. -/
def copies (one : Nat → Draft → Nat × Draft) : (n next : Nat) → Draft → Nat × Draft
  | 0, next, d => (next, d)
  | n + 1, next, d => let (entry, d) := one next d; copies one n entry d

/-- Appends `n` optional copies, each inside the one before; every one may be left for `next`. -/
def optionalCopies (one : Nat → Draft → Nat × Draft) (greedy : Bool) (next : Nat) :
    (n entry : Nat) → Draft → Nat × Draft
  | 0, entry, d => (entry, d)
  | n + 1, entry, d =>
    let (inner, d) := one entry d
    let (fork, d) := d.emit (Draft.choice greedy inner next)
    optionalCopies one greedy next n fork d

/-- Appends a pattern that goes on at `next`, and returns where it starts. -/
def Pattern.emit : Pattern → (next : Nat) → Draft → Nat × Draft
  | .empty, next, d => (next, d)
  | .set s, next, d => d.emit (.take s next)
  | .assert a word, next, d => d.emit (.check a word next)
  | .group p, next, d => p.emit next d
  | .seq p q, next, d => let (entry, d) := q.emit next d; p.emit entry d
  | .alt p q, next, d =>
    let (first, d) := p.emit next d
    let (second, d) := q.emit next d
    d.emit (.fork first second)
  | .repeated p min (some max) greedy, next, d =>
    let (entry, d) := optionalCopies p.emit greedy next (max - min) next d
    copies p.emit min entry d
  | .repeated p min none greedy, next, d =>
    let (loop, d) := d.emit .accept
    let (entry, d) := p.emit loop d
    let d := d.patch loop (Draft.choice greedy entry next)
    if min = 0 then
      if p.nullable then d.emit (Draft.choice greedy entry next) else (loop, d)
    else copies p.emit (min - 1) entry d

/-- A program and its first instruction. -/
structure Program where
  code : Array Instruction
  entry : Nat

def Program.ofPattern (p : Pattern) : Program :=
  let (last, d) := Draft.emit .accept ⟨#[]⟩
  let (entry, d) := p.emit last d
  ⟨d.code, entry⟩

namespace Program

/-- Follows forks and assertions from the instructions of `pending` to those that take a character
or accept, in order of preference and each once. Every instruction is expanded at most once, so
the fuel of `closure` is never used up. -/
def expand (p : Program) (before after : Option Char) :
    (fuel : Nat) → (pending : List Nat) → (seen : Array Bool) → List Nat
  | 0, _, _ => []
  | _, [], _ => []
  | fuel + 1, i :: pending, seen =>
    if seen.getD i true then expand p before after fuel pending seen
    else
      let seen := seen.setIfInBounds i true
      match p.code[i]? with
      | none => expand p before after fuel pending seen
      | some (.fork first second) => expand p before after fuel (first :: second :: pending) seen
      | some (.check a word next) =>
        if a.holds word before after then expand p before after fuel (next :: pending) seen
        else expand p before after fuel pending seen
      | some _ => i :: expand p before after fuel pending seen

/-- The threads that are waiting between two characters. -/
def closure (p : Program) (before after : Option Char) (pending : List Nat) : List Nat :=
  expand p before after (pending.length + 2 * p.code.size + 1) pending
    (Array.replicate p.code.size false)

/-- Lets the threads take one character, up to the first that accepts. The flag tells whether one
accepts: those after it are less preferred and end. -/
def advance (p : Program) (c : Option Char) : List Nat → Bool × List Nat
  | [] => (false, [])
  | i :: threads =>
    match p.code[i]? with
    | some .accept => (true, [])
    | some (.take s next) =>
      let (accepted, rest) := advance p c threads
      (accepted, if c.any s.contains then next :: rest else rest)
    | _ => advance p c threads

/-- Runs the threads on a text and returns the length of the preferred match; `best` is that of the
match found so far, `length` the number of characters taken. -/
def run (p : Program) (before : Option Char) (pending : List Nat) (length : Nat)
    (best : Option Nat) : List Char → Option Nat
  | [] =>
    let (accepted, _) := p.advance none (p.closure before none pending)
    if accepted then some length else best
  | c :: text =>
    let (accepted, next) := p.advance (some c) (p.closure before (some c) pending)
    let best := if accepted then some length else best
    if next.isEmpty then best else run p (some c) next (length + 1) best text

/-- The length of the match that starts right here. -/
def matchHere (p : Program) (before : Option Char) (text : List Char) : Option Nat :=
  p.run before [p.entry] 0 none text

/-- Whether there is a match anywhere. -/
def isMatch (p : Program) (before : Option Char) : List Char → Bool
  | [] => (p.matchHere before []).isSome
  | c :: text => (p.matchHere before (c :: text)).isSome || isMatch p (some c) text

/-- The pieces of a text between successive matches. `skip` characters still belong to a match; a
match of no characters right after another one does not count, which `fresh` tells; `piece` holds
the characters since the last match, in reverse. -/
def pieces (p : Program) (before : Option Char) (skip : Nat) (fresh : Bool) (piece : List Char) :
    List Char → List (List Char)
  | [] =>
    if fresh && (p.matchHere before []).isSome then [piece.reverse, []] else [piece.reverse]
  | c :: text =>
    match skip with
    | n + 1 => pieces p (some c) n false [] text
    | 0 =>
      match p.matchHere before (c :: text) with
      | none => pieces p (some c) 0 true (c :: piece) text
      | some 0 =>
        if fresh then piece.reverse :: pieces p (some c) 0 true [c] text
        else pieces p (some c) 0 true (c :: piece) text
      | some (n + 1) => piece.reverse :: pieces p (some c) n false [] text

/-- Splits a text at every match. -/
def split (p : Program) (text : List Char) : List (List Char) := p.pieces none 0 true [] text

end Program

end JsonPath.Regex

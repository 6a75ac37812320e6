import JsonPath.Regex.Named

/-!
# Regular expressions

A pattern is a tree of character sets, assertions, groups, concatenations, ordered alternatives and
counted repetitions. Since only the place of a match is ever asked for, a group matches like what
is in it.

Regular expressions are matched by an engine that is no part of the path language. What is assumed
of it is what these modules say, after its documentation:

* a text is a pattern just if it follows the notation of the reader, with no more levels than
  `maxNesting`, and its automata have room;
* the leftmost match counts, and of the matches at one place the one that the pattern prefers;
* the characters of a class, and those that are equal when case is ignored, are as in Unicode 16.

Nothing that is proved of expressions rests on these assumptions. There a pattern is a text for which
a program may be found, and a program is a test of texts; neither is ever opened.
-/

namespace JsonPath.Regex

/-- Conditions on a place between two characters. -/
inductive Assertion where
  | textStart
  | textEnd
  /-- At the start of a line, after a line feed. -/
  | lineStart
  | lineEnd
  /-- Like `lineStart`, where a carriage return, a line feed or both in this order end a line. -/
  | crlfLineStart
  | crlfLineEnd
  | wordBoundary
  | notWordBoundary
  | wordStart
  | wordEnd
  /-- No character of a word before. -/
  | wordStartHalf
  /-- No character of a word after. -/
  | wordEndHalf

/-- A pattern. -/
inductive Pattern where
  | empty
  | set (chars : CharSet)
  /-- An assertion, with the set of characters that words are made of. -/
  | assert (a : Assertion) (word : CharSet)
  /-- A group that keeps what it matched. -/
  | group (p : Pattern)
  | seq (first second : Pattern)
  /-- The first alternative is preferred. -/
  | alt (first second : Pattern)
  /-- At least `min` and, if there is a bound, at most `max` repetitions; greedy ones prefer
  more. -/
  | repeated (p : Pattern) (min : Nat) (max : Option Nat) (greedy : Bool)

/-- Whether an assertion holds between two neighbours, `none` being an end of the text. -/
def Assertion.holds (a : Assertion) (word : CharSet) (before after : Option Char) : Bool :=
  let wordBefore := before.any word.contains
  let wordAfter := after.any word.contains
  match a with
  | .textStart => before.isNone
  | .textEnd => after.isNone
  | .lineStart => before.isNone || before == some '\n'
  | .lineEnd => after.isNone || after == some '\n'
  | .crlfLineStart =>
    before.isNone || before == some '\n' || (before == some '\r' && after != some '\n')
  | .crlfLineEnd =>
    after.isNone || after == some '\r' || (after == some '\n' && before != some '\r')
  | .wordBoundary => wordBefore != wordAfter
  | .notWordBoundary => wordBefore == wordAfter
  | .wordStart => !wordBefore && wordAfter
  | .wordEnd => wordBefore && !wordAfter
  | .wordStartHalf => !wordBefore
  | .wordEndHalf => !wordAfter

namespace Pattern

/-- Whether the pattern may match without taking a character. -/
def nullable : Pattern → Bool
  | empty => true
  | set _ => false
  | assert _ _ => true
  | group p => p.nullable
  | seq p q => p.nullable && q.nullable
  | alt p q => p.nullable || q.nullable
  | repeated p min _ _ => min == 0 || p.nullable

/-- Whether the pattern never takes a character. -/
def takesNothing : Pattern → Bool
  | empty => true
  | set _ => false
  | assert _ _ => true
  | group p => p.takesNothing
  | seq p q => p.takesNothing && q.takesNothing
  | alt p q => p.takesNothing && q.takesNothing
  | repeated p _ max _ => p.takesNothing || max == some 0

/-- A repetition in its simplest form: to repeat what takes nothing changes nothing, and neither
does it to repeat once. -/
def times (p : Pattern) (min : Nat) (max : Option Nat) (greedy : Bool) : Pattern :=
  let (min, max) :=
    if p.takesNothing then (Nat.min min 1, some (Nat.min (max.getD 1) 1)) else (min, max)
  match min, max with
  | 0, some 0 => empty
  | 1, some 1 => p
  | _, _ => repeated p min max greedy

end Pattern

end JsonPath.Regex

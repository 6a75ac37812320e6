import JsonPath.Text.Letters
import JsonPath.Text.Numerals

/-!
# Classes of characters

Blanks, letters and numerals by their Unicode properties, and the two classes of characters that
identifiers are made of. Below U+0080 each class is given directly; beyond it by a table.

* `isIdentifierStart_imp_char` — whatever starts an identifier may also continue it.
-/

namespace JsonPath.Text

/-- Whether a code point lies in one of the ranges. -/
def inRanges (ranges : List (Nat × Nat)) (n : Nat) : Bool :=
  ranges.any fun r => r.1 ≤ n && n ≤ r.2

/-- The blanks beyond ASCII: the Unicode property White_Space. -/
def blankRanges : List (Nat × Nat) := [
  (133, 133), (160, 160), (5760, 5760), (8192, 8202), (8232, 8233), (8239, 8239),
  (8287, 8287), (12288, 12288)]

/-- Space, the controls from tab to carriage return, and the blanks beyond ASCII. -/
def isBlank (c : Char) : Bool :=
  let n := c.toNat
  if n < 128 then n == 32 || (9 ≤ n && n ≤ 13) else inRanges blankRanges n

/-- Characters with the Unicode property Alphabetic. -/
def isLetter (c : Char) : Bool :=
  if c.toNat < 128 then c.isAlpha else inRanges letterRanges c.toNat

/-- Characters of a numeric general category. -/
def isNumeral (c : Char) : Bool :=
  if c.toNat < 128 then c.isDigit else inRanges numeralRanges c.toNat

/-- An identifier starts with a letter or an underscore. -/
def isIdentifierStart (c : Char) : Bool := isLetter c || c == '_'

/-- It goes on with letters, numerals and underscores. -/
def isIdentifierChar (c : Char) : Bool := isLetter c || isNumeral c || c == '_'

theorem isIdentifierStart_imp_char {c : Char} (h : isIdentifierStart c = true) :
    isIdentifierChar c = true := by
  simp only [isIdentifierStart, isIdentifierChar, Bool.or_eq_true] at *
  rcases h with h | h
  · exact Or.inl (Or.inl h)
  · exact Or.inr h

/-- The value of a hexadecimal digit of either case. -/
def hexValue? (c : Char) : Option Nat :=
  let n := c.toNat
  if 48 ≤ n ∧ n ≤ 57 then some (n - 48)
  else if 65 ≤ n ∧ n ≤ 70 then some (n - 55)
  else if 97 ≤ n ∧ n ≤ 102 then some (n - 87)
  else none

/-- The hexadecimal digit of a value below sixteen, in lower case. -/
def hexDigit (n : Nat) : Char := if n < 10 then Char.ofNat (48 + n) else Char.ofNat (87 + n)

end JsonPath.Text

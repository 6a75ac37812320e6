import JsonPath.Text.CharClass

/-!
# Character escapes by code

An escape by code writes a character as four hexadecimal digits. Characters beyond U+FFFF take two
such escapes, a high and a low surrogate; a surrogate on its own stands for nothing.
-/

namespace JsonPath.Text

/-- The number that four hexadecimal digits write, of either case. -/
def hexQuad? (a b c d : Char) : Option Nat := do
  let a ← hexValue? a
  let b ← hexValue? b
  let c ← hexValue? c
  let d ← hexValue? d
  return ((a * 16 + b) * 16 + c) * 16 + d

/-- Whether a code is the first half of a pair. -/
def isHighSurrogate (n : Nat) : Bool := 0xD800 ≤ n && n < 0xDC00

/-- Whether a code is the second half of a pair. -/
def isLowSurrogate (n : Nat) : Bool := 0xDC00 ≤ n && n < 0xE000

/-- The code point that a pair of surrogates writes. -/
def joinSurrogates (high low : Nat) : Nat := 0x10000 + (high - 0xD800) * 0x400 + (low - 0xDC00)

/-- Reads what follows a backslash and `u`: the character and the number of characters read, four or
ten. -/
def codeEscape? : List Char → Option (Char × Nat)
  | a :: b :: c :: d :: rest => do
    let high ← hexQuad? a b c d
    if isHighSurrogate high then
      match rest with
      | '\\' :: 'u' :: a :: b :: c :: d :: _ => do
        let low ← hexQuad? a b c d
        if isLowSurrogate low then some (Char.ofNat (joinSurrogates high low), 10) else none
      | _ => none
    else if isLowSurrogate high then none
    else some (Char.ofNat high, 4)
  | _ => none

end JsonPath.Text

/-!
# Cursors

A cursor is a place in a text: the characters still to come and the number of those passed.
-/

namespace JsonPath.Text

/-- What is left of a text, and how many characters came before. -/
structure Cursor where
  rest : List Char
  offset : Nat

namespace Cursor

/-- The start of a text. -/
def start (text : String) : Cursor := ⟨text.toList, 0⟩

/-- Passes `n` characters, or as many as there are. -/
def advance (c : Cursor) (n : Nat) : Cursor := ⟨c.rest.drop n, c.offset + min n c.rest.length⟩

/-- Passes the characters of a class that come next. -/
def skipWhile (c : Cursor) (p : Char → Bool) : Cursor := c.advance (c.rest.takeWhile p).length

theorem length_advance (c : Cursor) (n : Nat) :
    (c.advance n).rest.length = c.rest.length - n := by
  simp [advance]

end Cursor

end JsonPath.Text

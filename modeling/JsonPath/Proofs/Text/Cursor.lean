import Mathlib
import JsonPath.Text.Cursor

/-!
# Places in a text

A cursor that starts at the beginning of a text and passes characters stays a place in that text: it
counts the characters behind it, and those ahead are the others.

* `advance_append`, `exists_skipWhile` — what is passed, and what is left.
* `IsIn`, `IsIn.advance` — the places in a text.
-/

namespace JsonPath.Text.Cursor

variable {c : Cursor} {p : Char → Bool} {text : List Char}

/-! ## Passing characters -/

@[simp] theorem advance_append (cs rest : List Char) (offset : Nat) :
    advance ⟨cs ++ rest, offset⟩ cs.length = ⟨rest, offset + cs.length⟩ := by
  simp [advance]

@[simp] theorem advance_cons_one (c : Char) (rest : List Char) (offset : Nat) :
    advance ⟨c :: rest, offset⟩ 1 = ⟨rest, offset + 1⟩ := by
  simp [advance]

theorem offset_le_advance (c : Cursor) (n : Nat) : c.offset ≤ (c.advance n).offset :=
  Nat.le_add_right _ _

theorem advance_of_append {cs rest : List Char} (h : c.rest = cs ++ rest) :
    c.advance cs.length = ⟨rest, c.offset + cs.length⟩ := by
  simp [advance, h]

theorem rest_advance_of_append {cs rest : List Char} (h : c.rest = cs ++ rest) :
    (c.advance cs.length).rest = rest := by
  rw [advance_of_append h]

theorem rest_advance_one_of_cons {a : Char} {rest : List Char} (h : c.rest = a :: rest) :
    (c.advance 1).rest = rest := by
  have hsplit : c.rest = [a] ++ rest := h
  exact rest_advance_of_append hsplit

/-! ## Passing a class -/

theorem skipWhile_of_head {c : Char} (hc : p c = false) (rest : List Char) (offset : Nat) :
    skipWhile ⟨c :: rest, offset⟩ p = ⟨c :: rest, offset⟩ := by
  simp [skipWhile, advance, hc]

/-- Passing a class of characters goes one by one. -/
theorem skipWhile_cons {c : Char} (hc : p c = true) (cs : List Char) (offset : Nat) :
    skipWhile ⟨c :: cs, offset⟩ p = skipWhile ⟨cs, offset + 1⟩ p := by
  simp only [skipWhile, List.takeWhile_cons, hc, if_true, List.length_cons, advance,
    List.drop_succ_cons]
  congr 1
  omega

/-- What is passed is a run of the class, and what comes next is not in it. -/
theorem exists_skipWhile (c : Cursor) (p : Char → Bool) :
    ∃ cs rest, c.rest = cs ++ rest ∧ c.skipWhile p = ⟨rest, c.offset + cs.length⟩ ∧
      (∀ a ∈ cs, p a) ∧ ∀ a ∈ rest.head?, p a = false := by
  have hsplit : c.rest = c.rest.takeWhile p ++ c.rest.dropWhile p :=
    List.takeWhile_append_dropWhile.symm
  refine ⟨_, _, hsplit, advance_of_append hsplit, fun a => List.mem_takeWhile_imp, fun a ha => ?_⟩
  have hhead := List.head?_dropWhile_not p c.rest
  rwa [Option.mem_def.1 ha] at hhead

/-- There is nothing more to pass then. -/
theorem skipWhile_skipWhile (c : Cursor) (p : Char → Bool) :
    (c.skipWhile p).skipWhile p = c.skipWhile p := by
  obtain ⟨cs, rest, -, hskip, -, hhead⟩ := c.exists_skipWhile p
  rw [hskip]
  cases rest with
  | nil => simp [skipWhile, advance]
  | cons a rest => exact skipWhile_of_head (hhead a rfl) rest _

/-! ## Places -/

/-- Whether a cursor is a place in a text. -/
structure IsIn (text : List Char) (c : Cursor) : Prop where
  offset_le : c.offset ≤ text.length
  rest_eq : c.rest = text.drop c.offset

theorem isIn_start (text : String) : (start text).IsIn text.toList := ⟨Nat.zero_le _, rfl⟩

theorem IsIn.length_rest (h : c.IsIn text) : c.offset + c.rest.length = text.length := by
  have hle := h.offset_le
  rw [h.rest_eq, List.length_drop]
  omega

theorem IsIn.offset_lt (h : c.IsIn text) {a : Char} {rest : List Char} (hrest : c.rest = a :: rest) :
    c.offset < text.length := by
  have hlength := h.length_rest
  rw [hrest, List.length_cons] at hlength
  omega

theorem IsIn.offset_eq (h : c.IsIn text) (hrest : c.rest = []) : c.offset = text.length := by
  have hlength := h.length_rest
  rwa [hrest] at hlength

/-- Passing characters leads to a place. -/
theorem IsIn.advance (h : c.IsIn text) (n : Nat) : (c.advance n).IsIn text := by
  have hlength := h.length_rest
  constructor
  · simp only [Cursor.advance]
    omega
  · simp only [Cursor.advance, h.rest_eq, List.drop_drop]
    rcases Nat.le_total n c.rest.length with hn | hn
    · rw [← h.rest_eq, Nat.min_eq_left hn]
    · rw [← h.rest_eq, Nat.min_eq_right hn, List.drop_of_length_le (by omega),
        List.drop_of_length_le (by omega)]

theorem IsIn.skipWhile (h : c.IsIn text) (p : Char → Bool) : (c.skipWhile p).IsIn text :=
  h.advance _

/-- The next character stands in the text. -/
theorem IsIn.getElem? (h : c.IsIn text) {a : Char} {rest : List Char} (hrest : c.rest = a :: rest) :
    text[c.offset]? = some a := by
  rw [← List.head?_drop, ← h.rest_eq, hrest, List.head?_cons]

end JsonPath.Text.Cursor

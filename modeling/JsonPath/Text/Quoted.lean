import JsonPath.Text.Escape

/-!
# Quoted strings

A string literal stands between two quotes of one kind. A backslash starts an escape: a quote of
either kind, a backslash, a slash, one of five letters, or a code. All else, line ends included,
stands for itself.

Reading is by characters after the opening quote; what is wrong is told with the number of
characters before it.
-/

namespace JsonPath.Text

/-- Why a literal cannot be read. -/
inductive QuoteFault where
  /-- The text ends before the closing quote. -/
  | unterminated
  /-- An escape that stands for nothing, at this distance, and the character that tells. -/
  | badEscape (distance : Nat) (c : Char)
  deriving DecidableEq

namespace Quoted

/-- The character of an escape by one character. -/
def shortEscape? : Char → Option Char
  | '\'' => some '\''
  | '"' => some '"'
  | '\\' => some '\\'
  | '/' => some '/'
  | 'b' => some '\x08'
  | 'f' => some '\x0c'
  | 'n' => some '\n'
  | 'r' => some '\r'
  | 't' => some '\t'
  | _ => none

/-- Reads the escape that follows a backslash: the character, and how many characters it takes. -/
def escape? : List Char → Option (Char × Nat)
  | [] => none
  | e :: rest =>
    match shortEscape? e with
    | some c => some (c, 1)
    | none => if e == 'u' then (codeEscape? rest).map fun (c, n) => (c, n + 1) else none

/-- Reads the characters after an opening quote, `distance` of them gone before: the string, and the
number of characters through the closing quote. -/
def read (quote : Char) (distance : Nat) (cs : List Char) :
    Except QuoteFault (List Char × Nat) :=
  match cs with
  | [] => .error .unterminated
  | c :: rest =>
    if c == quote then .ok ([], distance + 1)
    else if c == '\\' then
      match escape? rest with
      | some (decoded, taken) => do
        let (s, n) ← read quote (distance + 1 + taken) (rest.drop taken)
        return (decoded :: s, n)
      | none =>
        match rest with
        | [] => .error .unterminated
        | e :: _ => .error (.badEscape distance e)
    else do
      let (s, n) ← read quote (distance + 1) rest
      return (c :: s, n)
termination_by cs.length
decreasing_by all_goals (simp only [List.length_cons, List.length_drop]; omega)

end Quoted

end JsonPath.Text

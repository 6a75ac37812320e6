import JsonPath.Proofs.Text.Cursor
import JsonPath.Query.Scan

/-!
# Single calls

Blanks are passed first, so a call starts at a character that is no blank or at the end of the text.
All that it can do from there is listed here once: what it gives and where it stops, with what it
found out about the text. After an error it stops at that character, or where it noticed.

* `TokenScan`, `RegexScan` — the outcomes of a call for a token and for a regular expression.
* `tokenScan_nextToken`, `regexScan_nextRegex` — there are no others.
-/

namespace JsonPath.Query

open Text (Cursor isBlank)

variable {here : Cursor} {s : Scan}

/-- What a call for a token gives at a character that is no blank, or at the end of the text. -/
inductive TokenScan (here : Cursor) : Scan → Prop where
  | endOfText (hrest : here.rest = []) : TokenScan here (.token here .endOfText 0)
  | mark {m : Mark} (hm : markHere? here.rest = some m) :
    TokenScan here (.token here (.mark m) m.text.length)
  | string {quote : Char} {rest s : List Char} {n : Nat} (hrest : here.rest = quote :: rest)
    (hquote : quote = '"' ∨ quote = '\'') (hread : Text.Quoted.read quote 1 rest = .ok (s, n)) :
    TokenScan here (.token here (.string (String.ofList s)) n)
  | badString {quote : Char} {rest : List Char} {fault : Text.QuoteFault}
    (hrest : here.rest = quote :: rest) (hquote : quote = '"' ∨ quote = '\'')
    (hread : Text.Quoted.read quote 1 rest = .error fault) :
    TokenScan here ⟨.error (quoteError here.offset fault), here⟩
  | word {first : Char} {rest : List Char} (hrest : here.rest = first :: rest)
    (hstart : Text.isIdentifierStart first) :
    TokenScan here (.token here
      (wordToken (String.ofList (here.rest.takeWhile Text.isIdentifierChar)))
      (here.rest.takeWhile Text.isIdentifierChar).length)
  | number {first : Char} {rest : List Char} {t : Token} (hrest : here.rest = first :: rest)
    (hdigit : first.isDigit) (ht : (numberHere here.rest).token = .ok t) :
    TokenScan here (.token here t (numberHere here.rest).length)
  | badNumber {first : Char} {rest : List Char} {fault : ParseFault}
    (hrest : here.rest = first :: rest) (hdigit : first.isDigit)
    (hfault : (numberHere here.rest).token = .error fault) :
    TokenScan here ⟨.error ⟨fault, here.offset⟩, here.advance (numberHere here.rest).length⟩
  | unexpected {first : Char} {rest : List Char} (hrest : here.rest = first :: rest) :
    TokenScan here ⟨.error ⟨.unexpectedCharacter first, here.offset⟩, here⟩

/-- What a call for a regular expression gives. -/
inductive RegexScan (here : Cursor) : Scan → Prop where
  | missing (hrest : here.rest = []) :
    RegexScan here ⟨.error ⟨.unexpectedEnd regexExpected, here.offset⟩, here⟩
  | regex {rest pattern : List Char} {n : Nat} (hrest : here.rest = '/' :: rest)
    (hpattern : patternHere? rest = some (pattern, n)) :
    RegexScan here (.token here
      (.regex (String.ofList pattern) (String.ofList ((rest.drop n).takeWhile Char.isAlpha)))
      (1 + n + ((rest.drop n).takeWhile Char.isAlpha).length))
  | unterminated {rest : List Char} (hrest : here.rest = '/' :: rest) :
    RegexScan here ⟨.error ⟨.unterminatedRegex, here.offset⟩, here.advance here.rest.length⟩
  | other {first : Char} {rest : List Char} {s : Scan} {l : Lexeme}
    (hrest : here.rest = first :: rest) (hs : TokenScan here s) (hl : s.outcome = .ok l) :
    RegexScan here
      ⟨.error ⟨.unexpectedToken l.token.description regexExpected, here.offset⟩, s.cursor⟩
  | fault {s : Scan} {e : ParseError} (hs : TokenScan here s) (he : s.outcome = .error e) :
    RegexScan here s

theorem tokenScan_nextToken (c : Cursor) : TokenScan (c.skipWhile isBlank) (nextToken c) := by
  unfold nextToken
  generalize c.skipWhile isBlank = here
  dsimp only
  split
  · rename_i hrest
    exact .endOfText hrest
  · rename_i first rest hrest
    split
    · rename_i m hm
      exact .mark hm
    · split
      · rename_i hquote
        have hquote : first = '"' ∨ first = '\'' := by simpa using hquote
        split
        · rename_i s n hread
          exact .string hrest hquote hread
        · rename_i fault hread
          exact .badString hrest hquote hread
      · split
        · rename_i hstart
          exact .word hrest hstart
        · split
          · rename_i hdigit
            split
            · rename_i t ht
              exact .number hrest hdigit ht
            · rename_i fault hfault
              exact .badNumber hrest hdigit hfault
          · exact .unexpected hrest

theorem regexScan_nextRegex (c : Cursor) : RegexScan (c.skipWhile isBlank) (nextRegex c) := by
  have htoken := tokenScan_nextToken (c.skipWhile isBlank)
  rw [Cursor.skipWhile_skipWhile] at htoken
  unfold nextRegex
  generalize c.skipWhile isBlank = here at htoken
  dsimp only
  split
  · rename_i hrest
    exact .missing hrest
  · rename_i rest hrest
    split
    · rename_i pattern n hpattern
      exact .regex hrest hpattern
    · exact .unterminated hrest
  · rename_i hempty hslash
    split
    · rename_i found hfound
      obtain ⟨first, rest, hrest⟩ := List.exists_cons_of_ne_nil hempty
      exact .other hrest htoken hfound
    · rename_i hfault
      exact .fault htoken hfault

theorem TokenScan.exists_advance (h : TokenScan here s) : ∃ n, s.cursor = here.advance n := by
  cases h with
  | badString | unexpected => exact ⟨0, rfl⟩
  | _ => exact ⟨_, rfl⟩

theorem RegexScan.exists_advance (h : RegexScan here s) : ∃ n, s.cursor = here.advance n := by
  cases h with
  | missing => exact ⟨0, rfl⟩
  | regex | unterminated => exact ⟨_, rfl⟩
  | other _ hs | fault hs => exact hs.exists_advance

end JsonPath.Query

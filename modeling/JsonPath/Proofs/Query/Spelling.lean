import JsonPath.Proofs.Query.Numbers

/-!
# Texts that spell tokens

There is more than one text for the same tokens. Strings stand in quotes of either kind, with any
escapes, numbers may have zeros in front, and blanks may stand between all tokens. They have to
stand only where the text would go on with the token before them. Reading does not tell such texts
apart.

* `Token.SpelledAs` — how one token may be written, before a text that does not go on with it.
* `Spells` — how some tokens may be written, with blanks between them.
* `Spells.lexes` — a text that spells some tokens is read as these tokens.
* `spaced` — a text that spells given tokens.
-/

namespace JsonPath.Query

variable {c : Char} {cs rest : List Char} {t : Token} {ts : List Token}

/-! ## One token -/

/-- Some characters are a token, and what comes after them cannot belong to it. -/
inductive Token.SpelledAs : Token → List Char → (rest : List Char) → Prop where
  | mark {m : Mark} {rest : List Char} (hm : m ≠ .matchSign) (hend : m.EndsBefore rest) :
    SpelledAs (.mark m) m.text.toList rest
  | integer {n : Int64} {digits rest : List Char} (hne : digits ≠ [])
    (hdigits : ∀ c ∈ digits, c.isDigit)
    (hvalue : Number.ofNat? (Number.ofDigits digits) = some n)
    (hend : ∀ c ∈ rest.head?, c.isDigit = false ∧ c ∉ ['.', 'e', 'E']) :
    SpelledAs (.integer n) digits rest
  | string {quote : Char} {s : String} {spellings : List (List Char)} {rest : List Char}
    (hquote : quote = '"' ∨ quote = '\'')
    (h : List.Forall₂ (Text.Quoted.Spells quote) s.toList spellings) :
    SpelledAs (.string s) (quote :: spellings.flatten ++ [quote]) rest
  | word {name : String} {rest : List Char} (hname : IsWord name)
    (hend : ∀ c ∈ rest.head?, Text.isIdentifierChar c = false) :
    SpelledAs (wordToken name) name.toList rest

theorem Token.SpelledAs.firstToken (h : t.SpelledAs cs rest) : FirstToken (cs ++ rest) t rest := by
  cases h with
  | mark hm hend => exact firstToken_mark _ hm hend
  | integer hne hdigits hvalue hend =>
    refine firstToken_digits hne hdigits hvalue (.of_head (fun c hc => ?_) []) fun c hc => ?_
    · exact ⟨(hend c hc).1, fun hpoint => (hend c hc).2 (by simp [hpoint])⟩
    · have hletter := (hend c hc).2
      simp only [List.mem_cons, not_or] at hletter
      simp [hletter]
  | string hquote h =>
    rw [List.append_assoc]
    exact firstToken_spelled hquote h
  | word hname hend => exact firstToken_identifier hname hend

/-! ## Whole texts -/

/-- A text consists of spellings of some tokens, with blanks before, between and after them. -/
inductive Spells : List Token → List Char → Prop where
  | nil {blanks : List Char} (hblanks : ∀ c ∈ blanks, Text.isBlank c) : Spells [] blanks
  | cons {t : Token} {ts : List Token} {blanks cs rest : List Char}
    (hblanks : ∀ c ∈ blanks, Text.isBlank c) (ht : t.SpelledAs cs rest) (h : Spells ts rest) :
    Spells (t :: ts) (blanks ++ (cs ++ rest))

/-- There is no token in blanks. -/
theorem lexes_blanks {blanks : List Char} (hblanks : ∀ c ∈ blanks, Text.isBlank c) :
    Lexes blanks [] := by
  intro offset
  have hscan : ∃ here, nextToken ⟨blanks, offset⟩ = .token here .endOfText 0 := by
    induction blanks generalizing offset with
    | nil => exact ⟨⟨[], offset⟩, rfl⟩
    | cons c blanks ih =>
      obtain ⟨hc, hrest⟩ := List.forall_mem_cons.1 hblanks
      obtain ⟨here, h⟩ := ih hrest (offset + 1)
      refine ⟨here, ?_⟩
      rw [← h, nextToken, nextToken, Text.Cursor.skipWhile_cons hc]
  obtain ⟨here, hscan⟩ := hscan
  rw [tokensAt, Lexemes.read.eq_def]
  simp only [Bool.false_eq_true, if_false, hscan, Scan.token]
  rfl

/-- **Reading spelled tokens.** A text that spells some tokens is read as these tokens. -/
theorem Spells.lexes (h : Spells ts cs) : Lexes cs ts := by
  induction h with
  | nil hblanks => exact lexes_blanks hblanks
  | @cons t ts blanks cs rest hblanks ht _ ih =>
    have htoken : Lexes (cs ++ rest) (t :: ts) := ht.firstToken.lexes ih
    clear ht
    induction blanks with
    | nil => exact htoken
    | cons c blanks ihBlanks =>
      obtain ⟨hc, hblanks⟩ := List.forall_mem_cons.1 hblanks
      exact (ihBlanks hblanks).skip hc (List.cons_ne_nil t ts)

theorem Spells.tokens?_lexemes {text : String} (h : Spells ts text.toList) :
    (lexemes text).tokens? = some ts := h.lexes 0

/-- Blanks may be put in front. -/
theorem Spells.blank (hc : Text.isBlank c) (h : Spells ts cs) : Spells ts (c :: cs) := by
  cases h with
  | nil hblanks => exact .nil (List.forall_mem_cons.2 ⟨hc, hblanks⟩)
  | cons hblanks ht h => exact .cons (List.forall_mem_cons.2 ⟨hc, hblanks⟩) ht h

/-! ## Blanks after all tokens -/

/-- One way to write each token that has a way. -/
def Token.chars : Token → List Char
  | mark m => m.text.toList
  | integer n => Nat.toDigits 10 n.toInt.toNat
  | string s => Json.quoted s
  | boolean b => if b then "true".toList else "false".toList
  | null => "null".toList
  | identifier name => name.toList
  | float _ | regex _ _ | endOfText => []

/-- Whether this is a way to write a token before a blank. -/
def Token.IsWritten (t : Token) : Prop := ∀ rest, t.SpelledAs t.chars (' ' :: rest)

theorem isWritten_mark {m : Mark} (hm : m ≠ .matchSign) : (Token.mark m).IsWritten := by
  intro rest
  refine .mark hm ?_
  cases m <;> simp [Mark.EndsBefore]

theorem isWritten_integer {n : Int64} (hn : 0 ≤ n.toInt) : (Token.integer n).IsWritten := by
  intro rest
  refine .integer Nat.toDigits_ne_nil (fun _ => Number.isDigit_of_mem_toDigits)
    (ofNat?_ofDigits_toDigits hn) fun c hc => ?_
  obtain rfl : ' ' = c := by simpa using hc
  decide

theorem isWritten_string (s : String) : (Token.string s).IsWritten := by
  intro rest
  have h : (Token.string s).SpelledAs _ (' ' :: rest) :=
    .string (.inl rfl) (Text.Quoted.spells_map spells_escape s.toList)
  rwa [← List.flatMap_def] at h

theorem isWritten_word {name : String} (hname : IsWord name) : (wordToken name).IsWritten := by
  intro rest
  have hchars : (wordToken name).chars = name.toList := by
    unfold wordToken
    split_ifs with htrue hfalse hnull
    · rw [beq_iff_eq.1 htrue]
      rfl
    · rw [beq_iff_eq.1 hfalse]
      rfl
    · rw [beq_iff_eq.1 hnull]
      rfl
    · rfl
  rw [hchars]
  refine .word hname fun c hc => ?_
  obtain rfl : ' ' = c := by simpa using hc
  decide

/-- Tokens with a blank after each. -/
def spaced (ts : List Token) : String := String.ofList (ts.flatMap fun t => t.chars ++ [' '])

theorem spells_spaced (h : ∀ t ∈ ts, t.IsWritten) : Spells ts (spaced ts).toList := by
  rw [spaced, String.toList_ofList]
  induction ts with
  | nil => exact .nil (List.forall_mem_nil _)
  | cons t ts ih =>
    obtain ⟨ht, hts⟩ := List.forall_mem_cons.1 h
    have hrest : Spells ts (' ' :: ts.flatMap fun t => t.chars ++ [' ']) :=
      (ih hts).blank (by decide)
    simpa using Spells.cons (List.forall_mem_nil _) (ht _) hrest

end JsonPath.Query

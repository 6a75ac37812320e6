import Mathlib
import JsonPath.Query.Printer
import JsonPath.Proofs.Query.Scans
import JsonPath.Proofs.Text.Spelling

/-!
# Tokens read back from their text

A written text is read token by token. For each kind of token there is a lemma that finds it at the
start of a text that begins with its written form, whatever comes after it; words must be followed
by a character that cannot belong to them.

* `FirstToken` — a text starts with a token, and how it goes on.
* `firstToken_mark`, `firstToken_string`, `firstToken_name`, `firstToken_word` — the tokens other
  than numbers.
* `nextRegex_chars` — regular expressions, which are read after a match operator.
* `Lexes` — the tokens of a whole text; `Lexes.search` is for a match operator and the regular
  expression after it.
-/

namespace JsonPath

namespace Text

/-- No two ranges of the two lists have a code point in common. -/
theorem inRanges_disjoint {rs ss : List (Nat × Nat)}
    (h : rs.all fun r => ss.all fun s => r.2 < s.1 || s.2 < r.1) {n : Nat}
    (hn : inRanges rs n = true) : inRanges ss n = false := by
  obtain ⟨r, hr, hnr⟩ := List.any_eq_true.1 hn
  rw [inRanges, List.any_eq_false]
  intro s hs hns
  have hapart := List.all_eq_true.1 (List.all_eq_true.1 h r hr) s hs
  simp only [Bool.and_eq_true, Bool.or_eq_true, decide_eq_true_eq] at *
  omega

theorem isBlank_of_isIdentifierStart {c : Char} (h : isIdentifierStart c = true) :
    isBlank c = false := by
  have happart : letterRanges.all fun r => blankRanges.all fun s => r.2 < s.1 || s.2 < r.1 := by
    decide +kernel
  simp only [isIdentifierStart, isLetter, Bool.or_eq_true, beq_iff_eq] at h
  unfold isBlank
  dsimp only
  rcases h with h | rfl
  · split at h
    · rename_i hascii
      rw [if_pos hascii]
      simp only [Char.isAlpha, Char.isUpper, Char.isLower, Bool.or_eq_true, Bool.and_eq_true,
        decide_eq_true_eq, ge_iff_le, UInt32.le_iff_toNat_le] at h
      have hge : 65 ≤ c.toNat := by
        rcases h with ⟨h, -⟩ | ⟨h, -⟩
        · exact h
        · exact Nat.le_trans (by decide) h
      simp
      omega
    · rename_i hascii
      rw [if_neg hascii]
      exact inRanges_disjoint happart h
  · decide

end Text

namespace Query

open Text (Cursor)

/-- The tokens of a text from a place on. -/
def tokensAt (cs : List Char) (offset : Nat) : Lexemes := Lexemes.read false ⟨cs, offset⟩

/-- The first token of a text, and the text after it. -/
def FirstToken (cs : List Char) (t : Token) (rest : List Char) : Prop :=
  ∀ offset, ∃ here next, tokensAt cs offset = .more ⟨t, here⟩ (tokensAt rest next)

variable {c : Char} {cs rest : List Char} {t : Token}

theorem read_of_scan {regex : Bool} {start here : Cursor} {n : Nat}
    (hscan : (if regex then nextRegex start else nextToken start) = .token here t n)
    (hshorter : (here.advance n).rest.length < start.rest.length) (ht : t ≠ .endOfText) :
    Lexemes.read regex start =
      .more ⟨t, here.offset⟩ (Lexemes.read (t == .mark .matchSign) (here.advance n)) := by
  rw [Lexemes.read.eq_def]
  simp only [hscan, Scan.token, hshorter, if_true]

theorem firstToken_of_nextToken
    (hscan : ∀ offset, nextToken ⟨c :: (cs ++ rest), offset⟩ =
      .token ⟨c :: (cs ++ rest), offset⟩ t (cs.length + 1))
    (hend : t ≠ .endOfText) (hmatch : t ≠ .mark .matchSign) :
    FirstToken (c :: (cs ++ rest)) t rest := by
  intro offset
  refine ⟨offset, offset + (c :: cs).length, ?_⟩
  have hfalse : (t == .mark .matchSign) = false := beq_eq_false_iff_ne.2 hmatch
  have hpass : Cursor.advance ⟨c :: (cs ++ rest), offset⟩ (cs.length + 1) =
      ⟨rest, offset + (c :: cs).length⟩ := Cursor.advance_append (c :: cs) rest offset
  have hshorter : rest.length < (c :: (cs ++ rest)).length := by
    simp only [List.length_cons, List.length_append]
    omega
  rw [tokensAt, read_of_scan (by rw [if_neg Bool.false_ne_true, hscan offset])
    (by rwa [hpass]) hend, hfalse, hpass]
  rfl

/-! ## Marks -/

/-- Whether no longer mark starts where a mark and a text come together. -/
def Mark.EndsBefore (m : Mark) (rest : List Char) : Prop :=
  match m with
  | dot => rest.head? ≠ some '.'
  | not | less | greater => rest.head? ≠ some '='
  | _ => True

theorem markHere?_text (m : Mark) {rest : List Char} (h : m.EndsBefore rest) :
    markHere? (m.text.toList ++ rest) = some m := by
  cases m with
  | dot =>
    change markHere? ('.' :: rest) = _
    rw [markHere?]
    rintro tail rfl
    exact h rfl
  | not =>
    change markHere? ('!' :: rest) = _
    rw [markHere?]
    rintro tail rfl
    exact h rfl
  | less =>
    change markHere? ('<' :: rest) = _
    rw [markHere?]
    rintro tail rfl
    exact h rfl
  | greater =>
    change markHere? ('>' :: rest) = _
    rw [markHere?]
    rintro tail rfl
    exact h rfl
  | _ => rfl

theorem firstToken_mark (m : Mark) (hm : m ≠ .matchSign) (h : m.EndsBefore rest) :
    FirstToken (m.text.toList ++ rest) (.mark m) rest := by
  have hhere := markHere?_text m h
  obtain ⟨c, cs, htext, hc⟩ : ∃ c cs, m.text.toList = c :: cs ∧ Text.isBlank c = false := by
    cases m <;> exact ⟨_, _, rfl, by decide⟩
  have hlength : m.text.length = cs.length + 1 := by
    rw [← String.length_toList, htext, List.length_cons]
  rw [htext, List.cons_append] at hhere ⊢
  refine firstToken_of_nextToken (fun offset => ?_) (by simp) (by simpa using hm)
  rw [nextToken, Cursor.skipWhile_of_head hc]
  simp only [hhere, hlength]

/-! ## Where words end -/

/-- The characters that come after words and numbers in a written text. -/
def closers : List Char := [' ', '(', ')', ']', ',', ':']

/-- Whether a text cannot go on with the word or number before it. -/
def EndsWord (rest : List Char) : Prop := ∀ c ∈ rest.head?, c ∈ closers

theorem EndsWord.nil : EndsWord [] := by simp [EndsWord]

theorem EndsWord.cons (hc : c ∈ closers) : EndsWord (c :: rest) := by
  simpa [EndsWord] using hc

/-- A class without closers does not go on after a word. -/
theorem EndsWord.of_head {p : Char → Bool} (h : EndsWord rest) (hp : closers.any p = false)
    (hc : c ∈ rest.head?) : p c = false := by
  simpa using List.any_eq_false.1 hp c (h c hc)

/-- A run of a class of characters ends where the text does, or at a character outside it. -/
theorem takeWhile_run {p : Char → Bool} (hcs : ∀ c ∈ cs, p c)
    (hrest : ∀ c ∈ rest.head?, p c = false) :
    (cs ++ rest).takeWhile p = cs ∧ (cs ++ rest).dropWhile p = rest := by
  rw [List.takeWhile_append_of_pos hcs, List.dropWhile_append_of_pos hcs]
  cases rest with
  | nil => simp
  | cons c rest => simp [hrest c rfl]

theorem takeWhile_word {p : Char → Bool} (hp : closers.any p = false)
    (hcs : ∀ c ∈ cs, p c) (hrest : EndsWord rest) :
    (cs ++ rest).takeWhile p = cs ∧ (cs ++ rest).dropWhile p = rest :=
  takeWhile_run hcs fun _ => hrest.of_head hp

/-! ## Characters -/

/-- The characters that marks start with. -/
def markStarts : List Char := ".=!<>&|$@*?[](),:+-/%".toList

theorem notMem_of_any_eq_false {p : Char → Bool} (hcs : cs.any p = false) (hc : p c) : c ∉ cs :=
  fun hmem => List.any_eq_false.1 hcs c hmem hc

theorem markHere?_eq_none (hc : c ∉ markStarts) (rest : List Char) :
    markHere? (c :: rest) = none := by
  unfold markHere?
  split <;> first
    | rfl
    | (rename_i heq
       obtain ⟨rfl, -⟩ := List.cons.inj heq
       exact absurd (by decide) hc)

/-! ## Strings -/

/-- A literal is one token, however its characters are spelled. -/
theorem firstToken_spelled {quote : Char} (hquote : quote = '"' ∨ quote = '\'') {s : String}
    {ws : List (List Char)} (h : List.Forall₂ (Text.Quoted.Spells quote) s.toList ws) :
    FirstToken (quote :: ws.flatten ++ quote :: rest) (.string s) rest := by
  have hread := Text.Quoted.read_spelled (by rcases hquote with rfl | rfl <;> decide) h 1 rest
  have hmark : quote ∉ markStarts := by rcases hquote with rfl | rfl <;> decide
  have hblank : Text.isBlank quote = false := by rcases hquote with rfl | rfl <;> decide
  have hopen : (quote == '"' || quote == '\'') = true := by rcases hquote with rfl | rfl <;> decide
  rw [List.cons_append, List.append_cons]
  refine firstToken_of_nextToken (fun offset => ?_) (by simp) (by simp)
  rw [nextToken, Cursor.skipWhile_of_head hblank, ← List.append_cons]
  simp only [markHere?_eq_none hmark, hopen, if_true, hread, String.ofList_toList]
  congr 1
  simp only [List.length_append, List.length_singleton]
  omega

theorem firstToken_quoted {quote : Char} (hquote : quote = '"' ∨ quote = '\'')
    {write : Char → List Char} (h : ∀ c, Text.Quoted.Spells quote c (write c)) (s : String) :
    FirstToken (quote :: s.toList.flatMap write ++ quote :: rest) (.string s) rest := by
  rw [List.flatMap_def]
  exact firstToken_spelled hquote (Text.Quoted.spells_map h s.toList)

/-- Every character of a JSON string is written so that it can be read. -/
theorem spells_escape (c : Char) : Text.Quoted.Spells '"' c ((Json.escape? c).getD [c]) := by
  unfold Json.escape?
  split
  all_goals first | exact .short rfl | skip
  rename_i hquote hslash _ _ _ _ _
  split
  · rename_i hc
    exact .control hc
  · exact .itself hquote hslash

theorem spells_escapeNameChar (c : Char) : Text.Quoted.Spells '\'' c (escapeNameChar c) := by
  unfold escapeNameChar
  split
  all_goals first | exact .short rfl | skip
  rename_i hquote hslash _ _ _
  exact .itself hquote hslash

theorem firstToken_string (s : String) (rest : List Char) :
    FirstToken (Json.quoted s ++ rest) (.string s) rest := by
  simpa [Json.quoted] using firstToken_quoted (.inl rfl) spells_escape s

theorem firstToken_name (name : String) (rest : List Char) :
    FirstToken (quotedName name ++ rest) (.string name) rest := by
  simpa [quotedName] using firstToken_quoted (.inr rfl) spells_escapeNameChar name

/-! ## Identifiers -/

/-- Whether a name can be read as one word. -/
def IsWord (name : String) : Prop :=
  (∃ c ∈ name.toList.head?, Text.isIdentifierStart c) ∧ ∀ c ∈ name.toList, Text.isIdentifierChar c

theorem IsWord.of_toList {name : String} (hname : name.toList = c :: cs)
    (h : (Text.isIdentifierStart c && (c :: cs).all Text.isIdentifierChar) = true) :
    IsWord name := by
  obtain ⟨hc, hcs⟩ := Bool.and_eq_true_iff.1 h
  exact ⟨⟨c, by simp [hname], hc⟩, by rw [hname]; exact List.all_eq_true.1 hcs⟩

theorem isWord_of_takeWhile (hc : Text.isIdentifierStart c) :
    IsWord (String.ofList ((c :: rest).takeWhile Text.isIdentifierChar)) := by
  rw [List.takeWhile_cons_of_pos (Text.isIdentifierStart_imp_char hc)]
  refine ⟨⟨c, by simp, hc⟩, fun a ha => ?_⟩
  rw [String.toList_ofList, List.mem_cons] at ha
  rcases ha with rfl | ha
  · exact Text.isIdentifierStart_imp_char hc
  · exact List.all_eq_true.1 List.all_takeWhile a ha

/-- No word starts with a dot. -/
theorem IsWord.head_ne_dot {name : String} (h : IsWord name) (rest : List Char) :
    (name.toList ++ rest).head? ≠ some '.' := by
  obtain ⟨⟨c, hc, hstart⟩, -⟩ := h
  obtain ⟨cs, hcs⟩ := List.head?_eq_some_iff.1 hc
  rw [hcs]
  simp only [List.cons_append, List.head?_cons]
  intro heq
  rw [Option.some.inj heq] at hstart
  exact absurd hstart (by decide)

theorem wordToken_ne_endOfText (name : String) : wordToken name ≠ .endOfText := by
  unfold wordToken
  split_ifs <;> simp

theorem wordToken_ne_mark (name : String) (m : Mark) : wordToken name ≠ .mark m := by
  unfold wordToken
  split_ifs <;> simp

/-- A word ends where the text goes on with a character that belongs to none. -/
theorem firstToken_identifier {name : String} (hname : IsWord name)
    (hrest : ∀ c ∈ rest.head?, Text.isIdentifierChar c = false) :
    FirstToken (name.toList ++ rest) (wordToken name) rest := by
  obtain ⟨⟨c, hc, hstart⟩, hchars⟩ := hname
  obtain ⟨cs, hcs⟩ : ∃ cs, name.toList = c :: cs := by
    cases hlist : name.toList with
    | nil => simp [hlist] at hc
    | cons a cs =>
      obtain rfl : a = c := by simpa [hlist] using hc
      exact ⟨cs, rfl⟩
  have hmark : c ∉ markStarts := notMem_of_any_eq_false (by decide) hstart
  have hquote : (c == '"' || c == '\'') = false := by
    rw [Bool.eq_false_iff]
    intro h
    rcases Bool.or_eq_true_iff.1 h with h | h <;> rw [beq_iff_eq.1 h] at hstart <;>
      exact absurd hstart (by decide)
  have hword := (takeWhile_run (p := Text.isIdentifierChar) hchars hrest).1
  rw [hcs, List.cons_append] at hword ⊢
  refine firstToken_of_nextToken (fun offset => ?_) (wordToken_ne_endOfText name)
    (wordToken_ne_mark name _)
  rw [nextToken, Cursor.skipWhile_of_head (Text.isBlank_of_isIdentifierStart hstart)]
  simp only [markHere?_eq_none hmark, hquote, Bool.false_eq_true, if_false, hstart, if_true,
    hword, ← hcs, String.ofList_toList]
  rw [hcs, List.length_cons]

theorem firstToken_word {name : String} (hname : IsWord name) (hrest : EndsWord rest) :
    FirstToken (name.toList ++ rest) (wordToken name) rest :=
  firstToken_identifier hname fun _ => hrest.of_head (by decide)

/-! ## Regular expressions -/

/-- The patterns that can be written: a backslash has a character after it, which is no slash. -/
inductive IsPattern : List Char → Prop where
  | nil : IsPattern []
  | pair (c : Char) (hc : c ≠ '/') {cs : List Char} (h : IsPattern cs) : IsPattern ('\\' :: c :: cs)
  | char (c : Char) (hc : c ≠ '\\') {cs : List Char} (h : IsPattern cs) : IsPattern (c :: cs)

theorem isPattern_of_patternHere? {p : List Char} {n : Nat} (h : patternHere? cs = some (p, n)) :
    IsPattern p := by
  induction cs using patternHere?.induct generalizing p n with
  | case1 => simp [patternHere?] at h
  | case2 rest =>
    obtain ⟨rfl, -⟩ := Prod.mk.inj (Option.some.inj h)
    exact .nil
  | case3 => simp [patternHere?] at h
  | case4 rest ih =>
    simp only [patternHere?, Option.map_eq_some_iff] at h
    obtain ⟨⟨q, m⟩, hq, heq⟩ := h
    obtain ⟨rfl, -⟩ := Prod.mk.inj heq
    exact .char '/' (by decide) (ih hq)
  | case5 c rest hc ih =>
    have hslash : c ≠ '/' := by
      rintro rfl
      exact hc rfl
    simp only [patternHere?, Option.map_eq_some_iff] at h
    obtain ⟨⟨q, m⟩, hq, heq⟩ := h
    obtain ⟨rfl, -⟩ := Prod.mk.inj heq
    exact .pair c hslash (ih hq)
  | case6 c rest hslash hend hslashPair hpair ih =>
    have hc : c ≠ '\\' := by
      rintro rfl
      cases rest with
      | nil => exact hend rfl rfl
      | cons d rest => exact hpair d rest rfl rfl
    rw [patternHere?.eq_6 _ _ hslash hend hslashPair hpair, Option.map_eq_some_iff] at h
    obtain ⟨⟨q, m⟩, hq, heq⟩ := h
    obtain ⟨rfl, -⟩ := Prod.mk.inj heq
    exact .char c hc (ih hq)

/-- How a character of a pattern is written. -/
def escapePatternChar (c : Char) : List Char := if c == '/' then ['\\', '/'] else [c]

theorem patternHere?_written {p : List Char} (h : IsPattern p) (rest : List Char) :
    patternHere? (p.flatMap escapePatternChar ++ '/' :: rest) =
      some (p, (p.flatMap escapePatternChar).length + 1) := by
  induction h with
  | nil => rfl
  | pair c hc _ ih =>
    have hslash : escapePatternChar '\\' = ['\\'] := rfl
    have hother : escapePatternChar c = [c] := by simp [escapePatternChar, hc]
    rw [List.flatMap_cons, List.flatMap_cons, hslash, hother]
    simp only [List.cons_append, List.nil_append]
    rw [patternHere?]
    · rw [ih]
      rfl
    · rintro rfl
      exact hc rfl
  | char c hc _ ih =>
    rw [List.flatMap_cons, escapePatternChar]
    split
    · rename_i hslash
      obtain rfl := beq_iff_eq.1 hslash
      simp only [List.cons_append, List.nil_append]
      rw [patternHere?, ih]
      rfl
    · rename_i hslash
      simp only [List.cons_append, List.nil_append]
      rw [patternHere?]
      · rw [ih]
        rfl
      all_goals simp_all

/-- A written regular expression is read as its pattern and flags, up to a character that is no
letter. -/
theorem nextRegex_written {source flags : List Char} (hsource : IsPattern source)
    (hflags : ∀ c ∈ flags, c.isAlpha) (hrest : ∀ c ∈ rest.head?, c.isAlpha = false)
    (offset : Nat) :
    nextRegex ⟨'/' :: (source.flatMap escapePatternChar ++ '/' :: flags) ++ rest, offset⟩ =
      ⟨.ok ⟨.regex (String.ofList source) (String.ofList flags), offset⟩,
        ⟨rest, offset + ('/' :: (source.flatMap escapePatternChar ++ '/' :: flags)).length⟩⟩ := by
  have hpattern := patternHere?_written hsource (flags ++ rest)
  have hletters := (takeWhile_run (p := Char.isAlpha) hflags hrest).1
  generalize source.flatMap escapePatternChar = body at hpattern ⊢
  have hdrop : (body ++ '/' :: (flags ++ rest)).drop (body.length + 1) = flags ++ rest := by
    rw [List.append_cons]
    exact List.drop_left' (by simp)
  have hpass := Cursor.advance_append ('/' :: (body ++ '/' :: flags)) rest offset
  have hlength : 1 + (body.length + 1) + flags.length =
      ('/' :: (body ++ '/' :: flags)).length := by
    simp only [List.length_cons, List.length_append]
    omega
  rw [← hpass, nextRegex, List.cons_append, Cursor.skipWhile_of_head (by decide)]
  simp only [List.append_assoc, List.cons_append, hpattern, hdrop, hletters, Scan.token, hlength]

/-- What is read as a regular expression is a pattern and letters. -/
theorem isPattern_of_nextRegex {start : Cursor} {l : Lexeme}
    (h : (nextRegex start).outcome = .ok l) :
    ∃ source flags, l.token = .regex (String.ofList source) (String.ofList flags) ∧
      IsPattern source ∧ ∀ c ∈ flags, c.isAlpha := by
  have hscan := regexScan_nextRegex start
  generalize nextRegex start = s at h hscan
  cases hscan with
  | regex _ hpattern =>
    obtain rfl := Except.ok.inj h
    exact ⟨_, _, rfl, isPattern_of_patternHere? hpattern, fun _ => List.mem_takeWhile_imp⟩
  | missing | unterminated | other => contradiction
  | fault _ he =>
    rw [he] at h
    contradiction

theorem RegexLiteral.chars_eq (r : RegexLiteral) :
    r.chars = '/' :: (r.source.toList.flatMap escapePatternChar ++ '/' :: r.flags.toList) := rfl

/-- **Regular expressions survive being written and read.** Whatever is read as a regular expression
is a pattern and flags, and what is written for these, followed by no letter, is read as the same
pattern and flags, through its last character. -/
theorem nextRegex_chars {start : Cursor} {l : Lexeme} (h : (nextRegex start).outcome = .ok l) :
    ∃ pattern flags, l.token = .regex pattern flags ∧
      ∀ (program : Regex.Program) (rest : List Char) (offset : Nat),
        (∀ c ∈ rest.head?, c.isAlpha = false) →
          nextRegex ⟨(RegexLiteral.mk pattern flags program).chars ++ rest, offset⟩ =
            ⟨.ok ⟨.regex pattern flags, offset⟩,
              ⟨rest, offset + (RegexLiteral.mk pattern flags program).chars.length⟩⟩ := by
  obtain ⟨source, flags, htoken, hsource, hflags⟩ := isPattern_of_nextRegex h
  refine ⟨_, _, htoken, fun program rest offset hrest => ?_⟩
  simp only [RegexLiteral.chars_eq, String.toList_ofList]
  exact nextRegex_written hsource hflags hrest offset

/-- A pair of backslashes and an escaped slash next to each other, and a digit class. -/
theorem nextRegex_chars_slashes :
    (nextRegex (Cursor.start " /a\\\\\\/b\\d/i)")).outcome = .ok ⟨.regex "a\\\\/b\\d" "i", 1⟩ ∧
      ∀ program, nextRegex ⟨(RegexLiteral.mk "a\\\\/b\\d" "i" program).chars ++ [')'], 4⟩ =
        ⟨.ok ⟨.regex "a\\\\/b\\d" "i", 4⟩,
          ⟨[')'], 4 + (RegexLiteral.mk "a\\\\/b\\d" "i" program).chars.length⟩⟩ := by
  have hread : (nextRegex (Cursor.start " /a\\\\\\/b\\d/i)")).outcome =
      .ok ⟨.regex "a\\\\/b\\d" "i", 1⟩ := by cbv
  obtain ⟨pattern, flags, htoken, hwritten⟩ := nextRegex_chars hread
  obtain ⟨rfl, rfl⟩ := Token.regex.inj htoken
  exact ⟨hread, fun program => hwritten program [')'] 4 (by simp)⟩

/-! ## Whole texts -/

/-- The tokens up to the end, if all of the text is tokens. -/
def Lexemes.tokens? : Lexemes → Option (List Token)
  | .more l rest => rest.tokens?.map (l.token :: ·)
  | .done _ => some []
  | .fault _ => none

/-- Whether a text consists of some tokens. -/
def Lexes (cs : List Char) (ts : List Token) : Prop :=
  ∀ offset, (tokensAt cs offset).tokens? = some ts

variable {ts : List Token}

theorem lexes_nil : Lexes [] [] := by
  intro offset
  rw [tokensAt, Lexemes.read.eq_def]
  rfl

theorem FirstToken.lexes (h : FirstToken cs t rest) (hrest : Lexes rest ts) :
    Lexes cs (t :: ts) := by
  intro offset
  obtain ⟨here, next, h⟩ := h offset
  rw [h, Lexemes.tokens?, hrest next]
  rfl

theorem Lexes.mark (m : Mark) (hm : m ≠ .matchSign) (hend : m.EndsBefore rest) (h : Lexes rest ts) :
    Lexes (m.text.toList ++ rest) (.mark m :: ts) :=
  (firstToken_mark m hm hend).lexes h

theorem Lexes.word (name : String) (hname : IsWord name) (hrest : EndsWord rest)
    (h : Lexes rest ts) : Lexes (name.toList ++ rest) (wordToken name :: ts) :=
  (firstToken_word hname hrest).lexes h

/-- A blank before a token does not matter. -/
theorem Lexes.skip (hc : Text.isBlank c) (h : Lexes cs ts) (hts : ts ≠ []) :
    Lexes (c :: cs) ts := by
  intro offset
  have h := h (offset + 1)
  have hskip : nextToken ⟨c :: cs, offset⟩ = nextToken ⟨cs, offset + 1⟩ := by
    rw [nextToken, nextToken, Cursor.skipWhile_cons hc]
  rw [tokensAt, Lexemes.read.eq_def] at h ⊢
  simp only [Bool.false_eq_true, if_false, hskip] at h ⊢
  split at h
  · exact h
  · split at h
    · exact h
    · split at h
      · rename_i hshorter
        rw [if_pos (by rw [List.length_cons]; omega)]
        exact h
      · exact absurd (Option.some.inj h).symm hts

theorem Lexes.blank (h : Lexes cs ts) (hts : ts ≠ []) : Lexes (' ' :: cs) ts :=
  h.skip (by decide) hts

/-- After a match operator a regular expression is read. -/
theorem tokensAt_matchSign (cs : List Char) (offset : Nat) :
    tokensAt ('=' :: '~' :: cs) offset =
      .more ⟨.mark .matchSign, offset⟩ (Lexemes.read true ⟨cs, offset + 2⟩) := by
  have hsign : nextToken ⟨'=' :: '~' :: cs, offset⟩ =
      .token ⟨'=' :: '~' :: cs, offset⟩ (.mark .matchSign) 2 := by
    rw [nextToken, Cursor.skipWhile_of_head (by decide)]
    rfl
  have hpass : Cursor.advance ⟨'=' :: '~' :: cs, offset⟩ 2 = ⟨cs, offset + 2⟩ := by
    simp [Cursor.advance]
  have hshorter : cs.length < ('=' :: '~' :: cs).length := by
    simp only [List.length_cons]
    omega
  rw [tokensAt, read_of_scan ((if_neg Bool.false_ne_true).trans hsign) (by rwa [hpass]) (by simp),
    hpass, beq_self_eq_true]

theorem read_regex {source flags : String} (hsource : IsPattern source.toList)
    (hflags : ∀ c ∈ flags.toList, c.isAlpha) (hrest : EndsWord rest) (offset : Nat) :
    ∃ here next, Lexemes.read true ⟨' ' :: '/' :: (source.toList.flatMap escapePatternChar ++ '/' ::
      (flags.toList ++ rest)), offset⟩ =
        .more ⟨.regex source flags, here⟩ (tokensAt rest next) := by
  have hscan := nextRegex_written hsource hflags (fun _ => hrest.of_head (by decide)) (offset + 1)
  simp only [String.ofList_toList, List.append_assoc, List.cons_append] at hscan
  have hblank (cs : List Char) : nextRegex ⟨' ' :: cs, offset⟩ = nextRegex ⟨cs, offset + 1⟩ := by
    rw [nextRegex, nextRegex, Cursor.skipWhile_cons (by decide)]
  have hshorter : rest.length < (' ' :: '/' :: (source.toList.flatMap escapePatternChar ++ '/' ::
      (flags.toList ++ rest))).length := by
    simp only [List.length_cons, List.length_append]
    omega
  rw [Lexemes.read.eq_def]
  simp only [if_true, hblank, hscan, if_pos hshorter]
  exact ⟨_, _, rfl⟩

/-- A match operator and the regular expression after it are two tokens. -/
theorem Lexes.search {source flags : String} (hsource : IsPattern source.toList)
    (hflags : ∀ c ∈ flags.toList, c.isAlpha) (hrest : EndsWord rest) (h : Lexes rest ts) :
    Lexes ('=' :: '~' :: ' ' :: '/' :: (source.toList.flatMap escapePatternChar ++ '/' ::
      (flags.toList ++ rest))) (.mark .matchSign :: .regex source flags :: ts) := by
  intro offset
  obtain ⟨here, next, hread⟩ := read_regex hsource hflags hrest (offset + 2)
  rw [tokensAt_matchSign, hread, Lexemes.tokens?, Lexemes.tokens?, h next]
  rfl

end Query

end JsonPath

import JsonPath.Proofs.Query.Numbers

/-!
# Texts that go on

Where a text ends or a bracket opens, no token goes on with what was before. So the tokens of a text
are those of its parts if the second part starts with a bracket, whatever the first one ends with: a
word, a number, dots, or blanks. And where a text stands in another one does not matter, which is
the case of a second part without any characters.

* `StartsAnew` — nothing comes next, or an opening bracket.
* `Lexemes.Continues` — tokens that go on, after those of another text, with further tokens.
* `read_induction` — tokens are read call by call.
* `continues_read` — the tokens of two texts, one after the other.
-/

namespace JsonPath.Query

open Text (Cursor)

/-- Whether nothing comes next, or an opening bracket. -/
def StartsAnew (ds : List Char) : Prop := ∀ c ∈ ds.head?, c = '['

variable {c d : Char} {cs ds : List Char} {m : Mark} {t : Token} {n : Nat}

/-! ## Marks -/

/-- No more than two characters tell a mark. -/
theorem markHere?_of_two (h : markHere? (c :: d :: cs) = some m) (ds : List Char) :
    markHere? (c :: d :: ds) = some m := by
  unfold markHere? at h
  split at h
  all_goals first
    | contradiction
    | (rename_i heq
       obtain ⟨rfl, htail⟩ := List.cons.inj heq
       first
        | (obtain ⟨rfl, -⟩ := List.cons.inj htail
           exact h)
        | exact h
        | (subst htail
           rw [markHere?]
           · exact h
           · rintro tail hcons
             obtain ⟨rfl, -⟩ := List.cons.inj hcons
             simp_all))

/-- No mark has a bracket as its second character. -/
theorem markHere?_bracket (c : Char) (cs : List Char) :
    markHere? (c :: '[' :: cs) = markHere? [c] := by
  by_cases hc : c ∈ markStarts
  · have hstarts : ∀ c ∈ markStarts, markHere? (c :: '[' :: cs) = markHere? [c] := by
      have hlist : markStarts = ['.', '=', '!', '<', '>', '&', '|', '$', '@', '*', '?', '[', ']',
        '(', ')', ',', ':', '+', '-', '/', '%'] := by decide
      rw [hlist]
      simp only [List.forall_mem_cons]
      and_intros
      all_goals first | rfl | exact List.forall_mem_nil _
    exact hstarts c hc
  · rw [markHere?_eq_none hc, markHere?_eq_none hc]

theorem markHere?_append (hds : StartsAnew ds) (c : Char) (cs : List Char) :
    markHere? (c :: (cs ++ ds)) = markHere? (c :: cs) := by
  cases cs with
  | cons d cs =>
    exact Option.ext fun m => ⟨fun h => markHere?_of_two h _, fun h => markHere?_of_two h _⟩
  | nil =>
    cases ds with
    | nil => rfl
    | cons d ds =>
      obtain rfl := hds d rfl
      exact markHere?_bracket c ds

/-- A mark is some of the characters that are there. -/
theorem prefix_of_markHere? (h : markHere? cs = some m) : m.text.toList <+: cs := by
  unfold markHere? at h
  split at h <;> first
    | contradiction
    | (obtain rfl := Option.some.inj h
       exact ⟨_, rfl⟩)

theorem length_le_of_markHere? (h : markHere? cs = some m) :
    0 < m.text.length ∧ m.text.length ≤ cs.length := by
  refine ⟨by cases m <;> decide, ?_⟩
  rw [← String.length_toList]
  exact (prefix_of_markHere? h).length_le

/-! ## Words and numbers -/

/-- A class without brackets goes no further than the text before them. -/
theorem takeWhile_append {p : Char → Bool} (hds : StartsAnew ds) (hp : p '[' = false)
    (cs : List Char) :
    (cs ++ ds).takeWhile p = cs.takeWhile p ∧ (cs ++ ds).dropWhile p = cs.dropWhile p ++ ds := by
  have hhead : ∀ c ∈ ds.head?, p c = false := fun c hc => by rw [hds c hc, hp]
  induction cs with
  | nil => exact takeWhile_run (fun _ h => nomatch h) hhead
  | cons c cs ih =>
    by_cases hc : p c
    · simp [hc, ih]
    · simp [hc]

theorem exponentHere_append (hds : StartsAnew ds) (cs : List Char) :
    Number.exponentHere (cs ++ ds) = Number.exponentHere cs := by
  cases cs with
  | nil =>
    refine exponentHere_of_head fun c hc => ?_
    rw [hds c hc]
    decide
  | cons c cs =>
    rw [List.cons_append, Number.exponentHere, Number.exponentHere]
    cases cs with
    | nil =>
      cases ds with
      | nil => rfl
      | cons d ds =>
        obtain rfl := hds d rfl
        simp
    | cons s cs =>
      have hdigits := (takeWhile_append (p := Char.isDigit) hds rfl (s :: cs)).1
      have hafter := (takeWhile_append (p := Char.isDigit) hds rfl cs).1
      simp only [List.cons_append] at hdigits ⊢
      simp only [List.head?_cons, List.drop_succ_cons, List.drop_zero]
      split
      · split
        · rw [hafter]
          rfl
        · rw [hdigits]
          rfl
      · rfl

theorem numberHere_append (hds : StartsAnew ds) (cs : List Char) :
    numberHere (cs ++ ds) = numberHere cs := by
  obtain ⟨hwhole, hrest⟩ := takeWhile_append (p := Char.isDigit) hds rfl cs
  unfold numberHere
  rw [hwhole, hrest]
  generalize cs.dropWhile Char.isDigit = rest
  cases rest with
  | nil =>
    cases ds with
    | nil => rfl
    | cons d ds =>
      obtain rfl := hds d rfl
      rfl
  | cons c rest =>
    by_cases hc : c = '.'
    · subst hc
      have hplaces := (takeWhile_append (p := Char.isDigit) hds rfl rest).1
      have hlength : (rest.takeWhile Char.isDigit).length ≤ rest.length :=
        (List.takeWhile_prefix _).length_le
      simp only [List.cons_append, hplaces, List.drop_succ_cons,
        List.drop_append_of_le_length hlength]
      split
      · rw [← List.cons_append, exponentHere_append hds]
      · rw [exponentHere_append hds]
    · have hexponent := exponentHere_append hds (c :: rest)
      simp only [List.cons_append] at hexponent ⊢
      simp [hc, hexponent]

theorem exponentHere_length_le (cs : List Char) : (Number.exponentHere cs).2 ≤ cs.length := by
  cases cs with
  | nil => exact le_rfl
  | cons c cs =>
    have hdigits (ds : List Char) : (ds.takeWhile Char.isDigit).length ≤ ds.length :=
      (List.takeWhile_prefix _).length_le
    rw [Number.exponentHere]
    split
    · cases cs with
      | nil => exact Nat.zero_le _
      | cons s cs =>
        have hsigned := hdigits cs
        have hunsigned := hdigits (s :: cs)
        rw [List.length_cons] at hunsigned ⊢
        by_cases hsign : s == '+' || s == '-'
        · simp only [List.head?_cons, hsign, if_true, List.drop_succ_cons, List.drop_zero]
          split <;> dsimp only [List.length_cons] <;> omega
        · simp only [List.head?_cons, hsign, if_false, Bool.false_eq_true]
          split <;> dsimp only [List.length_cons] <;> omega
    · exact Nat.zero_le _

/-- A number is some of the characters that are there. -/
theorem length_numberHere (hc : c.isDigit) (cs : List Char) :
    0 < (numberHere (c :: cs)).length ∧ (numberHere (c :: cs)).length ≤ (c :: cs).length := by
  have hwhole : 0 < ((c :: cs).takeWhile Char.isDigit).length := by simp [hc]
  have hlength := congrArg List.length (List.takeWhile_append_dropWhile (p := Char.isDigit)
    (l := c :: cs))
  rw [List.length_append] at hlength
  unfold numberHere NumberText.length
  generalize (c :: cs).dropWhile Char.isDigit = rest at hlength ⊢
  dsimp only
  refine ⟨by omega, ?_⟩
  split
  · rename_i after
    have hplaces : (after.takeWhile Char.isDigit).length ≤ after.length :=
      (List.takeWhile_prefix _).length_le
    rw [List.length_cons] at hlength
    split
    · have hexponent := exponentHere_length_le ('.' :: after)
      rw [List.length_cons] at hexponent
      omega
    · have hexponent := exponentHere_length_le
        (('.' :: after).drop ((after.takeWhile Char.isDigit).length + 1))
      rw [List.length_drop, List.length_cons] at hexponent
      omega
  · have hexponent := exponentHere_length_le rest
    simp only [List.isEmpty_nil, if_true]
    omega

theorem patternHere?_append {p : List Char} (h : patternHere? cs = some (p, n)) (ds : List Char) :
    patternHere? (cs ++ ds) = some (p, n) ∧ n ≤ cs.length := by
  induction cs using patternHere?.induct generalizing p n with
  | case1 => contradiction
  | case2 rest =>
    obtain ⟨rfl, rfl⟩ := Prod.mk.inj (Option.some.inj h)
    exact ⟨rfl, by simp⟩
  | case3 => contradiction
  | case4 rest ih =>
    simp only [patternHere?, Option.map_eq_some_iff] at h
    obtain ⟨⟨q, k⟩, hq, heq⟩ := h
    obtain ⟨rfl, rfl⟩ := Prod.mk.inj heq
    obtain ⟨hread, hk⟩ := ih hq
    refine ⟨?_, Nat.add_le_add_right hk 2⟩
    simp only [List.cons_append, patternHere?, hread, Option.map_some]
  | case5 c rest hc ih =>
    rw [patternHere?.eq_5 _ _ hc, Option.map_eq_some_iff] at h
    obtain ⟨⟨q, k⟩, hq, heq⟩ := h
    obtain ⟨rfl, rfl⟩ := Prod.mk.inj heq
    obtain ⟨hread, hk⟩ := ih hq
    refine ⟨?_, Nat.add_le_add_right hk 2⟩
    simp only [List.cons_append, patternHere?.eq_5 _ _ hc, hread, Option.map_some]
  | case6 c rest hslash hend hslashPair hpair ih =>
    have hc : c ≠ '\\' := by
      rintro rfl
      cases rest with
      | nil => exact hend rfl rfl
      | cons d rest => exact hpair d rest rfl rfl
    rw [patternHere?.eq_6 _ _ hslash hend hslashPair hpair, Option.map_eq_some_iff] at h
    obtain ⟨⟨q, k⟩, hq, heq⟩ := h
    obtain ⟨rfl, rfl⟩ := Prod.mk.inj heq
    obtain ⟨hread, hk⟩ := ih hq
    have hmore := patternHere?.eq_6 c (rest ++ ds) hslash (fun h => absurd h hc)
      (fun _ h => absurd h hc) fun _ _ h => absurd h hc
    rw [List.cons_append, hmore, hread]
    exact ⟨rfl, Nat.succ_le_succ hk⟩

/-! ## One token -/

/-- Whether a scan passes some characters of a text, and what it gives is no end; and whether
another scan gives the same token and leaves what the first one leaves and more. -/
def Scan.GoesOn (length : Nat) (ds : List Char) (s s' : Scan) : Prop :=
  ∀ l, s.outcome = .ok l → l.token ≠ .endOfText ∧ s.cursor.rest.length < length ∧
    ∃ here next, s' = ⟨.ok ⟨l.token, here⟩, ⟨s.cursor.rest ++ ds, next⟩⟩

variable {o o' : Nat}

theorem goesOn_token (ht : t ≠ .endOfText) (hn : 0 < n) (hle : n ≤ cs.length) :
    (Scan.token ⟨cs, o⟩ t n).GoesOn cs.length ds (Scan.token ⟨cs ++ ds, o'⟩ t n) := by
  rintro l hl
  obtain rfl := Except.ok.inj hl
  refine ⟨ht, ?_, o', o' + min n (cs ++ ds).length, ?_⟩
  · rw [Scan.token, Cursor.length_advance]
    dsimp only
    omega
  · simp only [Scan.token, Cursor.advance, List.drop_append_of_le_length hle]

theorem goesOn_error {s s' : Scan} {e : ParseError} (h : s.outcome = .error e) :
    s.GoesOn n ds s' := by
  intro l hl
  rw [h] at hl
  contradiction

theorem goesOn_nextToken (hds : StartsAnew ds) (hc : Text.isBlank c = false) :
    (nextToken ⟨c :: cs, o⟩).GoesOn (c :: cs).length ds (nextToken ⟨c :: (cs ++ ds), o'⟩) := by
  rw [nextToken, nextToken, Cursor.skipWhile_of_head hc, Cursor.skipWhile_of_head hc]
  dsimp only
  rw [markHere?_append hds]
  split
  · rename_i m hm
    obtain ⟨hpos, hle⟩ := length_le_of_markHere? hm
    exact goesOn_token (by simp) hpos hle
  · split
    · rename_i hquote
      split
      · rename_i s n hread
        obtain ⟨ws, rest, hws, rfl, rfl⟩ := Text.Quoted.exists_spells_of_read hread
        have hslash : c ≠ '\\' := by
          rintro rfl
          exact absurd hquote (by decide)
        rw [List.append_assoc, List.cons_append, Text.Quoted.read_spelled hslash hws]
        have happend : c :: (ws.flatten ++ c :: (rest ++ ds)) =
            c :: (ws.flatten ++ c :: rest) ++ ds := by simp
        rw [happend]
        refine goesOn_token (by simp) (by omega) ?_
        simp only [List.length_cons, List.length_append]
        omega
      · exact goesOn_error rfl
    · split
      · rename_i hstart
        have hword := (takeWhile_append (p := Text.isIdentifierChar) hds (by decide) (c :: cs)).1
        rw [List.cons_append] at hword
        rw [hword]
        have hpos : 0 < ((c :: cs).takeWhile Text.isIdentifierChar).length := by
          simp [Text.isIdentifierStart_imp_char hstart]
        exact goesOn_token (wordToken_ne_endOfText _) hpos (List.takeWhile_prefix _).length_le
      · split
        · rename_i hdigit
          have hnumber := numberHere_append hds (c :: cs)
          rw [List.cons_append] at hnumber
          rw [hnumber]
          obtain ⟨hpos, hle⟩ := length_numberHere hdigit cs
          split
          · rename_i ht
            exact goesOn_token (NumberText.token_ne ht).1 hpos hle
          · exact goesOn_error rfl
        · exact goesOn_error rfl

theorem goesOn_nextRegex (hds : StartsAnew ds) (hc : Text.isBlank c = false) :
    (nextRegex ⟨c :: cs, o⟩).GoesOn (c :: cs).length ds (nextRegex ⟨c :: (cs ++ ds), o'⟩) := by
  rw [nextRegex, nextRegex, Cursor.skipWhile_of_head hc, Cursor.skipWhile_of_head hc]
  dsimp only
  split
  · contradiction
  · rename_i rest heq
    obtain ⟨rfl, rfl⟩ := List.cons.inj heq
    cases hpattern : patternHere? cs with
    | none => exact goesOn_error rfl
    | some r =>
      obtain ⟨pattern, n⟩ := r
      obtain ⟨hmore, hn⟩ := patternHere?_append hpattern ds
      have hflags := (takeWhile_append (p := Char.isAlpha) hds rfl (cs.drop n)).1
      have hlength : ((cs.drop n).takeWhile Char.isAlpha).length ≤ (cs.drop n).length :=
        (List.takeWhile_prefix _).length_le
      rw [List.length_drop] at hlength
      simp only [hmore, List.drop_append_of_le_length hn, hflags]
      refine goesOn_token (by simp) (by omega) ?_
      rw [List.length_cons]
      omega
  · split
    · exact goesOn_error rfl
    · rename_i herror
      exact goesOn_error herror

/-! ## All tokens -/

/-- Reads a token or a regular expression. -/
abbrev scan (regex : Bool) (start : Cursor) : Scan :=
  if regex then nextRegex start else nextToken start

theorem goesOn_scan (regex : Bool) (hds : StartsAnew ds) (hc : Text.isBlank c = false)
    (o o' : Nat) :
    (scan regex ⟨c :: cs, o⟩).GoesOn (c :: cs).length ds (scan regex ⟨c :: (cs ++ ds), o'⟩) := by
  cases regex with
  | true => exact goesOn_nextRegex hds hc
  | false => exact goesOn_nextToken hds hc

theorem scan_blank (regex : Bool) (hc : Text.isBlank c) :
    scan regex ⟨c :: cs, o⟩ = scan regex ⟨cs, o + 1⟩ := by
  cases regex with
  | true =>
    change nextRegex _ = nextRegex _
    rw [nextRegex, nextRegex, Cursor.skipWhile_cons hc]
  | false =>
    change nextToken _ = nextToken _
    rw [nextToken, nextToken, Cursor.skipWhile_cons hc]

/-- Every token has some characters. -/
theorem length_scan_lt {start : Cursor} (regex : Bool) {l : Lexeme}
    (h : (scan regex start).outcome = .ok l) (hl : l.token ≠ .endOfText) :
    (scan regex start).cursor.rest.length < start.rest.length := by
  obtain ⟨cs, o⟩ := start
  induction cs generalizing o with
  | nil =>
    cases regex with
    | true => contradiction
    | false =>
      obtain rfl := Except.ok.inj h
      contradiction
  | cons c cs ih =>
    by_cases hc : Text.isBlank c
    · rw [scan_blank regex hc] at h ⊢
      exact Nat.lt_succ_of_lt (ih _ h)
    · have hnil : StartsAnew [] := fun _ h => nomatch h
      exact (goesOn_scan regex hnil (by simpa using hc) o o l h).2.1

theorem read_of_outcome {start : Cursor} {regex : Bool} {l : Lexeme}
    (h : (scan regex start).outcome = .ok l) (hl : l.token ≠ .endOfText) :
    Lexemes.read regex start =
      .more l (Lexemes.read (l.token == .mark .matchSign) (scan regex start).cursor) := by
  rw [Lexemes.read.eq_def]
  simp only [h, length_scan_lt regex h hl, if_true]

theorem read_of_error {start : Cursor} {regex : Bool} {e : ParseError}
    (h : (scan regex start).outcome = .error e) : Lexemes.read regex start = .fault e := by
  rw [Lexemes.read.eq_def]
  simp only [h]

theorem read_of_end {start : Cursor} {regex : Bool} {l : Lexeme}
    (h : (scan regex start).outcome = .ok l) (hl : l.token = .endOfText) :
    Lexemes.read regex start = .done l.offset := by
  rw [Lexemes.read.eq_def]
  simp only [h, hl]

/-- Tokens are read call by call: there is an error, the end, or a token and what is read from where
the call stopped. -/
theorem read_induction {P : Bool → Cursor → Lexemes → Prop}
    (fault : ∀ regex start e, (scan regex start).outcome = .error e → P regex start (.fault e))
    (done : ∀ regex start l, (scan regex start).outcome = .ok l → l.token = .endOfText →
      P regex start (.done l.offset))
    (more : ∀ regex start l rest, (scan regex start).outcome = .ok l → l.token ≠ .endOfText →
      P (l.token == .mark .matchSign) (scan regex start).cursor rest → P regex start (.more l rest))
    (regex : Bool) (start : Cursor) : P regex start (Lexemes.read regex start) := by
  induction hn : start.rest.length using Nat.strong_induction_on generalizing regex start with
  | _ n ih =>
    cases houtcome : (scan regex start).outcome with
    | error e =>
      rw [read_of_error houtcome]
      exact fault regex start e houtcome
    | ok l =>
      by_cases hl : l.token = .endOfText
      · rw [read_of_end houtcome hl]
        exact done regex start l houtcome hl
      · rw [read_of_outcome houtcome hl]
        have hshorter := length_scan_lt regex houtcome hl
        exact more regex start l _ houtcome hl (ih _ (hn ▸ hshorter) _ _ rfl)

theorem read_blank (regex : Bool) (hc : Text.isBlank c) :
    Lexemes.read regex ⟨c :: cs, o⟩ = Lexemes.read regex ⟨cs, o + 1⟩ := by
  have hscan : scan regex ⟨c :: cs, o⟩ = scan regex ⟨cs, o + 1⟩ := scan_blank regex hc
  cases houtcome : (scan regex ⟨cs, o + 1⟩).outcome with
  | error e => rw [read_of_error houtcome, read_of_error (hscan ▸ houtcome)]
  | ok l =>
    by_cases hl : l.token = .endOfText
    · rw [read_of_end houtcome hl, read_of_end (hscan ▸ houtcome) hl]
    · rw [read_of_outcome houtcome hl, read_of_outcome (hscan ▸ houtcome) hl, hscan]

/-- Whether tokens are those of another text up to its end, wherever they stand, and then some
further tokens; where the text stops being tokens, it may go on in any way. -/
inductive Lexemes.Continues (further : Lexemes) : (short long : Lexemes) → Prop where
  | more {l l' : Lexeme} {short long : Lexemes} (htoken : l'.token = l.token)
    (hend : l.token ≠ .endOfText) (h : Continues further short long) :
    Continues further (.more l short) (.more l' long)
  | done (offset : Nat) : Continues further (.done offset) further
  | fault (e : ParseError) (long : Lexemes) : Continues further (.fault e) long

/-- **Texts that go on.** If a text goes on with what starts anew, reading both gives the tokens of
the first up to its end, and then those of the second. -/
theorem continues_read (hds : StartsAnew ds) (regex : Bool) (cs : List Char) (o o' : Nat) :
    ∃ next, Lexemes.Continues (tokensAt ds next) (Lexemes.read regex ⟨cs, o⟩)
      (Lexemes.read regex ⟨cs ++ ds, o'⟩) := by
  induction hn : cs.length using Nat.strong_induction_on generalizing regex cs o o' with
  | _ n ih =>
    cases cs with
    | nil =>
      refine ⟨o', ?_⟩
      cases regex with
      | true =>
        rw [Lexemes.read.eq_def]
        exact .fault _ _
      | false =>
        rw [Lexemes.read.eq_def]
        exact .done _
    | cons c cs =>
      rw [List.length_cons] at hn
      by_cases hc : Text.isBlank c
      · rw [List.cons_append, read_blank regex hc, read_blank regex hc]
        exact ih _ (by omega) regex cs _ _ rfl
      · have hgoes : (scan regex ⟨c :: cs, o⟩).GoesOn _ ds (scan regex ⟨c :: (cs ++ ds), o'⟩) :=
          goesOn_scan regex hds (by simpa using hc) o o'
        cases houtcome : (scan regex ⟨c :: cs, o⟩).outcome with
        | error e =>
          rw [read_of_error houtcome]
          exact ⟨0, .fault _ _⟩
        | ok l =>
          obtain ⟨hl, hshorter, here, next, hlong⟩ := hgoes l houtcome
          have hlonger : (scan regex ⟨c :: cs ++ ds, o'⟩).outcome = .ok ⟨l.token, here⟩ := by
            rw [List.cons_append, hlong]
          rw [read_of_outcome houtcome hl, read_of_outcome hlonger hl, List.cons_append, hlong]
          rw [List.length_cons] at hshorter
          obtain ⟨further, hfurther⟩ := ih _ (by omega) _ (scan regex ⟨c :: cs, o⟩).cursor.rest
            (scan regex ⟨c :: cs, o⟩).cursor.offset next rfl
          exact ⟨further, .more rfl hl hfurther⟩

end JsonPath.Query

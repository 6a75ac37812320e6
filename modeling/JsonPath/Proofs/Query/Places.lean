import JsonPath.Proofs.Query.Phrases
import JsonPath.Proofs.Query.Progress

/-!
# Where tokens stand

Every token is kept with the place where its characters start, and text that is no token is reported
where it starts. So is a character that cannot stand where it does; what misses is reported at the
end of the text, and a bad escape at its backslash.

* `ParseError.PointsInto` — an error tells of what stands at its place.
* `Token.StandsAt` — a token starts at a place.
* `standsIn_scan`, `standIn_lexemes` — one call, and the tokens of a whole text.
-/

namespace JsonPath

/-- Whether a fault is one of what stands at an offset of a text: a character, a quote, a slash, an
escape or a word, the end of the text or something before it. Of two faults nothing is said here: a
step of zero and nesting too deep. -/
def ParseFault.StandsAt (text : List Char) (offset : Nat) : ParseFault → Prop
  | unexpectedCharacter c | unbalancedBracket c => text[offset]? = some c
  | unexpectedEnd _ => offset = text.length
  | unexpectedToken _ _ => offset < text.length
  | unterminatedString => text[offset]? = some '"' ∨ text[offset]? = some '\''
  | unterminatedRegex | invalidRegex | unsupportedFlag _ => text[offset]? = some '/'
  | invalidEscape c => ['\\', c] <+: text.drop offset
  | invalidNumber word | unknownFunction word | arityMismatch word _ _ =>
    word.toList <+: text.drop offset
  | zeroSliceStep | nestingTooDeep _ => True

/-- Whether an error is at a place in a text, and tells of what stands there. -/
structure ParseError.PointsInto (text : List Char) (e : ParseError) : Prop where
  offset_le : e.offset ≤ text.length
  standsAt : e.fault.StandsAt text e.offset

theorem getElem?_of_prefix_drop {α : Type} {a : α} {as text : List α} {n : Nat}
    (h : a :: as <+: text.drop n) : text[n]? = some a := by
  obtain ⟨rest, hrest⟩ := h
  rw [← List.head?_drop, ← hrest]
  rfl

/-! ## Literals -/

namespace Text

variable {quote e : Char} {cs : List Char} {distance n : Nat}

/-- A bad escape is a backslash and a character. -/
theorem Quoted.prefix_of_read_badEscape
    (h : read quote distance cs = .error (.badEscape n e)) :
    ∃ k, n = distance + k ∧ ['\\', e] <+: cs.drop k := by
  fun_induction read quote distance cs with
  | case1 | case4 => exact absurd (Except.error.inj h) (by simp)
  | case2 => contradiction
  | case3 distance c rest hc hslash decoded taken hescape ih =>
    cases hread : read quote (distance + 1 + taken) (rest.drop taken) with
    | ok r =>
      rw [hread] at h
      contradiction
    | error fault =>
      rw [hread] at h
      obtain rfl := Except.error.inj h
      obtain ⟨k, hn, hprefix⟩ := ih hread
      refine ⟨taken + k + 1, by omega, ?_⟩
      rwa [List.drop_succ_cons, ← List.drop_drop]
  | case5 distance c hc hslash a tail hescape =>
    obtain ⟨rfl, rfl⟩ := Text.QuoteFault.badEscape.inj (Except.error.inj h)
    refine ⟨0, rfl, tail, ?_⟩
    rw [beq_iff_eq.1 hslash]
    rfl
  | case6 distance c rest hc hslash ih =>
    cases hread : read quote (distance + 1) rest with
    | ok r =>
      rw [hread] at h
      contradiction
    | error fault =>
      rw [hread] at h
      obtain rfl := Except.error.inj h
      obtain ⟨k, hn, hprefix⟩ := ih hread
      exact ⟨k + 1, by omega, hprefix⟩

variable {text : List Char} {here : Cursor} {fault : ParseFault} {rest : List Char}

/-- An error reported where a cursor is points into the text, if its fault stands there. -/
theorem Cursor.IsIn.pointsInto (h : here.IsIn text) (hfault : fault.StandsAt text here.offset) :
    ParseError.PointsInto text ⟨fault, here.offset⟩ := ⟨h.offset_le, hfault⟩

/-- A literal that cannot be read is reported at its quote, or at the escape. -/
theorem Cursor.IsIn.pointsInto_quoteError (h : here.IsIn text) (hrest : here.rest = quote :: rest)
    (hquote : quote = '"' ∨ quote = '\'') {fault : QuoteFault}
    (hread : Quoted.read quote 1 rest = .error fault) :
    (Query.quoteError here.offset fault).PointsInto text := by
  cases fault with
  | unterminated =>
    refine h.pointsInto ?_
    rw [ParseFault.StandsAt, h.getElem? hrest]
    exact hquote.imp (congrArg some) (congrArg some)
  | badEscape n e =>
    obtain ⟨k, rfl, hprefix⟩ := Quoted.prefix_of_read_badEscape hread
    have hdrop : text.drop (here.offset + (1 + k)) = rest.drop k := by
      rw [← List.drop_drop, ← h.rest_eq, hrest, Nat.add_comm 1 k, List.drop_succ_cons]
    rw [← hdrop] at hprefix
    refine ⟨?_, hprefix⟩
    have hlength := hprefix.length_le
    simp only [List.length_drop, List.length_cons] at hlength
    simp only [Query.quoteError]
    omega

end Text

namespace Query

open Text (Cursor isBlank)

/-! ## Tokens -/

/-- The characters that a token is known to start with. -/
def Token.opening : Token → List Char
  | .mark m => m.text.toList
  | .regex _ _ => ['/']
  | t => (memberName? t).elim [] String.toList

/-- Whether a token starts at an offset of a text. -/
structure Token.StandsAt (text : List Char) (offset : Nat) (t : Token) : Prop where
  offset_le : offset ≤ text.length
  atEnd : t = .endOfText ↔ offset = text.length
  opening : t.opening <+: text.drop offset

variable {text : List Char} {here c : Cursor} {s : Scan} {t : Token} {o : Nat}

theorem Token.StandsAt.offset_lt (h : t.StandsAt text o) (ht : t ≠ .endOfText) :
    o < text.length :=
  lt_of_le_of_ne h.offset_le fun heq => ht (h.atEnd.2 heq)

theorem opening_of_memberName? {name : String} (h : memberName? t = some name) :
    t.opening = name.toList := by
  cases t with
  | identifier | boolean | null =>
    obtain rfl := Option.some.inj h
    rfl
  | _ => contradiction

/-- The name of a member stands there. -/
theorem Token.StandsAt.name_prefix {name : String} (h : t.StandsAt text o)
    (hname : memberName? t = some name) : name.toList <+: text.drop o :=
  opening_of_memberName? hname ▸ h.opening

/-- A mark of one character stands where that character does. -/
theorem Token.StandsAt.getElem? {m : Mark} {c : Char} (h : (Token.mark m).StandsAt text o)
    (hm : m.text.toList = [c]) : text[o]? = some c := by
  have hopening := h.opening
  rw [Token.opening, hm] at hopening
  exact getElem?_of_prefix_drop hopening

theorem standsAt_of_isIn (h : here.IsIn text) (hend : t = .endOfText ↔ here.rest = [])
    (hopening : t.opening <+: here.rest) : t.StandsAt text here.offset := by
  refine ⟨h.offset_le, hend.trans ⟨h.offset_eq, fun heq => ?_⟩, h.rest_eq ▸ hopening⟩
  rw [h.rest_eq, heq, List.drop_length]

/-- A token that is not the end stands before it. -/
theorem standsAt_of_cons {first : Char} {rest : List Char} (h : here.IsIn text)
    (hrest : here.rest = first :: rest) (hend : t ≠ .endOfText)
    (hopening : t.opening <+: here.rest) : t.StandsAt text here.offset :=
  standsAt_of_isIn h (by simp [hend, hrest]) hopening

/-- Whether what a call gives stands in a text where it says. -/
structure Scan.StandsIn (text : List Char) (s : Scan) : Prop where
  token : ∀ l, s.outcome = .ok l → l.token.StandsAt text l.offset
  error : ∀ e, s.outcome = .error e → e.PointsInto text

theorem standsIn_token (h : t.StandsAt text here.offset) (n : Nat) :
    (Scan.token here t n).StandsIn text :=
  ⟨fun _ hl => Except.ok.inj hl ▸ h, fun _ he => nomatch he⟩

theorem standsIn_error {e : ParseError} (h : e.PointsInto text) :
    (Scan.mk (.error e) c).StandsIn text :=
  ⟨fun _ hl => (nomatch hl), fun _ he => Except.error.inj he ▸ h⟩

theorem opening_numberText {n : NumberText} (ht : n.token = .ok t) : t.opening = [] := by
  unfold NumberText.token at ht
  split at ht
  · split at ht
    · obtain rfl := Except.ok.inj ht
      rfl
    · contradiction
  · obtain rfl := Except.ok.inj ht
    rfl

theorem fault_numberText {n : NumberText} {fault : ParseFault} (h : n.token = .error fault) :
    fault = .invalidNumber (String.ofList n.whole) := by
  unfold NumberText.token at h
  split at h
  · split at h
    · contradiction
    · exact (Except.error.inj h).symm
  · contradiction

theorem TokenScan.standsIn (h : TokenScan here s) (hin : here.IsIn text) : s.StandsIn text := by
  cases h with
  | endOfText hrest =>
    refine standsIn_token ?_ _
    exact standsAt_of_isIn hin (by simp [hrest]) List.nil_prefix
  | mark hm =>
    refine standsIn_token ?_ _
    refine standsAt_of_isIn hin ?_ (prefix_of_markHere? hm)
    obtain ⟨hpos, hle⟩ := length_le_of_markHere? hm
    simpa using List.ne_nil_of_length_pos (hpos.trans_le hle)
  | string hrest =>
    refine standsIn_token ?_ _
    exact standsAt_of_cons hin hrest nofun List.nil_prefix
  | badString hrest hquote hread =>
    exact standsIn_error (hin.pointsInto_quoteError hrest hquote hread)
  | word hrest =>
    refine standsIn_token (standsAt_of_cons hin hrest (wordToken_ne_endOfText _) ?_) _
    rw [opening_of_memberName? (memberName?_wordToken _), String.toList_ofList]
    exact List.takeWhile_prefix _
  | number hrest _ ht =>
    refine standsIn_token (standsAt_of_cons hin hrest (NumberText.token_ne ht).1 ?_) _
    rw [opening_numberText ht]
    exact List.nil_prefix
  | badNumber _ _ hfault =>
    refine standsIn_error (hin.pointsInto ?_)
    rw [fault_numberText hfault, ParseFault.StandsAt, String.toList_ofList, ← hin.rest_eq]
    exact List.takeWhile_prefix _
  | unexpected hrest => exact standsIn_error (hin.pointsInto (hin.getElem? hrest))

theorem RegexScan.standsIn (h : RegexScan here s) (hin : here.IsIn text) : s.StandsIn text := by
  cases h with
  | missing hrest => exact standsIn_error (hin.pointsInto (hin.offset_eq hrest))
  | regex hrest =>
    refine standsIn_token ?_ _
    refine standsAt_of_cons hin hrest nofun ?_
    rw [hrest]
    exact ⟨_, rfl⟩
  | unterminated hrest => exact standsIn_error (hin.pointsInto (hin.getElem? hrest))
  | other hrest => exact standsIn_error (hin.pointsInto (hin.offset_lt hrest))
  | fault hs => exact hs.standsIn hin

theorem standsIn_scan (regex : Bool) (h : c.IsIn text) : (scan regex c).StandsIn text := by
  cases regex with
  | true => exact (regexScan_nextRegex c).standsIn (h.skipWhile isBlank)
  | false => exact (tokenScan_nextToken c).standsIn (h.skipWhile isBlank)

/-! ## Whole texts -/

/-- Whether all tokens of a text stand where they are said to stand, and what stops them as well. -/
def Lexemes.StandIn (text : List Char) : Lexemes → Prop
  | .more l rest => l.token.StandsAt text l.offset ∧ rest.StandIn text
  | .done offset => Token.endOfText.StandsAt text offset
  | .fault e => e.PointsInto text

theorem standIn_read (regex : Bool) (h : c.IsIn text) : (Lexemes.read regex c).StandIn text := by
  refine read_induction (P := fun _ c L => c.IsIn text → L.StandIn text)
    (fun regex c e he h => ?_) (fun regex c l hl hend h => ?_)
    (fun regex c l rest hl _ ih h => ?_) regex c h
  · exact (standsIn_scan regex h).error e he
  · have hstands := (standsIn_scan regex h).token l hl
    rwa [hend] at hstands
  · exact ⟨(standsIn_scan regex h).token l hl, ih (isIn_scan regex h)⟩

theorem standIn_lexemes (text : String) : (lexemes text).StandIn text.toList :=
  standIn_read false (Cursor.isIn_start text)

end Query

end JsonPath

import JsonPath.Proofs.Number.Written
import JsonPath.Proofs.Query.Words

/-!
# Numbers read back from their text

Whole numbers are written in digits, floats positionally or with an exponent. A point or an exponent
tells the two apart, and what is read has the value of the digits, so it is the number that was
written. Signs are tokens of their own.

* `firstToken_integer`, `firstToken_float` — a written magnitude is read as one token.
* `lexes_intChars`, `lexes_floatText` — signed numbers.
-/

namespace JsonPath.Query

open Text (Cursor)
open Number (Binary64 Digits ofDigits)

variable {c : Char} {cs rest : List Char} {t : Token}

/-! ## Numbers -/

theorem exponentHere_of_head (h : ∀ c ∈ rest.head?, (c == 'e' || c == 'E') = false) :
    Number.exponentHere rest = (0, 0) := by
  cases rest with
  | nil => rfl
  | cons c rest => simp [Number.exponentHere, h c rfl]

theorem exponentHere_of_endsWord (hrest : EndsWord rest) : Number.exponentHere rest = (0, 0) :=
  exponentHere_of_head fun _ => hrest.of_head (p := fun c => c == 'e' || c == 'E') (by decide)

theorem ne_of_isDigit {d a : Char} (hd : d.isDigit) (ha : a.isDigit = false) : d ≠ a := by
  rintro rfl
  simp [hd] at ha

theorem isIdentifierStart_of_isDigit {d : Char} (hd : d.isDigit) :
    Text.isIdentifierStart d = false := by
  have hcode : 48 ≤ d.toNat ∧ d.toNat ≤ 57 := by
    simpa [Char.isDigit, UInt32.le_iff_toNat_le] using hd
  have hletter : d.isAlpha = false := by
    simp only [Char.isAlpha, Char.isUpper, Char.isLower]
    simp [UInt32.le_iff_toNat_le]
    constructor
    · intro h
      have : 65 ≤ d.toNat := h
      omega
    · intro h
      have : 97 ≤ d.toNat := h
      omega
  have hascii : d.toNat < 128 := by omega
  simp [Text.isIdentifierStart, Text.isLetter, hascii, hletter, ne_of_isDigit hd (a := '_') rfl]

theorem NumberText.token_ne {n : NumberText} (ht : n.token = .ok t) :
    t ≠ .endOfText ∧ t ≠ .mark .matchSign := by
  unfold NumberText.token at ht
  split at ht
  · split at ht
    · obtain rfl := Except.ok.inj ht
      simp
    · contradiction
  · obtain rfl := Except.ok.inj ht
    simp

/-- The number at the start of a text is the token there. -/
theorem firstToken_number {d : Char} (hd : d.isDigit)
    (hlength : (numberHere (d :: (cs ++ rest))).length = cs.length + 1)
    (ht : (numberHere (d :: (cs ++ rest))).token = .ok t) :
    FirstToken (d :: (cs ++ rest)) t rest := by
  have hmark : d ∉ markStarts := notMem_of_any_eq_false (by decide) hd
  have hquote : (d == '"' || d == '\'') = false := by
    simp [ne_of_isDigit hd (a := '"') rfl, ne_of_isDigit hd (a := '\'') rfl]
  have hstart := isIdentifierStart_of_isDigit hd
  obtain ⟨hend, hmatch⟩ := NumberText.token_ne ht
  refine firstToken_of_nextToken (fun offset => ?_) hend hmatch
  rw [nextToken, Cursor.skipWhile_of_head (Text.isBlank_of_isDigit hd)]
  simp only [markHere?_eq_none hmark, hquote, Bool.false_eq_true, if_false, hstart, hd, if_true,
    ht, hlength]

/-- The point and the places of a number, if it has any. -/
def fractionChars (places : List Char) : List Char := if places = [] then [] else '.' :: places

/-- Whether a text does not go on with the number before it: not with a digit, and where the number
has no places yet, not with a point and a digit either. -/
structure EndsDigits (places rest : List Char) : Prop where
  digit : ∀ c ∈ rest.head?, c.isDigit = false
  point : places = [] → ∀ tail, rest = '.' :: tail → ∀ c ∈ tail.head?, c.isDigit = false

theorem EndsDigits.of_head (h : ∀ c ∈ rest.head?, c.isDigit = false ∧ c ≠ '.')
    (places : List Char) : EndsDigits places rest := by
  refine ⟨fun c hc => (h c hc).1, ?_⟩
  rintro - tail rfl
  exact absurd rfl (h '.' rfl).2

theorem EndsWord.endsDigits (hrest : EndsWord rest) (places : List Char) :
    EndsDigits places rest :=
  .of_head (fun _ hc => ⟨hrest.of_head (p := Char.isDigit) (by decide) hc,
    beq_eq_false_iff_ne.1 (hrest.of_head (p := (· == '.')) (by decide) hc)⟩) places

/-- Digits, perhaps a point and more digits, and perhaps an exponent are one number. -/
theorem numberHere_decimal {whole places exponent : List Char} {e : ℤ}
    (hwhole : ∀ c ∈ whole, c.isDigit) (hplaces : ∀ c ∈ places, c.isDigit)
    (hstop : EndsDigits places (exponent ++ rest))
    (hexponent : Number.exponentHere (exponent ++ rest) = (e, exponent.length)) :
    numberHere (whole ++ (fractionChars places ++ (exponent ++ rest))) =
      ⟨whole, places, e, exponent.length⟩ := by
  generalize hafter : exponent ++ rest = after at hstop hexponent ⊢
  cases places with
  | nil =>
    obtain ⟨htake, hdrop⟩ := takeWhile_run hwhole hstop.digit
    by_cases hpoint : ∃ tail, after = '.' :: tail
    · obtain ⟨tail, rfl⟩ := hpoint
      have hnone : tail.takeWhile Char.isDigit = [] := by
        simpa using (takeWhile_run (List.forall_mem_nil _) (hstop.point rfl tail rfl)).1
      simp only [fractionChars, if_true, List.nil_append, numberHere, htake, hdrop, hnone]
      simp only [List.isEmpty_nil, if_true, hexponent]
    · have hpoint : ∀ tail, after ≠ '.' :: tail := not_exists.1 hpoint
      simp only [fractionChars, if_true, List.nil_append, numberHere, htake, hdrop]
      simp only [List.isEmpty_nil, if_true, hexponent]
  | cons p ps =>
    have hpoint : ∀ c ∈ ('.' :: (p :: ps ++ after)).head?, c.isDigit = false := by simp
    obtain ⟨htake, hdrop⟩ := takeWhile_run hwhole hpoint
    obtain ⟨htakePlaces, -⟩ := takeWhile_run hplaces hstop.digit
    simp only [fractionChars, if_neg (List.cons_ne_nil p ps), List.cons_append]
      at htake hdrop htakePlaces ⊢
    simp only [numberHere, htake, hdrop, htakePlaces, List.isEmpty_cons, Bool.false_eq_true,
      if_false, List.length_cons, List.drop_succ_cons, List.drop_left, hexponent]

theorem firstToken_decimal {whole places exponent : List Char} {e : ℤ} (hne : whole ≠ [])
    (hwhole : ∀ c ∈ whole, c.isDigit) (hplaces : ∀ c ∈ places, c.isDigit)
    (hstop : EndsDigits places (exponent ++ rest))
    (hexponent : Number.exponentHere (exponent ++ rest) = (e, exponent.length))
    (ht : NumberText.token ⟨whole, places, e, exponent.length⟩ = .ok t) :
    FirstToken (whole ++ (fractionChars places ++ (exponent ++ rest))) t rest := by
  have hnumber := numberHere_decimal hwhole hplaces hstop hexponent
  obtain ⟨d, ds, rfl⟩ := List.exists_cons_of_ne_nil hne
  have hsplit : d :: ds ++ (fractionChars places ++ (exponent ++ rest)) =
      d :: (ds ++ (fractionChars places ++ exponent) ++ rest) := by simp
  rw [hsplit] at hnumber ⊢
  refine firstToken_number (hwhole d List.mem_cons_self) ?_ (by rwa [hnumber])
  rw [hnumber]
  simp only [NumberText.length, fractionChars, List.length_cons, List.length_append]
  cases places <;> simp <;> omega

/-- Digits are one token, with zeros in front too, before anything that goes on with none. -/
theorem firstToken_digits {n : Int64} {digits : List Char} (hne : digits ≠ [])
    (hdigits : ∀ c ∈ digits, c.isDigit) (hvalue : Number.ofNat? (ofDigits digits) = some n)
    (hrest : EndsDigits [] rest)
    (hexponent : ∀ c ∈ rest.head?, (c == 'e' || c == 'E') = false) :
    FirstToken (digits ++ rest) (.integer n) rest := by
  have htoken : NumberText.token ⟨digits, [], 0, 0⟩ = .ok (.integer n) := by
    simp only [NumberText.token, List.isEmpty_nil, beq_self_eq_true, Bool.and_self, if_true, hvalue]
  have hfirst : FirstToken (digits ++ (fractionChars [] ++ ([] ++ rest))) (.integer n) rest :=
    firstToken_decimal hne hdigits (List.forall_mem_nil _) hrest (exponentHere_of_head hexponent)
      htoken
  simpa [fractionChars] using hfirst

theorem ofNat?_ofDigits_toDigits {n : Int64} (hn : 0 ≤ n.toInt) :
    Number.ofNat? (ofDigits (Nat.toDigits 10 n.toInt.toNat)) = some n := by
  rw [Number.ofDigits_toDigits, Number.ofNat?, Int.toNat_of_nonneg hn, Number.ofInt?_toInt]

theorem firstToken_integer {n : Int64} (hn : 0 ≤ n.toInt) (hrest : EndsWord rest) :
    FirstToken (Nat.toDigits 10 n.toInt.toNat ++ rest) (.integer n) rest :=
  firstToken_digits Nat.toDigits_ne_nil (fun _ => Number.isDigit_of_mem_toDigits)
    (ofNat?_ofDigits_toDigits hn) (hrest.endsDigits [])
    fun _ => hrest.of_head (p := fun c => c == 'e' || c == 'E') (by decide)

/-! ### Floats -/

theorem firstToken_float {whole places exponent : List Char} {e : ℤ} (hne : whole ≠ [])
    (hwhole : ∀ c ∈ whole, c.isDigit) (hplaces : ∀ c ∈ places, c.isDigit)
    (hstop : EndsDigits places (exponent ++ rest))
    (hexponent : Number.exponentHere (exponent ++ rest) = (e, exponent.length))
    (hfloat : places = [] → exponent ≠ []) :
    FirstToken (whole ++ (fractionChars places ++ (exponent ++ rest)))
      (.float (Number.floatOfNotation whole places e)) rest := by
  refine firstToken_decimal hne hwhole hplaces hstop hexponent ?_
  have hnotint : (places.isEmpty && exponent.length == 0) = false := by
    cases places with
    | nil => simpa using hfloat rfl
    | cons => rfl
  simp only [NumberText.token, hnotint, Bool.false_eq_true, if_false]

theorem firstToken_positional {d : Digits} {whole places : List Char}
    (h : d.Writes whole places 0) (hne : places ≠ []) (hrest : EndsWord rest) :
    FirstToken (whole ++ '.' :: (places ++ rest))
      (.float (Number.floatOfNotation whole places 0)) rest := by
  have hpoint : '.' :: (places ++ rest) = fractionChars places ++ ([] ++ rest) := by
    simp [fractionChars, hne]
  rw [hpoint]
  exact firstToken_float h.whole_ne_nil h.whole_digits h.places_digits (hrest.endsDigits places)
    (exponentHere_of_endsWord hrest) fun hnil => absurd hnil hne

theorem exponentHere_signed {sign : Char} (hsign : sign = '+' ∨ sign = '-') {ds : List Char}
    (hne : ds ≠ []) (hds : ∀ c ∈ ds, c.isDigit) (hrest : EndsWord rest) :
    Number.exponentHere ('e' :: sign :: ds ++ rest) =
      (if sign = '-' then -(ofDigits ds : ℤ) else ofDigits ds, ds.length + 2) := by
  have htake := (takeWhile_word (p := Char.isDigit) (by decide) hds hrest).1
  have hempty : ds.isEmpty = false := by simpa using hne
  rcases hsign with rfl | rfl <;>
    simp [Number.exponentHere, htake, hempty] <;> omega

/-- How the sign of an exponent and its digits are written. -/
def exponentChars (e : ℤ) : List Char :=
  'e' :: (if e < 0 then '-' else '+') :: Nat.toDigits 10 e.natAbs

theorem exponentHere_exponentChars (e : ℤ) (hrest : EndsWord rest) :
    Number.exponentHere (exponentChars e ++ rest) = (e, (exponentChars e).length) := by
  rw [exponentChars, exponentHere_signed (by split <;> simp) Nat.toDigits_ne_nil
    (fun _ => Number.isDigit_of_mem_toDigits) hrest, Number.ofDigits_toDigits]
  rcases lt_or_ge e 0 with he | he
  · simp [he, Int.ofNat_natAbs_of_nonpos he.le]
  · simp [not_lt.2 he, Int.natAbs_of_nonneg he]

theorem firstToken_scientific {d : Digits} {whole places : List Char} {e : ℤ}
    (h : d.Writes whole places e) (hrest : EndsWord rest) :
    FirstToken (whole ++ (fractionChars places ++ (exponentChars e ++ rest)))
      (.float (Number.floatOfNotation whole places e)) rest :=
  firstToken_float h.whole_ne_nil h.whole_digits h.places_digits
    (.of_head (by simp [exponentChars]) places)
    (exponentHere_exponentChars e hrest) (by simp [exponentChars])

theorem toList_text (digits : List ℕ) :
    (Digits.text digits).toList = digits.map Digits.digitChar := by
  simp [Digits.text]

theorem fractionChars_eq (digits : List ℕ) :
    (if (Digits.text digits).isEmpty then "" else "." ++ Digits.text digits).toList =
      fractionChars (digits.map Digits.digitChar) := by
  cases digits with
  | nil => rfl
  | cons => simp [fractionChars, Digits.text]

theorem exponentChars_eq (e : ℤ) :
    (if e < 0 then "e-" else "e+").toList ++ (toString e.natAbs).toList = exponentChars e := by
  rw [exponentChars, Nat.toString_eq_repr, Nat.toList_repr]
  split <;> rfl

/-- The written magnitude of a double is read as the double. -/
theorem firstToken_magnitudeText {b : Binary64} (hb : Number.Canonical b.mantissa b.exponent)
    (hpositive : b.negative = false) (hrest : EndsWord rest) :
    FirstToken ((Json.magnitudeText (Digits.shortest b)).toList ++ rest)
      (.float b.toFloat) rest := by
  have hread {whole places : List Char} {e : ℤ} (h : (Digits.shortest b).Writes whole places e) :=
    Number.floatOfNotation_of_writes hb hpositive h
  obtain ⟨hdigits, hpos, -⟩ := Digits.shortest_spec hb
  generalize Digits.shortest b = d at hread hdigits hpos ⊢
  have hne : d.chars ≠ [] := by
    intro hnil
    rw [hnil] at hpos
    exact absurd hpos (by decide)
  unfold Json.magnitudeText
  split
  · have h := Digits.writes_positional hdigits hne
    have hfirst := firstToken_positional h (by split <;> simp_all) hrest
    rw [hread h] at hfirst
    simpa [toList_text] using hfirst
  · have h := Digits.writes_scientific hdigits hne
    have hfirst := firstToken_scientific h hrest
    rw [hread h, ← exponentChars_eq, Digits.chars, ← List.map_drop, ← List.map_take,
      ← fractionChars_eq, ← toList_text] at hfirst
    simpa using hfirst

/-- The written magnitude of any double, zero among them, is read as the double. -/
theorem firstToken_magnitude {b : Binary64} (hb : b.IsValid) (hpositive : b.negative = false)
    (hrest : EndsWord rest) :
    FirstToken
      ((if b.mantissa = 0 then "0.0" else Json.magnitudeText (Digits.shortest b)).toList ++ rest)
      (.float b.toFloat) rest := by
  rcases hb with ⟨hm, he⟩ | hc
  · have hfirst : FirstToken (['0'] ++ (fractionChars ['0'] ++ ([] ++ rest)))
        (.float (Number.floatOfNotation ['0'] ['0'] 0)) rest :=
      firstToken_float (by simp) (by simp) (by simp) (hrest.endsDigits ['0'])
        (exponentHere_of_endsWord hrest) (by simp)
    have hzero : Number.floatOfNotation ['0'] ['0'] 0 = b.toFloat := by
      obtain ⟨negative, m, e⟩ := b
      obtain rfl : negative = false := hpositive
      obtain rfl : m = 0 := hm
      obtain rfl : e = -1074 := he
      exact Binary64.floatOfDecimal_zero _
    rw [if_pos hm, ← hzero]
    simpa [fractionChars] using hfirst
  · rw [if_neg hc.pos.ne']
    exact firstToken_magnitudeText hc hpositive hrest

/-! ## Signed numbers -/

variable {ts : List Token}

/-- A minus sign is a token of its own. -/
theorem Lexes.minus (h : Lexes cs ts) : Lexes ('-' :: cs) (.mark .minus :: ts) :=
  Lexes.mark .minus (by decide) trivial h

/-- The tokens of an integer. -/
def intTokens (n : Int64) : List Token :=
  if n.toInt < 0 then [.mark .minus, .integer (-n)] else [.integer n]

/-- Only the least integer has no opposite. -/
theorem toInt_neg {n : Int64} (hn : n ≠ Int64.minValue) : (-n).toInt = -n.toInt := by
  have hlow := Int64.minValue_le_toInt n
  have hhigh := Int64.toInt_le n
  have hmin : Int64.minValue.toInt = -2 ^ 63 := by decide
  have hmax : Int64.maxValue.toInt = 2 ^ 63 - 1 := by decide
  have hne : n.toInt ≠ -2 ^ 63 := fun h => hn (Int64.toInt_inj.1 (h.trans hmin.symm))
  rw [Int64.toInt_neg, Int.bmod_eq_of_le] <;> omega

theorem lexes_intChars {n : Int64} (hn : n ≠ Int64.minValue) (hrest : EndsWord rest)
    (h : Lexes rest ts) : Lexes (Slice.intChars n ++ rest) (intTokens n ++ ts) := by
  have hchars (k : Nat) : (toString (k : Int)).toList = Nat.toDigits 10 k := Nat.toList_repr
  rw [Slice.intChars, intTokens]
  split
  · rename_i hneg
    have hopposite := toInt_neg hn
    obtain ⟨k, hk⟩ : ∃ k : ℕ, n.toInt = Int.negSucc k := Int.eq_negSucc_of_lt_zero hneg
    have hfirst := firstToken_integer (n := -n) (by omega) hrest
    have hk' : (-n).toInt.toNat = k + 1 := by omega
    rw [hk', ← hchars] at hfirst
    have hsigned : (toString (Int.negSucc k)).toList =
        '-' :: (toString ((k + 1 : ℕ) : Int)).toList :=
      String.toList_append
    rw [hk, hsigned]
    exact (hfirst.lexes h).minus
  · rename_i hnonneg
    have hfirst := firstToken_integer (n := n) (by omega) hrest
    rw [← hchars, Int.toNat_of_nonneg (by omega)] at hfirst
    exact hfirst.lexes h

/-- The tokens of a float; one that has no JSON text is written as `null`. -/
def floatTokens (x : Float) : List Token :=
  match Binary64.ofFloat? x with
  | none => [.null]
  | some b => if b.negative then [.mark .minus, .float (-x)] else [.float x]

theorem lexes_floatText (x : Float) (hrest : EndsWord rest) (h : Lexes rest ts) :
    Lexes ((Json.floatText x).toList ++ rest) (floatTokens x ++ ts) := by
  cases hb : Binary64.ofFloat? x with
  | none =>
    simp only [Json.floatText, floatTokens, hb]
    exact h.word "null" (.of_toList rfl (by decide)) hrest
  | some b =>
    have hvalid := Binary64.isValid_of_ofFloat? hb
    obtain rfl := Binary64.toFloat_of_ofFloat? hb
    simp only [Json.floatText, floatTokens, hb]
    split
    · rename_i hneg
      have hpositive : b.neg.negative = false := by simp [Binary64.neg, hneg]
      have hfirst := firstToken_magnitude hvalid.neg hpositive hrest
      rw [← Binary64.neg_toFloat hvalid] at hfirst
      rw [String.toList_append]
      exact (hfirst.lexes h).minus
    · rename_i hneg
      exact (firstToken_magnitude hvalid (by simpa using hneg) hrest).lexes h

end JsonPath.Query

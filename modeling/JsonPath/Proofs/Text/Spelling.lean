import JsonPath.Number.Notation
import JsonPath.Proofs.Text.Cursor
import JsonPath.Proofs.Text.Escape
import JsonPath.Text.Quoted

/-!
# Digits and quoted strings read back

A character may be spelled in a literal as itself, by an escape of one character or by its codes,
and reading takes any spelling: what it gives depends only on the characters that are spelled.
Numbers are written in one way.

* `Number.ofDigits_toDigits` — the decimal digits of a number write that number.
* `Quoted.IsSpelling` — how a character may be spelled between quotes of a kind, and
  `Quoted.Spells`, the same by what is read from the escape.
* `Quoted.read_spelled`, `Quoted.exists_spells_of_read` — a literal reads as the characters spelled
  in it, and whatever is read is spelled.
* `Quoted.read_eq_ok_iff` — the two together, from a place in a text on.
-/

namespace JsonPath

/-! ## Digits -/

namespace Number

theorem ofDigits_toDigits (n : Nat) : ofDigits (Nat.toDigits 10 n) = n := by
  have h := Nat.ofDigitChars_ten_toDigits (n := n)
  rwa [Nat.ofDigitChars_eq_foldl] at h

theorem isDigit_of_mem_toDigits {n : Nat} {c : Char} (h : c ∈ Nat.toDigits 10 n) : c.isDigit :=
  Nat.isDigit_of_mem_toDigits (by decide) (by decide) h

theorem exists_toDigits_eq_cons (n : Nat) : ∃ d ds, Nat.toDigits 10 n = d :: ds ∧ d.isDigit := by
  obtain ⟨d, ds, hds⟩ := List.exists_cons_of_ne_nil (Nat.toDigits_ne_nil (n := n) (b := 10))
  exact ⟨d, ds, hds, isDigit_of_mem_toDigits (n := n) (by simp [hds])⟩

end Number

namespace Text

/-- The longest run of a class is what was put before a character outside it. -/
theorem takeWhile_append_cons {p : Char → Bool} {cs rest : List Char} {c : Char}
    (hcs : ∀ a ∈ cs, p a) (hc : p c = false) : (cs ++ c :: rest).takeWhile p = cs := by
  rw [List.takeWhile_append_of_pos hcs, List.takeWhile_cons_of_neg (by simp [hc]), List.append_nil]

theorem takeWhile_toDigits {c : Char} (hc : c.isDigit = false) (n : Nat) (rest : List Char) :
    (Nat.toDigits 10 n ++ c :: rest).takeWhile Char.isDigit = Nat.toDigits 10 n :=
  takeWhile_append_cons (fun _ => Number.isDigit_of_mem_toDigits) hc

theorem isBlank_of_isDigit {c : Char} (h : c.isDigit) : isBlank c = false := by
  have hc : 48 ≤ c.toNat ∧ c.toNat ≤ 57 := by simpa [Char.isDigit, UInt32.le_iff_toNat_le] using h
  unfold isBlank
  simp only
  rw [if_pos (by omega)]
  simp
  omega

/-! ## Literals -/

namespace Quoted

variable {quote c : Char} {cs : List Char} {n : Nat}

/-- How a character may be spelled between quotes of a kind: as itself, or by an escape. -/
inductive Spells (quote : Char) (c : Char) : List Char → Prop where
  | itself (hquote : c ≠ quote) (hslash : c ≠ '\\') : Spells quote c [c]
  | escaped (body : List Char)
      (h : ∀ rest, escape? (body ++ rest) = some (c, body.length)) : Spells quote c ('\\' :: body)

theorem Spells.short {e : Char} (h : shortEscape? e = some c) : Spells quote c ['\\', e] :=
  .escaped [e] fun rest => by simp [escape?, h]

theorem Spells.code (h : IsCode c cs) : Spells quote c ('\\' :: 'u' :: cs) :=
  .escaped _ fun rest => by
    have hu : shortEscape? 'u' = none := rfl
    simp [escape?, hu, codeEscape?_of_isCode h]

theorem Spells.control (hc : c.toNat < 32) :
    Spells quote c ['\\', 'u', '0', '0', hexDigit (c.toNat / 16), hexDigit (c.toNat % 16)] :=
  .code (isCode_control hc)

/-! ### Escapes one by one -/

/-- The characters with an escape of one character, and that character. -/
def shortEscapes : List (Char × Char) := [
  ('\'', '\''), ('"', '"'), ('\\', '\\'), ('/', '/'), ('\x08', 'b'), ('\x0c', 'f'), ('\n', 'n'),
  ('\r', 'r'), ('\t', 't')]

theorem shortEscape?_eq_some_iff {e : Char} : shortEscape? e = some c ↔ (c, e) ∈ shortEscapes := by
  constructor
  · intro h
    unfold shortEscape? at h
    split at h
    all_goals first | contradiction | (obtain rfl := Option.some.inj h; decide)
  · intro h
    have hall : ∀ p ∈ shortEscapes, shortEscape? p.2 = some p.1 := by decide
    exact hall _ h

/-- Whether some characters spell a character between quotes of a kind: the character itself, unless
it is that quote or a backslash; its escape of one character; or its codes. -/
inductive IsSpelling (quote : Char) (c : Char) : List Char → Prop where
  | itself (hquote : c ≠ quote) (hslash : c ≠ '\\') : IsSpelling quote c [c]
  | short {e : Char} (h : (c, e) ∈ shortEscapes) : IsSpelling quote c ['\\', e]
  | code {cs : List Char} (h : IsCode c cs) : IsSpelling quote c ('\\' :: 'u' :: cs)

theorem IsSpelling.spells (h : IsSpelling quote c cs) : Spells quote c cs := by
  cases h with
  | itself hquote hslash => exact .itself hquote hslash
  | short h => exact .short (shortEscape?_eq_some_iff.2 h)
  | code h => exact .code h

/-- What is read as an escape is one of a character. -/
theorem exists_isSpelling_of_escape? (quote : Char) (h : escape? cs = some (c, n)) :
    ∃ body rest, cs = body ++ rest ∧ body.length = n ∧ IsSpelling quote c ('\\' :: body) := by
  cases cs with
  | nil => contradiction
  | cons e cs =>
    rw [escape?] at h
    split at h
    · rename_i short hshort
      obtain ⟨rfl, rfl⟩ := Prod.mk.inj (Option.some.inj h)
      exact ⟨[e], cs, rfl, rfl, .short (shortEscape?_eq_some_iff.1 hshort)⟩
    · split at h
      · rename_i hu
        obtain ⟨⟨c', k⟩, hread, heq⟩ := Option.map_eq_some_iff.1 h
        obtain ⟨rfl, rfl⟩ := Prod.mk.inj heq
        obtain ⟨code, rest, hcode, rfl, rfl⟩ := isCode_of_codeEscape? hread
        rw [beq_iff_eq.1 hu]
        exact ⟨'u' :: code, rest, rfl, rfl, .code hcode⟩
      · contradiction

theorem Spells.isSpelling (h : Spells quote c cs) : IsSpelling quote c cs := by
  cases h with
  | itself hquote hslash => exact .itself hquote hslash
  | escaped body h =>
    -- nothing is left over: the escape is as long as it is said to be
    obtain ⟨body', rest, heq, hlength, hspelling⟩ := exists_isSpelling_of_escape? quote (h [])
    have hrest : rest = [] := by
      have hlengths := congrArg List.length heq
      simp only [List.append_nil, List.length_append] at hlengths
      exact List.eq_nil_of_length_eq_zero (by omega)
    rw [hrest, List.append_nil, List.append_nil] at heq
    rwa [heq]

/-! ### Reading -/

theorem read_quote (distance : Nat) (rest : List Char) :
    read quote distance (quote :: rest) = .ok ([], distance + 1) := by
  rw [read.eq_def]
  simp

theorem read_itself (hquote : c ≠ quote) (hslash : c ≠ '\\') (distance : Nat)
    (rest : List Char) :
    read quote distance (c :: rest) =
      (read quote (distance + 1) rest).map fun (s, n) => (c :: s, n) := by
  rw [read.eq_def]
  simp only [beq_iff_eq, hquote, hslash, if_false]
  cases read quote (distance + 1) rest <;> rfl

theorem read_escaped (hquote : quote ≠ '\\') {body rest : List Char}
    (h : escape? (body ++ rest) = some (c, body.length)) (distance : Nat) :
    read quote distance ('\\' :: (body ++ rest)) =
      (read quote (distance + 1 + body.length) rest).map fun (s, n) => (c :: s, n) := by
  rw [read.eq_def]
  simp only [beq_iff_eq, hquote.symm, if_false, if_true, h, List.drop_left]
  cases read quote (distance + 1 + body.length) rest <;> rfl

/-- A literal reads as the characters that are spelled in it, through its closing quote. -/
theorem read_spelled (hquote : quote ≠ '\\') {s : List Char} {ws : List (List Char)}
    (h : List.Forall₂ (Spells quote) s ws) (distance : Nat) (rest : List Char) :
    read quote distance (ws.flatten ++ quote :: rest) =
      .ok (s, distance + ws.flatten.length + 1) := by
  induction h generalizing distance with
  | nil => exact read_quote distance rest
  | cons hw _ ih =>
    cases hw with
    | itself hc hslash =>
      rw [List.flatten_cons, List.singleton_append, List.cons_append, read_itself hc hslash, ih,
        List.length_cons]
      simp only [Except.map, Except.ok.injEq, Prod.mk.injEq, true_and]
      omega
    | escaped body hbody =>
      rw [List.flatten_cons, List.cons_append, List.cons_append, List.append_assoc,
        read_escaped hquote (hbody _), ih, List.length_cons, List.length_append]
      simp only [Except.map, Except.ok.injEq, Prod.mk.injEq, true_and]
      omega

/-- A way to spell every character is a way to spell every string. -/
theorem spells_map {write : Char → List Char} (h : ∀ c, Spells quote c (write c)) (s : List Char) :
    List.Forall₂ (Spells quote) s (s.map write) :=
  List.forall₂_map_right_iff.2 (List.forall₂_same.2 fun c _ => h c)

/-- A string that is written character by character reads back. -/
theorem read_written (hquote : quote ≠ '\\') {write : Char → List Char}
    (h : ∀ c, Spells quote c (write c)) (s : List Char) (distance : Nat) (rest : List Char) :
    read quote distance (s.flatMap write ++ quote :: rest) =
      .ok (s, distance + (s.flatMap write).length + 1) := by
  rw [List.flatMap_def]
  exact read_spelled hquote (spells_map h s) distance rest

/-! ### What is read -/

theorem exists_spells_of_escape? (quote : Char) (h : escape? cs = some (c, n)) :
    ∃ body rest, cs = body ++ rest ∧ body.length = n ∧ Spells quote c ('\\' :: body) := by
  obtain ⟨body, rest, hcs, hn, hbody⟩ := exists_isSpelling_of_escape? quote h
  exact ⟨body, rest, hcs, hn, hbody.spells⟩

/-- Whatever is read as a literal is spelled in one of the ways there are. -/
theorem exists_spells_of_read {distance : Nat} {s : List Char}
    (h : read quote distance cs = .ok (s, n)) :
    ∃ ws rest, List.Forall₂ (Spells quote) s ws ∧ cs = ws.flatten ++ quote :: rest ∧
      n = distance + ws.flatten.length + 1 := by
  fun_induction read quote distance cs generalizing s n with
  | case1 => contradiction
  | case2 distance c rest hc =>
    obtain ⟨rfl, rfl⟩ := Prod.mk.inj (Except.ok.inj h)
    exact ⟨[], rest, .nil, by rw [beq_iff_eq.1 hc]; rfl, rfl⟩
  | case3 distance c rest hc hslash decoded taken hescape ih =>
    obtain ⟨body, tail, rfl, rfl, hbody⟩ := exists_spells_of_escape? quote hescape
    rw [List.drop_left] at h ih
    cases hread : read quote (distance + 1 + body.length) tail with
    | error =>
      rw [hread] at h
      contradiction
    | ok r =>
      rw [hread] at h
      obtain ⟨rfl, rfl⟩ := Prod.mk.inj (Except.ok.inj h)
      obtain ⟨ws, rest, hws, rfl, hn⟩ := ih hread
      refine ⟨('\\' :: body) :: ws, rest, .cons hbody hws, ?_, ?_⟩
      · rw [beq_iff_eq.1 hslash, List.flatten_cons]
        simp
      · rw [hn, List.flatten_cons, List.length_append, List.length_cons]
        omega
  | case4 => contradiction
  | case5 => contradiction
  | case6 distance c rest hc hslash ih =>
    cases hread : read quote (distance + 1) rest with
    | error =>
      rw [hread] at h
      contradiction
    | ok r =>
      rw [hread] at h
      obtain ⟨rfl, rfl⟩ := Prod.mk.inj (Except.ok.inj h)
      obtain ⟨ws, rest, hws, rfl, hn⟩ := ih hread
      have hself : Spells quote c [c] := .itself (by simpa using hc) (by simpa using hslash)
      refine ⟨[c] :: ws, rest, .cons hself hws, rfl, ?_⟩
      rw [hn, List.flatten_cons, List.length_append, List.length_singleton]
      omega

/-- **String literals.** Reading from the opening quote on gives a string and the place after the
closing quote just if the text spells the string from there on, each character in any of its ways,
and the closing quote comes next. Nothing else in the text matters. -/
theorem read_eq_ok_iff (hquote : quote = '"' ∨ quote = '\'') (text : List Char) (start : Nat)
    (s : List Char) (next : Nat) :
    read quote (start + 1) (text.drop (start + 1)) = .ok (s, next) ↔
      ∃ ws, List.Forall₂ (IsSpelling quote) s ws ∧
        ws.flatten ++ [quote] <+: text.drop (start + 1) ∧
        next = start + 1 + (ws.flatten ++ [quote]).length := by
  have hslash : quote ≠ '\\' := by rcases hquote with rfl | rfl <;> decide
  simp only [List.length_append, List.length_singleton]
  constructor
  · intro h
    obtain ⟨ws, rest, hws, hrest, hnext⟩ := exists_spells_of_read h
    refine ⟨ws, hws.imp fun _ _ => Spells.isSpelling, ⟨rest, ?_⟩, hnext⟩
    rw [hrest, List.append_assoc, List.singleton_append]
  · rintro ⟨ws, hws, ⟨rest, hrest⟩, rfl⟩
    rw [← hrest, List.append_assoc, List.singleton_append]
    exact read_spelled hslash (hws.imp fun _ _ => IsSpelling.spells) (start + 1) rest

/-- A letter and the other quote as themselves, an escaped quote, and a character beyond U+FFFF by
its two surrogates, with digits of either case. -/
theorem read_eq_ok_iff_pair :
    read '\'' 2 ("x'a\\'\\uD83d\\uDE00\"'y".toList.drop 2) = .ok (['a', '\'', '😀', '"'], 19) := by
  have hhigh : IsHexQuad (highSurrogate '😀') ['D', '8', '3', 'd'] := by constructor <;> decide
  have hlow : IsHexQuad (lowSurrogate '😀') ['D', 'E', '0', '0'] := by constructor <;> decide
  refine (read_eq_ok_iff (.inr rfl) "x'a\\'\\uD83d\\uDE00\"'y".toList 1 _ _).2
    ⟨[['a'], ['\\', '\''], "\\uD83d\\uDE00".toList, ['"']], ?_, by decide, rfl⟩
  exact .cons (.itself (by decide) (by decide)) (.cons (.short (by decide))
    (.cons (.code (.pair (by decide) hhigh hlow)) (.cons (.itself (by decide) (by decide)) .nil)))

end Quoted

end Text

end JsonPath

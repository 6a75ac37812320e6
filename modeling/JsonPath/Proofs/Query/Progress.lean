import JsonPath.Proofs.Query.Continuation

/-!
# Reading goes on

Reading takes calls of two kinds, for a token and for a regular expression. Whatever calls came
before, and whether or not they failed, the next one starts at a place in the text and stops at one
that is no earlier. A token has some characters, and only blanks are passed before it; so there are
no more tokens than characters.

* `isProgress_scan` — one call goes on.
* `isIn_cursorAfter`, `scans_progress` — any calls one after the other.
-/

namespace JsonPath.Query

open Text (Cursor isBlank)

variable {here c : Cursor} {s : Scan} {l : Lexeme} {text : List Char} {regex : Bool}

/-! ## One call -/

/-- A call stops where blanks and then some further characters are passed. -/
theorem exists_advance_scan (regex : Bool) (c : Cursor) :
    ∃ n, (scan regex c).cursor = (c.skipWhile isBlank).advance n := by
  cases regex with
  | true => exact (regexScan_nextRegex c).exists_advance
  | false => exact (tokenScan_nextToken c).exists_advance

theorem TokenScan.ok (h : TokenScan here s) (hl : s.outcome = .ok l) :
    l.offset = here.offset ∧ (l.token = .endOfText → here.rest = []) := by
  cases h with
  | endOfText hrest =>
    obtain rfl := Except.ok.inj hl
    exact ⟨rfl, fun _ => hrest⟩
  | mark | string =>
    obtain rfl := Except.ok.inj hl
    exact ⟨rfl, nofun⟩
  | word =>
    obtain rfl := Except.ok.inj hl
    exact ⟨rfl, fun hend => absurd hend (wordToken_ne_endOfText _)⟩
  | number _ _ ht =>
    obtain rfl := Except.ok.inj hl
    exact ⟨rfl, fun hend => absurd hend (NumberText.token_ne ht).1⟩
  | badString | badNumber | unexpected => contradiction

theorem RegexScan.ok (h : RegexScan here s) (hl : s.outcome = .ok l) :
    l.offset = here.offset ∧ l.token ≠ .endOfText := by
  cases h with
  | regex =>
    obtain rfl := Except.ok.inj hl
    exact ⟨rfl, nofun⟩
  | missing | unterminated | other => contradiction
  | fault _ he =>
    rw [he] at hl
    contradiction

/-- What is found stands after the blanks, and the end is found just where the text ends. -/
theorem scan_ok (hl : (scan regex c).outcome = .ok l) :
    l.offset = (c.skipWhile isBlank).offset ∧
      (l.token = .endOfText → (c.skipWhile isBlank).rest = []) := by
  cases regex with
  | true =>
    obtain ⟨hoffset, hne⟩ := (regexScan_nextRegex c).ok hl
    exact ⟨hoffset, fun hend => absurd hend hne⟩
  | false => exact (tokenScan_nextToken c).ok hl

theorem scan_skipWhile (regex : Bool) (c : Cursor) :
    scan regex (c.skipWhile isBlank) = scan regex c := by
  unfold scan nextRegex nextToken
  rw [Cursor.skipWhile_skipWhile]

/-! ## Progress -/

/-- Whether a call that starts at a place in a text goes on from there, and passes nothing but
blanks before what it finds. -/
structure Scan.IsProgress (text : List Char) (c : Cursor) (s : Scan) : Prop where
  le : c.offset ≤ s.cursor.offset
  le_length : s.cursor.offset ≤ text.length
  token : ∀ l, s.outcome = .ok l → l.token ≠ .endOfText →
    c.offset ≤ l.offset ∧ l.offset < s.cursor.offset ∧
      ∀ a ∈ (text.drop c.offset).take (l.offset - c.offset), isBlank a
  endOfText : ∀ l, s.outcome = .ok l → l.token = .endOfText → ∀ a ∈ text.drop c.offset, isBlank a

theorem isIn_scan (regex : Bool) (h : c.IsIn text) : (scan regex c).cursor.IsIn text := by
  obtain ⟨n, hn⟩ := exists_advance_scan regex c
  rw [hn]
  exact (h.skipWhile isBlank).advance n

/-- Every token has some characters after the blanks. -/
theorem offset_lt_scan (h : c.IsIn text) (hl : (scan regex c).outcome = .ok l)
    (hend : l.token ≠ .endOfText) :
    (c.skipWhile isBlank).offset < (scan regex c).cursor.offset := by
  rw [← scan_skipWhile] at hl
  have hshorter := length_scan_lt regex hl hend
  rw [scan_skipWhile] at hshorter
  have hhere := (h.skipWhile isBlank).length_rest
  have hafter := (isIn_scan regex h).length_rest
  omega

theorem isProgress_scan (regex : Bool) (h : c.IsIn text) : (scan regex c).IsProgress text c := by
  obtain ⟨cs, rest, hsplit, hskip, hblank, -⟩ := c.exists_skipWhile isBlank
  have hoffset : (c.skipWhile isBlank).offset = c.offset + cs.length := by rw [hskip]
  obtain ⟨n, hn⟩ := exists_advance_scan regex c
  constructor
  · rw [hn]
    exact (c.offset_le_advance _).trans (Cursor.offset_le_advance _ n)
  · exact (isIn_scan regex h).offset_le
  · intro l hl hend
    have hlt := offset_lt_scan h hl hend
    obtain ⟨hfound, -⟩ := scan_ok hl
    rw [hoffset] at hfound
    refine ⟨by omega, by omega, ?_⟩
    rw [← h.rest_eq, hsplit, hfound, Nat.add_sub_cancel_left, List.take_left]
    exact hblank
  · intro l hl hend
    have hempty := (scan_ok hl).2 hend
    rw [hskip] at hempty
    rw [← h.rest_eq, hsplit, show rest = [] from hempty, List.append_nil]
    exact hblank

/-! ## Any calls -/

/-- Where some calls lead, each of which reads a regular expression or a token. -/
def cursorAfter (text : String) (calls : List Bool) : Cursor :=
  calls.foldl (fun c regex => (scan regex c).cursor) (Cursor.start text)

theorem cursorAfter_concat (text : String) (calls : List Bool) (regex : Bool) :
    cursorAfter text (calls ++ [regex]) = (scan regex (cursorAfter text calls)).cursor := by
  rw [cursorAfter, List.foldl_append]
  rfl

theorem isIn_cursorAfter (text : String) (calls : List Bool) :
    (cursorAfter text calls).IsIn text.toList := by
  induction calls using List.reverseRecOn with
  | nil => exact Cursor.isIn_start text
  | append_singleton calls regex ih =>
    rw [cursorAfter_concat]
    exact isIn_scan regex ih

/-- Whether a call is the last one: nothing is left, or there is an error. -/
def Scan.Ends (s : Scan) : Prop :=
  match s.outcome with
  | .ok l => l.token = .endOfText
  | .error _ => True

/-- Every call that is not the last one passes a character. -/
theorem offset_lt_of_not_ends (h : c.IsIn text) (hends : ¬(scan regex c).Ends) :
    c.offset < (scan regex c).cursor.offset := by
  unfold Scan.Ends at hends
  split at hends
  · rename_i l hl
    obtain ⟨hle, hlt, -⟩ := (isProgress_scan regex h).token l hl hends
    omega
  · exact absurd trivial hends

theorem le_offset_cursorAfter (text : String) (kinds : Nat → Bool) {n : Nat}
    (h : ∀ k < n, ¬(scan (kinds k) (cursorAfter text ((List.range k).map kinds))).Ends) :
    n ≤ (cursorAfter text ((List.range n).map kinds)).offset := by
  induction n with
  | zero => exact Nat.zero_le _
  | succ n ih =>
    have hn := ih fun k hk => h k (by omega)
    have hlt := offset_lt_of_not_ends (isIn_cursorAfter text _) (h n (by omega))
    rw [List.range_succ, List.map_append, List.map_singleton, cursorAfter_concat]
    omega

/-- **Progress.** Whatever calls were made on a text, the place they lead to is in the text, and the
next call goes on from there, past blanks only. So however calls of the two kinds alternate, one of
them ends before there are more than the characters of the text and one. -/
theorem scans_progress (text : String) :
    (∀ calls regex, (cursorAfter text calls).IsIn text.toList ∧
      (scan regex (cursorAfter text calls)).IsProgress text.toList (cursorAfter text calls)) ∧
    ∀ kinds : Nat → Bool, ∃ n ≤ text.length,
      (scan (kinds n) (cursorAfter text ((List.range n).map kinds))).Ends := by
  refine ⟨fun calls regex => ?_, fun kinds => ?_⟩
  · have hin := isIn_cursorAfter text calls
    exact ⟨hin, isProgress_scan regex hin⟩
  · by_contra hnone
    push Not at hnone
    have hmany : text.length + 1 ≤ (cursorAfter text ((List.range _).map kinds)).offset :=
      le_offset_cursorAfter text kinds fun k hk => hnone k (by omega)
    have hle := (isIn_cursorAfter text ((List.range (text.length + 1)).map kinds)).offset_le
    rw [String.length_toList] at hle
    omega

end JsonPath.Query

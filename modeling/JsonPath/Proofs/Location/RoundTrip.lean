import Mathlib
import JsonPath.Location.Text
import JsonPath.Proofs.Evaluation.Outcome
import JsonPath.Proofs.Text.Spelling

/-!
# Written paths read back

A path can be written if it has names and positions only, and each position fits 64 bits. Such a
path is written in one way, step by step, and reading takes the steps off again one by one. Reading
takes other spellings of a path too, but whatever it gives can be written.

* `Path.IsWritable` — the paths that have a written form.
* `Path.eq_of_text_eq` — no two paths are written alike, whether they can be read or not.
* `readStep_chars` — a written step is read as that step, whatever comes after it.
* `parse_text`, `isWritable_of_parse` — writable paths read back, and only they are read.
-/

namespace JsonPath

open Text (Cursor)

/-- Whether a step has a written form: a name, or a position that fits. -/
def Step.IsWritable : Step → Prop
  | root => False
  | index i => i < Path.indexBound
  | name _ => True

/-- Whether every step of a path has a written form. -/
def Path.IsWritable (p : Path) : Prop := ∀ s ∈ p.steps, s.IsWritable

instance (s : Step) : Decidable s.IsWritable :=
  match s with
  | .root => inferInstanceAs (Decidable False)
  | .index i => inferInstanceAs (Decidable (i < Path.indexBound))
  | .name _ => inferInstanceAs (Decidable True)

instance (p : Path) : Decidable p.IsWritable := inferInstanceAs (Decidable (∀ _ ∈ _, _))

theorem Step.IsWritable.isPlain {s : Step} (h : s.IsWritable) : s.IsPlain := by
  cases s with
  | root => exact h
  | index | name => trivial

theorem Path.IsWritable.isPlain {p : Path} (h : p.IsWritable) : p.IsPlain :=
  fun s hs => (h s hs).isPlain

/-! ## Writing -/

/-- Every character of a name is written so that it can be read. -/
theorem spells_escapeNameChar (c : Char) : Text.Quoted.Spells '\'' c (escapeNameChar c) := by
  unfold escapeNameChar
  split
  all_goals first | exact .short rfl | skip
  rename_i hquote hslash _ _ _ _ _
  split
  · rename_i hc
    exact .control hc
  · exact .itself hquote hslash

/-- What is written between the quotes of a name is read as the name. -/
theorem read_name (name : String) (rest : List Char) :
    Text.Quoted.read '\'' 1 (name.toList.flatMap escapeNameChar ++ '\'' :: rest) =
      .ok (name.toList, 1 + (name.toList.flatMap escapeNameChar).length + 1) :=
  Text.Quoted.read_written (by decide) spells_escapeNameChar name.toList 1 rest

theorem Step.chars_ne_nil (s : Step) : s.chars ≠ [] := by
  cases s <;> exact List.cons_ne_nil _ _

/-! ### In one way -/

/-- The digits before a bracket tell the position, however large it is. -/
theorem Step.chars_index_inj {i j : Nat} {rest rest' : List Char}
    (h : (index i).chars ++ rest = (index j).chars ++ rest') : i = j := by
  have hrest : Nat.toDigits 10 i ++ ']' :: rest = Nat.toDigits 10 j ++ ']' :: rest' := by
    simpa [chars] using h
  have heq := congrArg (List.takeWhile Char.isDigit) hrest
  rw [Text.takeWhile_toDigits (by decide), Text.takeWhile_toDigits (by decide)] at heq
  rw [← Number.ofDigits_toDigits i, heq, Number.ofDigits_toDigits]

/-- The characters up to the closing quote tell the name, because they are read as that name. -/
theorem Step.chars_name_inj {m n : String} {rest rest' : List Char}
    (h : (name m).chars ++ rest = (name n).chars ++ rest') : m = n := by
  have hrest : m.toList.flatMap escapeNameChar ++ '\'' :: ']' :: rest =
      n.toList.flatMap escapeNameChar ++ '\'' :: ']' :: rest' := by
    simpa [chars] using h
  have heq := congrArg (Text.Quoted.read '\'' 1) hrest
  rw [read_name, read_name] at heq
  exact String.toList_injective (Prod.mk.inj (Except.ok.inj heq)).1

/-- The first character inside the brackets tells positions from names. -/
theorem Step.chars_index_ne_name (i : Nat) (n : String) (rest rest' : List Char) :
    (index i).chars ++ rest ≠ (name n).chars ++ rest' := by
  obtain ⟨d, ds, hds, hd⟩ := Number.exists_toDigits_eq_cons i
  intro h
  rw [chars, hds] at h
  obtain ⟨rfl, -⟩ := List.cons.inj (List.cons.inj h).2
  exact absurd hd (by decide)

/-- A text tells the first step that is written in it, and what comes after that step. -/
theorem Step.chars_append_inj {s t : Step} (hs : s.IsPlain) (ht : t.IsPlain)
    {rest rest' : List Char} (h : s.chars ++ rest = t.chars ++ rest') : s = t ∧ rest = rest' := by
  have hst : s = t := by
    cases s with
    | root => exact absurd hs id
    | index i =>
      cases t with
      | root => exact absurd ht id
      | index j => rw [chars_index_inj h]
      | name n => exact absurd h (chars_index_ne_name i n rest rest')
    | name m =>
      cases t with
      | root => exact absurd ht id
      | index j => exact absurd h.symm (chars_index_ne_name j m rest' rest)
      | name n => rw [chars_name_inj h]
  subst hst
  exact ⟨rfl, List.append_cancel_left h⟩

theorem Step.flatMap_chars_inj {ss ts : List Step} (hss : ∀ s ∈ ss, s.IsPlain)
    (hts : ∀ t ∈ ts, t.IsPlain) (h : ss.flatMap Step.chars = ts.flatMap Step.chars) : ss = ts := by
  induction ss generalizing ts with
  | nil =>
    cases ts with
    | nil => rfl
    | cons t ts => simp [t.chars_ne_nil] at h
  | cons s ss ih =>
    cases ts with
    | nil => simp [s.chars_ne_nil] at h
    | cons t ts =>
      obtain ⟨hs, hss⟩ := List.forall_mem_cons.1 hss
      obtain ⟨ht, hts⟩ := List.forall_mem_cons.1 hts
      rw [List.flatMap_cons, List.flatMap_cons] at h
      obtain ⟨hst, hrest⟩ := chars_append_inj hs ht h
      rw [hst, ih hss hts hrest]

namespace Path

variable {s : Step} {p q : Path}

/-- No two paths are written alike, not even those with positions that are too large to read. -/
theorem eq_of_text_eq (hp : p.IsPlain) (hq : q.IsPlain) (h : p.text = q.text) : p = q := by
  have hchars : p.steps.flatMap Step.chars = q.steps.flatMap Step.chars := by
    simpa [chars, elements, Step.chars] using String.ofList_injective h
  exact congrArg mk (Step.flatMap_chars_inj hp hq hchars)

/-! ## Reading what was written -/

theorem readBracketed_index {i : Nat} (hi : i < indexBound) (rest : List Char) (offset : Nat) :
    readBracketed ⟨Nat.toDigits 10 i ++ ']' :: rest, offset⟩ =
      .ok (.index i, ⟨']' :: rest, offset + (Nat.toDigits 10 i).length⟩) := by
  have hdigits := Text.takeWhile_toDigits (c := ']') (by decide) i rest
  obtain ⟨d, ds, hds, hd⟩ := Number.exists_toDigits_eq_cons i
  have hquote : (d == '\'' || d == '"') = false := by
    rw [Bool.eq_false_iff]
    intro h
    rcases Bool.or_eq_true_iff.1 h with h | h <;> simp [beq_iff_eq.1 h] at hd
  have hadvance := Cursor.advance_append (Nat.toDigits 10 i) (']' :: rest) offset
  unfold readBracketed
  rw [hds] at hdigits hadvance ⊢
  simp only [List.cons_append] at hdigits hadvance ⊢
  simp only [hquote, hd, hdigits, ← hds, Number.ofDigits_toDigits, hi, if_true, Bool.false_eq_true,
    if_false]
  rw [hds, hadvance]

theorem readBracketed_name (name : String) (rest : List Char) (offset : Nat) :
    readBracketed ⟨'\'' :: name.toList.flatMap escapeNameChar ++ '\'' :: ']' :: rest, offset⟩ =
      .ok (.name name, ⟨']' :: rest, offset + (name.toList.flatMap escapeNameChar).length + 2⟩) := by
  have hread := read_name name (']' :: rest)
  have hadvance := Cursor.advance_append ('\'' :: name.toList.flatMap escapeNameChar ++ ['\''])
    (']' :: rest) offset
  simp only [List.cons_append, List.append_assoc, List.nil_append, List.length_cons,
    List.length_append, List.length_nil] at hadvance
  simp only [readBracketed, List.cons_append, beq_self_eq_true, Bool.true_or, if_true, hread,
    String.ofList_toList]
  rw [show 1 + (name.toList.flatMap escapeNameChar).length + 1 =
    (name.toList.flatMap escapeNameChar).length + (0 + 1) + 1 by omega, hadvance]
  rfl

/-- What is read between brackets is a step if neither bracket is missing. -/
theorem readStep_bracket {c : Char} {cs rest : List Char} {offset close : Nat}
    (hc : Text.isBlank c = false)
    (h : readBracketed ⟨c :: cs, offset + 1⟩ = .ok (s, ⟨']' :: rest, close⟩)) :
    readStep ⟨'[' :: c :: cs, offset⟩ = .ok (s, ⟨rest, close + 1⟩) := by
  have hopen := Cursor.skipWhile_of_head hc cs (offset + 1)
  have hclose := Cursor.skipWhile_of_head (p := Text.isBlank) (c := ']') (by decide) rest close
  simp only [readStep, Cursor.advance_cons_one, hopen, h]
  simp only [bind, Except.bind, hclose, closeBracket, Cursor.advance_cons_one, pure, Except.pure]

/-- A written step is read as that step, whatever comes after it. -/
theorem readStep_chars (hs : s.IsWritable) (rest : List Char) (offset : Nat) :
    readStep ⟨s.chars ++ rest, offset⟩ = .ok (s, ⟨rest, offset + s.chars.length⟩) := by
  cases s with
  | root => exact absurd hs id
  | index i =>
    obtain ⟨d, ds, hds, hd⟩ := Number.exists_toDigits_eq_cons i
    have hread := readBracketed_index hs rest (offset + 1)
    rw [hds, List.cons_append] at hread
    simpa [Step.chars, hds, Nat.add_assoc, Nat.add_comm, Nat.add_left_comm] using
      readStep_bracket (Text.isBlank_of_isDigit hd) hread
  | name name =>
    simpa [Step.chars, Nat.add_assoc, Nat.add_comm, Nat.add_left_comm] using
      readStep_bracket (by decide) (readBracketed_name name rest (offset + 1))

/-! ### All steps -/

theorem readSteps_chars {steps : List Step} (hs : ∀ s ∈ steps, s.IsWritable) {fuel : Nat}
    (hfuel : steps.length ≤ fuel) (offset : Nat) :
    readSteps fuel ⟨steps.flatMap Step.chars, offset⟩ = .ok steps := by
  induction steps generalizing fuel offset with
  | nil => cases fuel <;> simp [readSteps]
  | cons s steps ih =>
    obtain ⟨hs, hrest⟩ := List.forall_mem_cons.1 hs
    cases fuel with
    | zero => simp at hfuel
    | succ fuel =>
      have hne : (s.chars ++ steps.flatMap Step.chars).isEmpty = false := by
        simp [s.chars_ne_nil]
      rw [List.flatMap_cons, readSteps, hne, readStep_chars hs]
      simp [bind, Except.bind, ih hrest (Nat.le_of_succ_le_succ hfuel), pure, Except.pure]

theorem length_le_length_chars (steps : List Step) :
    steps.length ≤ (steps.flatMap Step.chars).length := by
  induction steps with
  | nil => simp
  | cons s steps ih =>
    have := List.length_pos_iff.2 s.chars_ne_nil
    rw [List.flatMap_cons, List.length_append, List.length_cons]
    omega

/-- A path that can be written is read as it was written. -/
theorem parse_text (hp : p.IsWritable) : parse p.text = .ok p := by
  have hstart : Cursor.start p.text = ⟨'$' :: p.steps.flatMap Step.chars, 0⟩ := by
    simp [Cursor.start, text, chars, elements, Step.chars]
  have hfuel : p.steps.length ≤ ('$' :: p.steps.flatMap Step.chars).length :=
    Nat.le_succ_of_le (length_le_length_chars p.steps)
  simp only [parse, hstart, Cursor.advance_cons_one, readSteps_chars hp hfuel]
  rfl

/-! ## What can be read -/

theorem isWritable_of_readBracketed {c c' : Cursor} (h : readBracketed c = .ok (s, c')) :
    s.IsWritable := by
  unfold readBracketed at h
  split at h
  · split at h
    · split at h
      · obtain ⟨rfl, -⟩ := Prod.mk.inj (Except.ok.inj h)
        trivial
      · contradiction
      · contradiction
    · split at h
      · dsimp only at h
        split at h
        · rename_i hfits
          obtain ⟨rfl, -⟩ := Prod.mk.inj (Except.ok.inj h)
          exact hfits
        · contradiction
      · contradiction
  · contradiction

theorem isWritable_of_readStep {c c' : Cursor} (h : readStep c = .ok (s, c')) : s.IsWritable := by
  unfold readStep at h
  split at h
  · dsimp only at h
    split at h
    · obtain ⟨rfl, -⟩ := Prod.mk.inj (Except.ok.inj h)
      trivial
    · contradiction
  · obtain ⟨⟨step, afterStep⟩, hstep, h⟩ := Query.bind_eq_ok.1 h
    obtain ⟨afterBracket, -, h⟩ := Query.bind_eq_ok.1 h
    obtain ⟨rfl, -⟩ := Prod.mk.inj (Except.ok.inj h)
    exact isWritable_of_readBracketed hstep
  · contradiction

theorem isWritable_of_readSteps {fuel : Nat} {c : Cursor} {steps : List Step}
    (h : readSteps fuel c = .ok steps) : ∀ s ∈ steps, s.IsWritable := by
  induction fuel generalizing c steps with
  | zero =>
    obtain rfl : [] = steps := by simpa [readSteps] using h
    simp
  | succ fuel ih =>
    unfold readSteps at h
    split at h
    · obtain rfl : [] = steps := by simpa using h
      simp
    · obtain ⟨⟨step, afterStep⟩, hstep, h⟩ := Query.bind_eq_ok.1 h
      obtain ⟨others, hothers, h⟩ := Query.bind_eq_ok.1 h
      obtain rfl := Except.ok.inj h
      exact List.forall_mem_cons.2 ⟨isWritable_of_readStep hstep, ih hothers⟩

/-- Whatever spelling a path was read from, it can be written. -/
theorem isWritable_of_parse {text : String} (h : parse text = .ok p) : p.IsWritable := by
  unfold parse at h
  dsimp only at h
  split at h
  · cases hsteps : readSteps (Cursor.start text).rest.length ((Cursor.start text).advance 1) with
    | error e =>
      rw [hsteps] at h
      contradiction
    | ok steps =>
      rw [hsteps] at h
      obtain rfl := Except.ok.inj h
      exact isWritable_of_readSteps hsteps
  · contradiction

/-- **Paths survive being written and read.** A path of names and positions that fit is read from
its text as itself, so no two of them have one text; and a path that was read from any text at all
is read again from the text it is written as. -/
theorem parse_text_roundTrip :
    (∀ p : Path, p.IsWritable → parse p.text = .ok p) ∧
      (∀ p q : Path, p.IsWritable → q.IsWritable → p.text = q.text → p = q) ∧
      ∀ (t : String) (p : Path), parse t = .ok p → parse p.text = .ok p :=
  ⟨fun _ => parse_text, fun _ _ hp hq => eq_of_text_eq hp.isPlain hq.isPlain,
    fun _ _ h => parse_text (isWritable_of_parse h)⟩

/-- A name with a quote, a backslash and a control character reads back beside the last position
that fits; a position and a name of the same digit are written differently; and a path that was
spelled with a dot, double quotes and blanks is read again from its one written form. -/
theorem parse_text_roundTrip_escapes :
    parse (text ⟨[.name "it's\\\x01", .index 18446744073709551615]⟩) =
        .ok ⟨[.name "it's\\\x01", .index 18446744073709551615]⟩ ∧
      text ⟨[.index 1]⟩ ≠ text ⟨[.name "1"]⟩ ∧
      parse "$.a[ \"b\" ]" = .ok ⟨[.name "a", .name "b"]⟩ ∧
      parse (text ⟨[.name "a", .name "b"]⟩) = .ok ⟨[.name "a", .name "b"]⟩ := by
  have hspelled : parse "$.a[ \"b\" ]" = .ok ⟨[.name "a", .name "b"]⟩ := by cbv
  refine ⟨parse_text_roundTrip.1 _ (by decide), fun h => ?_, hspelled,
    parse_text_roundTrip.2.2 _ _ hspelled⟩
  have heq := parse_text_roundTrip.2.1 _ _ (by decide) (by decide) h
  contradiction

end Path

end JsonPath

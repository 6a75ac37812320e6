import JsonPath.Location.Text
import JsonPath.Proofs.Evaluation.Outcome
import JsonPath.Proofs.Query.Spelling

/-!
# The texts of paths

Reading takes other texts of a path than the one it is written as: names may stand after dots or
between quotes of either kind, positions may have zeros in front, and blanks may stand inside the
brackets. These are all texts that are read as paths, and they consist of tokens of expressions.

* `Step.SpelledAs` — how one step may be written, before a text that does not go on with it.
* `Path.Spelled`, `spelled_of_parse` — what is read as a path is spelled, step by step.
* `StepTokens`, `Path.Spelled.exists_tokens` — the tokens that a text of a path consists of.
-/

namespace JsonPath

open Text (Cursor)
open Query (IsWord Token Spells Selector Chain wordToken isWord_of_takeWhile)

/-- Some characters are a step of a path, and what comes after them cannot belong to it. -/
inductive Step.SpelledAs : Step → List Char → (rest : List Char) → Prop where
  | dotted {name : String} {rest : List Char} (hname : IsWord name)
    (hend : ∀ c ∈ rest.head?, Text.isIdentifierChar c = false) :
    SpelledAs (.name name) ('.' :: name.toList) rest
  | quoted {quote : Char} {name : String} {spellings : List (List Char)}
    {before after rest : List Char} (hquote : quote = '"' ∨ quote = '\'')
    (h : List.Forall₂ (Text.Quoted.Spells quote) name.toList spellings)
    (hbefore : ∀ c ∈ before, Text.isBlank c) (hafter : ∀ c ∈ after, Text.isBlank c) :
    SpelledAs (.name name)
      ('[' :: (before ++ (quote :: spellings.flatten ++ [quote] ++ (after ++ [']'])))) rest
  | index {digits before after rest : List Char} (hne : digits ≠ [])
    (hdigits : ∀ c ∈ digits, c.isDigit) (hbefore : ∀ c ∈ before, Text.isBlank c)
    (hafter : ∀ c ∈ after, Text.isBlank c) :
    SpelledAs (.index (Number.ofDigits digits))
      ('[' :: (before ++ (digits ++ (after ++ [']'])))) rest

/-- A text consists of the steps of a path. -/
inductive Path.Spelled : List Step → List Char → Prop where
  | nil : Spelled [] []
  | cons {s : Step} {steps : List Step} {cs rest : List Char} (hs : s.SpelledAs cs rest)
    (h : Spelled steps rest) : Spelled (s :: steps) (cs ++ rest)

variable {s : Step} {steps : List Step} {c c' : Cursor} {cs rest : List Char}

theorem Step.SpelledAs.length_pos (h : s.SpelledAs cs rest) : 0 < cs.length := by
  cases h <;> simp

/-! ## What is read -/

namespace Path

/-- What is read inside brackets, with the blanks around it and the brackets, is a step. -/
theorem spelled_of_readBracketed {before after : List Char} (h : readBracketed c = .ok (s, c'))
    (hbefore : ∀ a ∈ before, Text.isBlank a) (hafter : ∀ a ∈ after, Text.isBlank a)
    (hrest : c'.rest = after ++ ']' :: rest) :
    ∃ cs, s.SpelledAs cs rest ∧ '[' :: (before ++ c.rest) = cs ++ rest := by
  unfold readBracketed at h
  split at h
  · rename_i first tail hc
    split at h
    · rename_i hquote
      have hquote : first = '"' ∨ first = '\'' := by simpa [or_comm] using hquote
      split at h
      · rename_i name n hread
        obtain ⟨rfl, rfl⟩ := Prod.mk.inj (Except.ok.inj h)
        obtain ⟨ws, rest', hws, rfl, rfl⟩ := Text.Quoted.exists_spells_of_read hread
        have hsplit : c.rest = (first :: ws.flatten ++ [first]) ++ rest' := by simp [hc]
        have hlength : 1 + ws.flatten.length + 1 = (first :: ws.flatten ++ [first]).length := by
          simp
          omega
        rw [hlength, Cursor.rest_advance_of_append hsplit] at hrest
        subst hrest
        have hname : List.Forall₂ (Text.Quoted.Spells first) (String.ofList name).toList ws := by
          rwa [String.toList_ofList]
        exact ⟨_, .quoted hquote hname hbefore hafter, by simp [hsplit]⟩
      · contradiction
      · contradiction
    · split at h
      · rename_i hdigit
        dsimp only at h
        split at h
        · obtain ⟨rfl, rfl⟩ := Prod.mk.inj (Except.ok.inj h)
          have hsplit := (List.takeWhile_append_dropWhile (p := Char.isDigit) (l := c.rest)).symm
          rw [Cursor.rest_advance_of_append hsplit] at hrest
          have hne : c.rest.takeWhile Char.isDigit ≠ [] := by simp [hc, hdigit]
          refine ⟨_, .index hne (fun _ => List.mem_takeWhile_imp) hbefore hafter, ?_⟩
          conv_lhs => rw [hsplit, hrest]
          simp
        · contradiction
      · contradiction
  · contradiction

theorem rest_of_closeBracket (h : closeBracket c = .ok c') : c.rest = ']' :: c'.rest := by
  unfold closeBracket at h
  split at h
  · rename_i rest hrest
    obtain rfl := Except.ok.inj h
    rw [Cursor.rest_advance_one_of_cons hrest, hrest]
  · contradiction
  · contradiction

theorem spelled_of_readStep (h : readStep c = .ok (s, c')) :
    ∃ cs, s.SpelledAs cs c'.rest ∧ c.rest = cs ++ c'.rest := by
  unfold readStep at h
  split at h
  · rename_i rest hrest
    dsimp only at h
    split at h
    · rename_i hstart
      obtain ⟨rfl, rfl⟩ := Prod.mk.inj (Except.ok.inj h)
      obtain ⟨first, tail, rfl⟩ : ∃ first tail, rest = first :: tail := by
        cases rest with
        | nil => contradiction
        | cons first tail => exact ⟨first, tail, rfl⟩
      have hsplit := (List.takeWhile_append_dropWhile (p := Text.isIdentifierChar)
        (l := first :: tail)).symm
      have hafter := Cursor.rest_advance_of_append
        ((Cursor.rest_advance_one_of_cons hrest).trans hsplit)
      rw [hafter]
      refine ⟨_, .dotted (isWord_of_takeWhile (by simpa using hstart)) fun a ha => ?_, ?_⟩
      · have hend := List.head?_dropWhile_not Text.isIdentifierChar (first :: tail)
        rwa [Option.mem_def.1 ha] at hend
      · rw [hrest, String.toList_ofList, List.cons_append, ← hsplit]
    · contradiction
  · rename_i rest hrest
    obtain ⟨⟨step, afterStep⟩, hstep, h⟩ := Query.bind_eq_ok.1 h
    obtain ⟨afterBracket, hclose, h⟩ := Query.bind_eq_ok.1 h
    obtain ⟨rfl, rfl⟩ := Prod.mk.inj (Except.ok.inj h)
    obtain ⟨before, inside, hopen, hskip, hbefore, -⟩ :=
      Cursor.exists_skipWhile (c.advance 1) Text.isBlank
    obtain ⟨after, rest', hend, hskip', hafter, -⟩ :=
      Cursor.exists_skipWhile afterStep Text.isBlank
    rw [hskip] at hstep
    rw [hskip'] at hclose
    rw [show rest' = _ from rest_of_closeBracket hclose] at hend
    have hspelled := spelled_of_readBracketed hstep hbefore hafter hend
    rwa [← hopen, Cursor.rest_advance_one_of_cons hrest, ← hrest] at hspelled
  · contradiction

theorem spelled_of_readSteps {fuel : Nat} (h : readSteps fuel c = .ok steps)
    (hfuel : c.rest.length ≤ fuel) : Spelled steps c.rest := by
  induction fuel generalizing c steps with
  | zero =>
    obtain rfl : [] = steps := by simpa [readSteps] using h
    rw [List.eq_nil_of_length_eq_zero (Nat.le_zero.1 hfuel)]
    exact .nil
  | succ fuel ih =>
    unfold readSteps at h
    split at h
    · rename_i hempty
      obtain rfl : [] = steps := by simpa using h
      rw [List.isEmpty_iff.1 hempty]
      exact .nil
    · obtain ⟨⟨step, afterStep⟩, hstep, h⟩ := Query.bind_eq_ok.1 h
      obtain ⟨others, hothers, h⟩ := Query.bind_eq_ok.1 h
      obtain rfl := Except.ok.inj h
      obtain ⟨cs, hcs, hsplit⟩ := spelled_of_readStep hstep
      have hshorter := hcs.length_pos
      rw [hsplit, List.length_append] at hfuel
      rw [hsplit]
      exact .cons hcs (ih hothers (by omega))

/-- **What paths are read from.** A text that is read as a path is `$` and its steps, each in one of
the ways it may be written. -/
theorem spelled_of_parse {text : String} {p : Path} (h : parse text = .ok p) :
    ∃ cs, text.toList = '$' :: cs ∧ Spelled p.steps cs := by
  unfold parse at h
  dsimp only at h
  split at h
  · rename_i rest hrest
    cases hsteps : readSteps (Cursor.start text).rest.length ((Cursor.start text).advance 1) with
    | error e =>
      rw [hsteps] at h
      contradiction
    | ok steps =>
      rw [hsteps] at h
      obtain rfl := Except.ok.inj h
      have hadvance := Cursor.rest_advance_one_of_cons hrest
      have hspelled := spelled_of_readSteps hsteps (by rw [hadvance, hrest]; simp)
      rw [hadvance] at hspelled
      exact ⟨rest, hrest, hspelled⟩
  · contradiction

end Path

/-! ## Tokens -/

/-- The tokens of a segment that is a step of a path. -/
inductive StepTokens : Selector → List Token → Prop where
  | dotted (name : String) : StepTokens (.name name) [.mark .dot, wordToken name]
  | quoted (name : String) :
    StepTokens (.name name) [.mark .openBracket, .string name, .mark .closeBracket]
  | index {n : Int64} (hn : 0 ≤ n.toInt) :
    StepTokens (.index n) [.mark .openBracket, .integer n, .mark .closeBracket]

/-- The tokens of the segments of a path. -/
inductive PathTokens : Chain → List Token → Prop where
  | nil : PathTokens [] []
  | cons {sel : Selector} {chain : Chain} {ts us : List Token} (hs : StepTokens sel ts)
    (h : PathTokens chain us) : PathTokens (sel :: chain) (ts ++ us)

/-- Whether a step is no position that a 64-bit integer cannot hold. -/
def Step.InRange : Step → Prop
  | .index i => i ≤ Int64.maxValue.toInt
  | _ => True

/-- A token in brackets is three tokens, with or without blanks around it. -/
theorem spells_bracketed {t : Token} {us : List Token} {body before after : List Char}
    (hbefore : ∀ a ∈ before, Text.isBlank a) (hafter : ∀ a ∈ after, Text.isBlank a)
    (ht : t.SpelledAs body (after ++ ']' :: rest)) (hus : Spells us rest) :
    Spells (.mark .openBracket :: t :: .mark .closeBracket :: us)
      ('[' :: (before ++ (body ++ (after ++ ']' :: rest)))) := by
  have hclose : Spells (.mark .closeBracket :: us) (after ++ ']' :: rest) :=
    .cons hafter (.mark (m := .closeBracket) (by simp) trivial) hus
  have hinner : Spells (t :: .mark .closeBracket :: us)
      (before ++ (body ++ (after ++ ']' :: rest))) := .cons hbefore ht hclose
  exact .cons (List.forall_mem_nil _) (.mark (m := .openBracket) (by simp) trivial) hinner

/-- Neither a blank nor a bracket goes on with a number. -/
theorem not_number_of_head {after : List Char} (hafter : ∀ a ∈ after, Text.isBlank a) :
    ∀ a ∈ (after ++ ']' :: rest).head?, a.isDigit = false ∧ a ∉ ['.', 'e', 'E'] := by
  intro a ha
  cases after with
  | nil =>
    obtain rfl : ']' = a := by simpa using ha
    decide
  | cons b after =>
    obtain rfl : b = a := by simpa using ha
    have hblank := hafter b List.mem_cons_self
    refine ⟨?_, ?_⟩
    · by_contra hdigit
      rw [Text.isBlank_of_isDigit (by simpa using hdigit)] at hblank
      contradiction
    · intro hmem
      have hnone : ['.', 'e', 'E'].any Text.isBlank = false := by decide
      exact List.any_eq_false.1 hnone b hmem hblank

/-- A step is one segment. -/
theorem Step.SpelledAs.exists_tokens (h : s.SpelledAs cs rest) (hs : s.InRange) :
    ∃ sel ts, sel.step? = some s ∧ StepTokens sel ts ∧
      ∀ us, Spells us rest → Spells (ts ++ us) (cs ++ rest) := by
  cases h with
  | @dotted name rest hname hend =>
    refine ⟨.name name, _, rfl, .dotted name, fun us hus => ?_⟩
    have hword : Spells (wordToken name :: us) (name.toList ++ rest) :=
      .cons (List.forall_mem_nil _) (.word hname hend) hus
    exact .cons (List.forall_mem_nil _) (.mark (m := .dot) (by simp) (hname.head_ne_dot rest)) hword
  | @quoted quote name spellings before after rest hquote h hbefore hafter =>
    refine ⟨.name name, _, rfl, .quoted name, fun us hus => ?_⟩
    simpa using spells_bracketed hbefore hafter (.string hquote h) hus
  | @index digits before after rest hne hdigits hbefore hafter =>
    have hmin : Int64.minValue.toInt ≤ (Number.ofDigits digits : Int) :=
      le_trans (by decide) (Int.natCast_nonneg _)
    have hvalue : Number.ofNat? (Number.ofDigits digits) = some _ := if_pos ⟨hmin, hs⟩
    have hint := Number.toInt_of_ofInt? hvalue
    refine ⟨.index _, _, ?_, .index (n := .ofInt (Number.ofDigits digits)) ?_, fun us hus => ?_⟩
    · rw [Selector.step?, hint, if_pos (Int.natCast_nonneg _), Int.toNat_natCast]
    · rw [hint]
      exact Int.natCast_nonneg _
    · simpa using spells_bracketed hbefore hafter
        (.integer hne hdigits hvalue (not_number_of_head hafter)) hus

namespace Path

/-- **What paths consist of.** The text of a path consists of the tokens of its steps, each of which
is a segment. -/
theorem Spelled.exists_tokens (h : Spelled steps cs) (hfits : ∀ s ∈ steps, s.InRange) :
    ∃ chain ts, chain.map Selector.step? = steps.map some ∧ PathTokens chain ts ∧ Spells ts cs := by
  induction h with
  | nil => exact ⟨[], [], rfl, .nil, .nil (List.forall_mem_nil _)⟩
  | cons hs _ ih =>
    obtain ⟨hfit, hfits⟩ := List.forall_mem_cons.1 hfits
    obtain ⟨chain, us, hchain, hus, hspells⟩ := ih hfits
    obtain ⟨sel, ts, hsel, hts, hjoin⟩ := hs.exists_tokens hfit
    exact ⟨sel :: chain, ts ++ us, by simp [hsel, hchain], .cons hts hus, hjoin us hspells⟩

end Path

end JsonPath

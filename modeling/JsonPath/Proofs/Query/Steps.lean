import JsonPath.Proofs.Evaluation.Outcome
import JsonPath.Proofs.Query.Words
import JsonPath.Query.Parse

/-!
# What a reader takes

A reader looks at tokens one after another, and for what it gives only the tokens matter, not where
they stand in the text. `Takes x ts us a` says that from the tokens `ts` the reader `x` gives `a`
and leaves `us`. There is one rule for each way in which readers are put together; to follow a
reader along a list of tokens is to apply them in turn.

* `Takes.bind`, `takes_current`, `takes_advance` — the rules for sequences and single tokens.
* `Fails` — a reader that reports a fault, wherever the tokens stand.
* `TakesMany` — a reader that is repeated, and `takes_separated` for items with commas.
-/

namespace JsonPath.Query

namespace Lexemes

variable {ts : List Token} {L : Lexemes}

theorem length_of_tokens? (h : L.tokens? = some ts) : L.length = ts.length := by
  induction L generalizing ts with
  | more l rest ih =>
    obtain ⟨us, hus, rfl⟩ := Option.map_eq_some_iff.1 h
    rw [length, ih hus, List.length_cons]
  | done => simp [← Option.some.inj h, length]
  | fault => contradiction

theorem check_of_tokens? (h : L.tokens? = some ts) : L.check = .ok L := by
  cases L with
  | fault => contradiction
  | _ => rfl

theorem token_of_tokens? (h : L.tokens? = some ts) : L.token = ts.head?.getD .endOfText := by
  cases L with
  | more l rest =>
    obtain ⟨us, hus, rfl⟩ := Option.map_eq_some_iff.1 h
    rfl
  | done => simp [← Option.some.inj h, token]
  | fault => contradiction

end Lexemes

namespace Parse

variable {α β : Type} {x : Parse α} {f : α → Parse β} {ts us vs : List Token} {a : α} {b : β}

theorem bind_apply (x : Parse α) (f : α → Parse β) (L : Lexemes) :
    (x >>= f) L = x L >>= fun r => f r.1 r.2 := rfl

theorem bind_apply_eq_ok {L L' : Lexemes} :
    (x >>= f) L = .ok (b, L') ↔ ∃ a M, x L = .ok (a, M) ∧ f a M = .ok (b, L') := by
  rw [bind_apply, bind_eq_ok, Prod.exists]

theorem current_bind_apply (f : Token → Parse β) (L : Lexemes) :
    (current >>= f) L = f L.token L := rfl

theorem unexpected_ne_ok (expected : String) (L : Lexemes) (r : α × Lexemes) :
    unexpected expected L ≠ .ok r := by
  unfold unexpected
  split <;> simp

/-- The first of some tokens; after the last there is the end of the text. -/
def front (ts : List Token) : Token := ts.head?.getD .endOfText

@[simp] theorem front_nil : front [] = .endOfText := rfl

@[simp] theorem front_cons (t : Token) (ts : List Token) : front (t :: ts) = t := rfl

/-- Whether a reader gives a result from some tokens and leaves others. -/
def Takes (x : Parse α) (ts us : List Token) (a : α) : Prop :=
  ∀ L : Lexemes, L.tokens? = some ts → ∃ L', L'.tokens? = some us ∧ x L = .ok (a, L')

/-! ## Sequences -/

theorem takes_pure : Takes (pure a) ts ts a := fun L h => ⟨L, h, rfl⟩

theorem Takes.bind (hx : Takes x ts us a) (hf : Takes (f a) us vs b) : Takes (x >>= f) ts vs b := by
  intro L h
  obtain ⟨M, hM, hread⟩ := hx L h
  obtain ⟨N, hN, hnext⟩ := hf M hM
  exact ⟨N, hN, bind_apply_eq_ok.2 ⟨a, M, hread, hnext⟩⟩

theorem Takes.map (hx : Takes x ts us a) (g : α → β) : Takes (g <$> x) ts us (g a) := by
  rw [map_eq_pure_bind]
  exact hx.bind takes_pure

theorem takes_current : Takes current ts ts (front ts) := fun L h =>
  ⟨L, h, congrArg (fun t => Except.ok (t, L)) (Lexemes.token_of_tokens? h)⟩

/-- What is done with an offset must be right for any offset. -/
theorem takes_offset_bind {f : Nat → Parse β} (hf : ∀ o, Takes (f o) ts us b) :
    Takes (offset >>= f) ts us b := fun L h => hf L.offset L h

theorem takes_advance (t : Token) (ts : List Token) : Takes advance (t :: ts) ts () := by
  intro L h
  cases L with
  | more l rest =>
    obtain ⟨us, hus, heq⟩ := Option.map_eq_some_iff.1 h
    obtain ⟨-, rfl⟩ := List.cons.inj heq
    refine ⟨rest, hus, ?_⟩
    rw [advance, Lexemes.tail, Lexemes.check_of_tokens? hus]
    rfl
  | done => exact absurd (Option.some.inj h) (by simp)
  | fault => contradiction

/-! ## Failure -/

variable {fault : ParseFault}

/-- Whether a reader fails on some tokens, with this fault. -/
def Fails (x : Parse α) (ts : List Token) (fault : ParseFault) : Prop :=
  ∀ L : Lexemes, L.tokens? = some ts → ∃ o, x L = .error ⟨fault, o⟩

theorem Fails.bind (h : Fails x ts fault) (f : α → Parse β) : Fails (x >>= f) ts fault := by
  intro L hL
  obtain ⟨o, herror⟩ := h L hL
  refine ⟨o, ?_⟩
  rw [bind_apply, herror]
  rfl

theorem Takes.bind_fails (hx : Takes x ts us a) (hf : Fails (f a) us fault) :
    Fails (x >>= f) ts fault := by
  intro L hL
  obtain ⟨M, hM, hread⟩ := hx L hL
  obtain ⟨o, herror⟩ := hf M hM
  refine ⟨o, ?_⟩
  rw [bind_apply, hread]
  exact herror

theorem Fails.map (h : Fails x ts fault) (g : α → β) : Fails (g <$> x) ts fault := by
  rw [map_eq_pure_bind]
  exact h.bind _

theorem fails_offset_bind {f : Nat → Parse β} (hf : ∀ o, Fails (f o) ts fault) :
    Fails (offset >>= f) ts fault := fun L h => hf L.offset L h

theorem fails_unexpected (expected : String) (h : front ts ≠ .endOfText) :
    Fails (unexpected expected : Parse α) ts
      (.unexpectedToken (front ts).description expected) := by
  intro L hL
  have htoken : L.token = front ts := Lexemes.token_of_tokens? hL
  refine ⟨L.offset, ?_⟩
  unfold unexpected
  rw [htoken]
  split
  · contradiction
  · rfl

/-! ## Marks -/

theorem takes_expect (m : Mark) (expected : String) (ts : List Token) :
    Takes (expect m expected) (.mark m :: ts) ts () := by
  refine takes_current.bind ?_
  rw [front_cons, if_pos (beq_self_eq_true _)]
  exact takes_advance _ ts

theorem takes_accept (m : Mark) (ts : List Token) : Takes (accept m) (.mark m :: ts) ts true := by
  refine takes_current.bind ?_
  rw [front_cons, if_pos (beq_self_eq_true _)]
  exact (takes_advance _ ts).bind takes_pure

theorem takes_accept_none {m : Mark} (h : front ts ≠ .mark m) : Takes (accept m) ts ts false := by
  refine takes_current.bind ?_
  rw [if_neg (by simpa using h)]
  exact takes_pure

theorem takes_expectClosing (close : Mark) (openChar : Char) (openOffset : Nat) (ts : List Token) :
    Takes (expectClosing close openChar openOffset) (.mark close :: ts) ts () := by
  refine takes_current.bind ?_
  rw [front_cons, if_neg (by simp)]
  exact takes_expect close _ ts

/-! ## Repetition -/

/-- One round of a repetition, and then those after it. -/
def round (one : Parse (Option α)) (more : Parse (List α)) : Parse (List α) := do
  match ← one with
  | none => return []
  | some a => return a :: (← more)

theorem many_go_succ (one : Parse (Option α)) (fuel : Nat) :
    many.go one (fuel + 1) = round one (many.go one fuel) := by
  funext ts
  change (one ts >>= fun r => _) = (one ts >>= fun r => _)
  congr 1
  funext r
  obtain ⟨_ | a, ts⟩ := r <;> rfl

theorem round_eq_ok {one : Parse (Option α)} {more : Parse (List α)} {as : List α}
    {L L' : Lexemes} : round one more L = .ok (as, L') ↔
      one L = .ok (none, L') ∧ as = [] ∨
        ∃ a M others, one L = .ok (some a, M) ∧ more M = .ok (others, L') ∧ as = a :: others := by
  constructor
  · intro heq
    obtain ⟨r, M, hread, hnext⟩ := bind_apply_eq_ok.1 heq
    cases r with
    | none =>
      obtain ⟨rfl, rfl⟩ := Prod.mk.inj (Except.ok.inj hnext)
      exact .inl ⟨hread, rfl⟩
    | some a =>
      obtain ⟨others, N, hothers, hlast⟩ := bind_apply_eq_ok.1 hnext
      obtain ⟨rfl, rfl⟩ := Prod.mk.inj (Except.ok.inj hlast)
      exact .inr ⟨a, M, others, hread, hothers, rfl⟩
  · rintro (⟨hread, rfl⟩ | ⟨a, M, others, hread, hothers, rfl⟩)
    · exact bind_apply_eq_ok.2 ⟨none, L', hread, rfl⟩
    · exact bind_apply_eq_ok.2
        ⟨some a, M, hread, bind_apply_eq_ok.2 ⟨others, L', hothers, rfl⟩⟩

/-- Whether a reader that is repeated gives some results and then finds nothing. -/
def TakesMany (one : Parse (Option α)) (ts us : List Token) (as : List α) : Prop :=
  ∀ fuel, ts.length < fuel → Takes (many.go one fuel) ts us as

variable {one : Parse (Option α)} {as : List α}

theorem TakesMany.nil (h : Takes one ts ts none) : TakesMany one ts ts [] := by
  intro fuel hfuel L hL
  obtain ⟨k, rfl⟩ := Nat.exists_eq_succ_of_ne_zero (Nat.ne_zero_of_lt hfuel)
  obtain ⟨M, hM, hread⟩ := h L hL
  refine ⟨M, hM, ?_⟩
  rw [many_go_succ, round_eq_ok]
  exact .inl ⟨hread, rfl⟩

theorem TakesMany.cons (h : Takes one ts us (some a)) (hshorter : us.length < ts.length)
    (hmore : TakesMany one us vs as) : TakesMany one ts vs (a :: as) := by
  intro fuel hfuel L hL
  obtain ⟨k, rfl⟩ := Nat.exists_eq_succ_of_ne_zero (Nat.ne_zero_of_lt hfuel)
  obtain ⟨M, hM, hread⟩ := h L hL
  obtain ⟨N, hN, hothers⟩ := hmore k (by omega) M hM
  refine ⟨N, hN, ?_⟩
  rw [many_go_succ, round_eq_ok]
  exact .inr ⟨a, M, as, hread, hothers, rfl⟩

theorem TakesMany.takes (h : TakesMany one ts us as) : Takes (many one) ts us as := by
  intro L hL
  obtain ⟨M, hM, hread⟩ := h (L.length + 1) (by rw [Lexemes.length_of_tokens? hL]; omega) L hL
  exact ⟨M, hM, hread⟩

/-- Whether a reader that is repeated gives some results and then fails. -/
def FailsMany (one : Parse (Option α)) (ts : List Token) (fault : ParseFault) : Prop :=
  ∀ fuel, ts.length < fuel → Fails (many.go one fuel) ts fault

theorem FailsMany.here (h : Fails one ts fault) : FailsMany one ts fault := by
  intro fuel hfuel
  obtain ⟨k, rfl⟩ := Nat.exists_eq_succ_of_ne_zero (Nat.ne_zero_of_lt hfuel)
  rw [many_go_succ]
  exact h.bind _

theorem FailsMany.later (h : Takes one ts us (some a)) (hshorter : us.length < ts.length)
    (hmore : FailsMany one us fault) : FailsMany one ts fault := by
  intro fuel hfuel
  obtain ⟨k, rfl⟩ := Nat.exists_eq_succ_of_ne_zero (Nat.ne_zero_of_lt hfuel)
  rw [many_go_succ]
  exact h.bind_fails ((hmore k (by omega)).bind _)

theorem FailsMany.fails (h : FailsMany one ts fault) : Fails (many one) ts fault := by
  intro L hL
  exact h (L.length + 1) (by rw [Lexemes.length_of_tokens? hL]; omega) L hL

/-- A further item after a comma. -/
def furtherItem (item : Parse α) : Parse (Option α) := do
  if ← accept .comma then return some (← item) else return none

variable {item : Parse α}

theorem takes_furtherItem (h : Takes item ts us a) :
    Takes (furtherItem item) (.mark .comma :: ts) us (some a) := by
  refine (takes_accept .comma ts).bind ?_
  rw [if_pos rfl]
  exact h.bind takes_pure

theorem takes_furtherItem_none (h : front ts ≠ .mark .comma) :
    Takes (furtherItem item) ts ts none := by
  refine (takes_accept_none h).bind ?_
  rw [if_neg Bool.false_ne_true]
  exact takes_pure

/-- A comma and an item may stand before further items after commas. -/
theorem takesMany_furtherItem_cons {tokens : List Token}
    (h : Takes item (tokens ++ us) us a) (hmore : TakesMany (furtherItem item) us vs as) :
    TakesMany (furtherItem item) (.mark .comma :: (tokens ++ us)) vs (a :: as) := by
  refine .cons (takes_furtherItem h) ?_ hmore
  simp only [List.length_cons, List.length_append]
  omega

theorem takes_separated (h : Takes item ts us a) (hmore : TakesMany (furtherItem item) us vs as) :
    Takes (separated item) ts vs (a :: as) :=
  h.bind (hmore.takes.bind takes_pure)

end Parse

end JsonPath.Query

import JsonPath.Proofs.Query.Continuation
import JsonPath.Proofs.Query.Steps

/-!
# What a reader sees

A reader may look one token ahead of what it takes. If that is not the end, the text may go on in
any way after it, and the reader does not see the difference. If it is the end, there may be a token
instead at which the reader would do the same.

`Local next x y` says so of a reader, with the tokens that may stand where the end stood; it relates
two readers since they differ in the offsets they keep for their faults. There is one rule for each
way in which readers are put together.

* `Lexemes.MayFollow` — what may come after the tokens that a reader leaves.
* `LocalAt`, `Local` — what a reader gives depends on what it takes and on one token ahead.
* `LocalAt.bind`, `LocalAt.closed`, `local_separated` — the rules.
* `Repeats.go_append` — a reader that is repeated up to the end, and further tokens after it.
-/

namespace JsonPath.Query

/-! ## Tokens that go on -/

namespace Lexemes

/-- Whether tokens may come after those that a reader leaves: they are tokens, and if nothing is
left they start with one that the reader may find there, or are at the end as well. -/
structure MayFollow (next : Token → Prop) (further left : Lexemes) : Prop where
  check : further.check = .ok further
  next : left.length = 0 → further.token = .endOfText ∨ next further.token

variable {further short long left left' : Lexemes} {next : Token → Prop}

theorem MayFollow.mono (h : MayFollow next further left) (hle : left.length ≤ left'.length) :
    MayFollow next further left' :=
  ⟨h.check, fun hzero => h.next (by omega)⟩

theorem check_eq_ok {L L' : Lexemes} (h : L.check = .ok L') : L' = L := by
  cases L with
  | fault => contradiction
  | more | done => exact (Except.ok.inj h).symm

theorem length_ne_zero {L : Lexemes} (h : L.token ≠ .endOfText) : L.length ≠ 0 := by
  cases L with
  | more => exact Nat.succ_ne_zero _
  | done | fault => exact absurd rfl h

/-- Before the end the current token is the same. -/
theorem Continues.token (h : Continues further short long) (hcheck : short.check = .ok short) :
    short.token ≠ .endOfText ∧ long.token = short.token ∨
      short.token = .endOfText ∧ short.length = 0 ∧ long = further := by
  cases h with
  | more htoken hend => exact .inl ⟨hend, htoken⟩
  | done => exact .inr ⟨rfl, rfl, rfl⟩
  | fault => contradiction

theorem Continues.check (h : Continues further short long) (hcheck : short.check = .ok short)
    (hfurther : further.check = .ok further) : long.check = .ok long := by
  cases h with
  | more => rfl
  | done => exact hfurther
  | fault => contradiction

end Lexemes

open Lexemes

/-! ## Local readers -/

namespace Parse

variable {α β : Type} {k : Nat} {t : Token} {next : Token → Prop} {x y : Parse α}
  {f g : α → Parse β}

/-- Whether a reader passes `k` tokens at least from a token on, and whether another one gives the
same on longer tokens and leaves what the first one leaves and more. What comes after must be
allowed there. -/
def LocalAt (k : Nat) (t : Token) (next : Token → Prop) (x y : Parse α) : Prop :=
  ∀ L a L', L.token = t → L.check = .ok L → x L = .ok (a, L') →
    L'.check = .ok L' ∧ L'.length + k ≤ L.length ∧
      ∀ further long, MayFollow next further L' → Continues further L long →
        ∃ long', y long = .ok (a, long') ∧ long'.length + k ≤ long.length ∧
          Continues further L' long'

/-- The same from any token on. -/
abbrev Local (next : Token → Prop) (x y : Parse α) : Prop := ∀ t, LocalAt 0 t next x y

/-- Nothing but the end may come next. -/
abbrev AtEnd : Token → Prop := fun _ => False

theorem localAt_pure {a : α} : LocalAt 0 t next (pure a) (pure a) := by
  intro L b L' _ hcheck heq
  obtain ⟨rfl, rfl⟩ := Prod.mk.inj (Except.ok.inj heq)
  exact ⟨hcheck, le_rfl, fun further long _ h => ⟨long, rfl, le_rfl, h⟩⟩

theorem LocalAt.of_forall_ne (h : ∀ L r, L.token = t → x L ≠ .ok r) : LocalAt k t next x y :=
  fun L _ _ ht _ heq => absurd heq (h L _ ht)

theorem localAt_fail {fault : ParseFault} : LocalAt k t next (fail fault) (fail fault : Parse α) :=
  .of_forall_ne fun _ _ _ h => nomatch h

theorem localAt_failAt {offset offset' : Nat} {fault : ParseFault} :
    LocalAt k t next (failAt offset fault) (failAt offset' fault : Parse α) :=
  .of_forall_ne fun _ _ _ h => nomatch h

theorem localAt_unexpected {expected : String} :
    LocalAt k t next (unexpected expected) (unexpected expected : Parse α) :=
  .of_forall_ne fun L r _ => unexpected_ne_ok expected L r

theorem LocalAt.zero (h : LocalAt k t next x y) : LocalAt 0 t next x y := by
  intro L a L' ht hcheck heq
  obtain ⟨hcheck', hle, hlong⟩ := h L a L' ht hcheck heq
  refine ⟨hcheck', by omega, fun further long hfollow hcontinues => ?_⟩
  obtain ⟨long', hread, hle', hleft⟩ := hlong further long hfollow hcontinues
  exact ⟨long', hread, by omega, hleft⟩

/-- Two readers, one after the other, if what may come after the second one may come after the
first one as well. -/
theorem LocalAt.bind_of {between : Token → Prop} (hx : LocalAt k t between x y)
    (hf : ∀ a, Local next (f a) (g a))
    (hbetween : ∀ a M r further, f a M = .ok r → r.2.length ≤ M.length →
      MayFollow next further r.2 → MayFollow between further M) :
    LocalAt k t next (x >>= f) (y >>= g) := by
  intro L b L' ht hcheck heq
  obtain ⟨a, M, hread, hnext⟩ := bind_apply_eq_ok.1 heq
  obtain ⟨hcheckM, hM, hlongM⟩ := hx L a M ht hcheck hread
  obtain ⟨hcheck', hle, hlong⟩ := hf a M.token M b L' rfl hcheckM hnext
  refine ⟨hcheck', by omega, fun further long hfollow hcontinues => ?_⟩
  obtain ⟨longM, hreadM, hleM, hleftM⟩ :=
    hlongM further long (hbetween a M _ further hnext hle hfollow) hcontinues
  obtain ⟨long', hread', hle', hleft⟩ := hlong further longM hfollow hleftM
  exact ⟨long', bind_apply_eq_ok.2 ⟨a, longM, hreadM, hread'⟩, by omega, hleft⟩

theorem LocalAt.bind (hx : LocalAt k t next x y) (hf : ∀ a, Local next (f a) (g a)) :
    LocalAt k t next (x >>= f) (y >>= g) :=
  hx.bind_of hf fun _ _ _ _ _ hle hfollow => hfollow.mono hle

/-- What is done before a reader that needs a token may look at this token, whatever it is. -/
theorem LocalAt.bind_needing (hx : LocalAt k t AtEnd x y) (hf : ∀ a, Local next (f a) (g a))
    (hneeds : ∀ a L r, f a L = .ok r → L.length ≠ 0) :
    LocalAt k t next (x >>= f) (y >>= g) :=
  hx.bind_of hf fun a M r _ hread _ hfollow =>
    ⟨hfollow.check, fun hzero => absurd hzero (hneeds a M r hread)⟩

theorem Local.bind (hx : Local next x y) (hf : ∀ a, Local next (f a) (g a)) :
    Local next (x >>= f) (y >>= g) := fun t => (hx t).bind hf

theorem Local.map (hx : Local next x y) (h : α → β) : Local next (h <$> x) (h <$> y) := by
  rw [map_eq_pure_bind, map_eq_pure_bind]
  exact hx.bind fun _ _ => localAt_pure

theorem localAt_offset_bind {f g : Nat → Parse β}
    (h : ∀ o o', LocalAt k t next (f o) (g o')) :
    LocalAt k t next (offset >>= f) (offset >>= g) := by
  intro L b L' ht hcheck heq
  refine ⟨(h L.offset 0 L b L' ht hcheck heq).1, (h L.offset 0 L b L' ht hcheck heq).2.1, ?_⟩
  intro further long
  exact (h L.offset long.offset L b L' ht hcheck heq).2.2 further long

/-- A reader that looks at the token. At the end it must do what it would do at what may come
next. -/
theorem localAt_current_bind {f g : Token → Parse β} (h : LocalAt k t next (f t) (g t))
    (hend : t = .endOfText → ∀ t', next t' → g t' = g .endOfText) :
    LocalAt k t next (current >>= f) (current >>= g) := by
  rintro L b L' rfl hcheck heq
  obtain ⟨hcheck', hle, hlong⟩ := h L b L' rfl hcheck heq
  refine ⟨hcheck', hle, fun further long hfollow hcontinues => ?_⟩
  suffices hsame : g long.token = g L.token by
    obtain ⟨long', hread, hlong'⟩ := hlong further long hfollow hcontinues
    refine ⟨long', ?_, hlong'⟩
    change g long.token long = _
    rwa [hsame]
  rcases hcontinues.token hcheck with ⟨-, htoken⟩ | ⟨htoken, hzero, rfl⟩
  · rw [htoken]
  · rw [htoken]
    rcases hfollow.next (by omega) with hfurther | hfurther
    · rw [hfurther]
    · exact hend htoken _ hfurther

theorem localAt_advance (ht : t ≠ .endOfText) : LocalAt 1 t next advance advance := by
  rintro L ⟨⟩ L' rfl hcheck heq
  cases L with
  | fault | done => exact absurd rfl ht
  | more l rest =>
    cases hrest : rest.check with
    | error e =>
      rw [advance, Lexemes.tail, hrest] at heq
      contradiction
    | ok M =>
      rw [advance, Lexemes.tail, hrest] at heq
      obtain ⟨-, rfl⟩ := Prod.mk.inj (Except.ok.inj heq)
      obtain rfl := check_eq_ok hrest
      refine ⟨hrest, le_rfl, fun further long hfollow hcontinues => ?_⟩
      cases hcontinues with
      | @more _ l' _ longRest _ _ h =>
        refine ⟨longRest, ?_, le_rfl, h⟩
        rw [advance, Lexemes.tail, h.check hrest hfollow.check]
        rfl

/-! ### Marks -/

theorem expect_ne_ok {m : Mark} {expected : String} {L : Lexemes} (h : L.token ≠ .mark m)
    (r : Unit × Lexemes) : expect m expected L ≠ .ok r := by
  change (if L.token == .mark m then advance else unexpected expected) L ≠ _
  rw [if_neg (by simpa using h)]
  exact unexpected_ne_ok expected L r

theorem expectClosing_ne_ok {close : Mark} {openChar : Char} {o : Nat} {L : Lexemes}
    (h : L.token ≠ .mark close) (r : Unit × Lexemes) :
    expectClosing close openChar o L ≠ .ok r := by
  change (if L.token == .endOfText then failAt o (.unbalancedBracket openChar)
    else expect close _) L ≠ _
  split
  · exact fun h => nomatch h
  · exact expect_ne_ok h r

theorem local_expect (m : Mark) (expected : String) :
    Local next (expect m expected) (expect m expected) := by
  intro t
  by_cases ht : t = .mark m
  · subst ht
    refine localAt_current_bind ?_ (by simp)
    rw [if_pos (beq_self_eq_true _)]
    exact (localAt_advance (by simp)).zero
  · exact .of_forall_ne fun L r htoken => expect_ne_ok (htoken ▸ ht) r

theorem local_expectClosing (close : Mark) (openChar : Char) (o o' : Nat) :
    Local next (expectClosing close openChar o) (expectClosing close openChar o') := by
  intro t
  by_cases ht : t = .mark close
  · subst ht
    refine localAt_current_bind ?_ (by simp)
    rw [if_neg (by simp), if_neg (by simp)]
    exact local_expect close _ _
  · exact .of_forall_ne fun L r htoken => expectClosing_ne_ok (htoken ▸ ht) r

/-- What stands in parentheses or brackets is not at the end. -/
theorem LocalAt.closed (hx : LocalAt k t AtEnd x y) (close : Mark) (openChar : Char) (o o' : Nat)
    (h : α → β) :
    LocalAt k t next (x >>= fun a => do expectClosing close openChar o; return h a)
      (y >>= fun a => do expectClosing close openChar o'; return h a) := by
  refine hx.bind_needing (fun a t => (local_expectClosing close openChar o o' t).bind fun _ _ =>
    localAt_pure) fun a L r hread => length_ne_zero fun hend => ?_
  obtain ⟨_, M, hclosing, -⟩ := bind_apply_eq_ok.1 hread
  exact expectClosing_ne_ok (by simp [hend]) _ hclosing

theorem localAt_accept (m : Mark) : LocalAt 1 (.mark m) next (accept m) (accept m) := by
  refine localAt_current_bind ?_ (by simp)
  rw [if_pos (beq_self_eq_true _)]
  exact (localAt_advance (by simp)).bind fun _ _ => localAt_pure

theorem accept_of_ne {m : Mark} {L : Lexemes} (h : L.token ≠ .mark m) :
    accept m L = .ok (false, L) := by
  change (if L.token == .mark m then do advance; return true else return false : Parse Bool) L = _
  rw [if_neg (by simpa using h)]
  rfl

theorem local_accept (m : Mark) : Local AtEnd (accept m) (accept m) := by
  intro t
  by_cases ht : t = .mark m
  · subst ht
    exact (localAt_accept m).zero
  · refine localAt_current_bind ?_ fun _ _ h => h.elim
    rw [if_neg (by simpa using ht)]
    exact localAt_pure

/-! ### Repetition -/

variable {one one' : Parse (Option α)} {starts : Token → Prop} {L L' : Lexemes} {as bs : List α}
  {r : Option α}

/-- Whether a reader that is repeated looks for something just at tokens of a kind, and passes a
token then. The end is none of them. -/
structure Repeats (starts : Token → Prop) (next : Token → Prop) (one one' : Parse (Option α)) :
    Prop where
  notEnd : ¬starts .endOfText
  item : ∀ t, starts t → LocalAt 1 t next one one'
  stop : ∀ L, ¬starts L.token → one L = .ok (none, L) ∧ one' L = .ok (none, L)

namespace Repeats

theorem starts_of_some {a : α} (h : Repeats starts next one one')
    (hread : one L = .ok (some a, L')) : starts L.token := by
  by_contra hstarts
  rw [(h.stop L hstarts).1] at hread
  exact nomatch (Prod.mk.inj (Except.ok.inj hread)).1

/-- One round gives the same before further tokens as before the end, and leaves what continues as
before. -/
theorem step (h : Repeats starts AtEnd one one') (hcheck : L.check = .ok L)
    (hread : one L = .ok (r, L')) :
    L'.check = .ok L' ∧ L'.length ≤ L.length ∧ (r.isSome → L'.length < L.length) ∧
      ∀ further long, MayFollow AtEnd further L' → Continues further L long →
        ∃ long', one' long = .ok (r, long') ∧ long'.length ≤ long.length ∧
          (r.isSome → long'.length < long.length) ∧ Continues further L' long' := by
  by_cases hstarts : starts L.token
  · obtain ⟨hcheck', hle, hlong⟩ := h.item _ hstarts L r L' rfl hcheck hread
    refine ⟨hcheck', by omega, fun _ => hle, fun further long hfollow hcontinues => ?_⟩
    obtain ⟨long', hread', hle', hleft⟩ := hlong further long hfollow hcontinues
    exact ⟨long', hread', by omega, fun _ => hle', hleft⟩
  · rw [(h.stop L hstarts).1] at hread
    obtain ⟨rfl, rfl⟩ := Prod.mk.inj (Except.ok.inj hread)
    refine ⟨hcheck, le_rfl, by simp, fun further long hfollow hcontinues => ?_⟩
    have hstartsLong : ¬starts long.token := by
      rcases hcontinues.token hcheck with ⟨-, htoken⟩ | ⟨-, hzero, rfl⟩
      · rwa [htoken]
      · rcases hfollow.next hzero with hend | hno
        · rw [hend]
          exact h.notEnd
        · exact hno.elim
    exact ⟨long, (h.stop long hstartsLong).2, le_rfl, by simp, hcontinues⟩

/-- Each round passes a token, so there are rounds enough. -/
theorem go (h : Repeats starts AtEnd one one') {fuel : Nat} (hfuel : L.length < fuel)
    (hcheck : L.check = .ok L) (heq : many.go one fuel L = .ok (as, L')) :
    L'.check = .ok L' ∧ L'.length ≤ L.length ∧
      ∀ further long, MayFollow AtEnd further L' → Continues further L long →
        ∀ fuel', long.length < fuel' → ∃ long', many.go one' fuel' long = .ok (as, long') ∧
          long'.length ≤ long.length ∧ Continues further L' long' := by
  induction fuel generalizing L as with
  | zero => contradiction
  | succ fuel ih =>
    rw [many_go_succ, round_eq_ok] at heq
    rcases heq with ⟨hread, rfl⟩ | ⟨a, M, others, hread, hothers, rfl⟩
    · obtain ⟨hcheck', hle, -, hlong⟩ := h.step hcheck hread
      refine ⟨hcheck', hle, fun further long hfollow hcontinues fuel' hfuel' => ?_⟩
      obtain ⟨long', hread', hle', -, hleft⟩ := hlong further long hfollow hcontinues
      obtain ⟨k, rfl⟩ := Nat.exists_eq_succ_of_ne_zero (Nat.ne_zero_of_lt hfuel')
      refine ⟨long', ?_, hle', hleft⟩
      rw [many_go_succ, round_eq_ok]
      exact .inl ⟨hread', rfl⟩
    · obtain ⟨hcheckM, -, hlt, hlongM⟩ := h.step hcheck hread
      have hlt := hlt rfl
      obtain ⟨hcheck', hle, hlong⟩ := ih (by omega) hcheckM hothers
      refine ⟨hcheck', by omega, fun further long hfollow hcontinues fuel' hfuel' => ?_⟩
      obtain ⟨longM, hreadM, -, hltM, hleftM⟩ :=
        hlongM further long (hfollow.mono hle) hcontinues
      have hltM := hltM rfl
      obtain ⟨k, rfl⟩ := Nat.exists_eq_succ_of_ne_zero (Nat.ne_zero_of_lt hfuel')
      obtain ⟨long', hread', hle', hleft⟩ := hlong further longM hfollow hleftM k (by omega)
      refine ⟨long', ?_, by omega, hleft⟩
      rw [many_go_succ, round_eq_ok]
      exact .inr ⟨a, longM, others, hreadM, hread', rfl⟩

theorem local_many (h : Repeats starts AtEnd one one') : Local AtEnd (many one) (many one') := by
  intro t L as L' _ hcheck heq
  obtain ⟨hcheck', hle, hlong⟩ := h.go (Nat.lt_succ_self _) hcheck heq
  exact ⟨hcheck', hle, fun further long hfollow hcontinues =>
    hlong further long hfollow hcontinues _ (Nat.lt_succ_self _)⟩

/-- **Two repetitions in one.** What is read up to the end is read before further tokens as well,
and then what these are read to. -/
theorem go_append (h : Repeats starts next one one')
    (hsome : ∀ L M, one L = .ok (none, M) → ¬starts L.token) {fuel : Nat}
    (hfuel : L.length < fuel) (hcheck : L.check = .ok L)
    (heq : many.go one fuel L = .ok (as, L')) (hleft : L'.length = 0) {further long rest : Lexemes}
    (hfollow : MayFollow next further L') (hcontinues : Continues further L long)
    (hfurther : ∀ fuel, further.length < fuel → many.go one' fuel further = .ok (bs, rest))
    {more : Nat} (hmore : long.length < more) :
    many.go one' more long = .ok (as ++ bs, rest) := by
  induction fuel generalizing L as long more with
  | zero => contradiction
  | succ fuel ih =>
    rw [many_go_succ, round_eq_ok] at heq
    rcases heq with ⟨hread, rfl⟩ | ⟨a, M, others, hread, hothers, rfl⟩
    · have hstarts := hsome L L' hread
      rw [(h.stop L hstarts).1] at hread
      obtain ⟨-, rfl⟩ := Prod.mk.inj (Except.ok.inj hread)
      rcases hcontinues.token hcheck with ⟨htoken, -⟩ | ⟨-, -, rfl⟩
      · exact absurd hleft (length_ne_zero htoken)
      · exact hfurther more hmore
    · have hstarts := h.starts_of_some hread
      obtain ⟨hcheckM, hM, hlongM⟩ := h.item _ hstarts L _ M rfl hcheck hread
      obtain ⟨longM, hreadM, hltM, hleftM⟩ :=
        hlongM further long ⟨hfollow.check, fun _ => hfollow.next hleft⟩ hcontinues
      obtain ⟨k, rfl⟩ := Nat.exists_eq_succ_of_ne_zero (Nat.ne_zero_of_lt hmore)
      have hk : longM.length < k := by omega
      rw [many_go_succ, round_eq_ok]
      exact .inr ⟨a, longM, others ++ bs, hreadM, ih (by omega) hcheckM hothers hleftM hk, rfl⟩

end Repeats

theorem local_separated {item item' : Parse α} (h : Local AtEnd item item') :
    Local AtEnd (separated item) (separated item') := by
  have hfurther : Repeats (· = .mark .comma) AtEnd (furtherItem item) (furtherItem item') := by
    have hstop (item : Parse α) {L : Lexemes} (hL : L.token ≠ .mark .comma) :
        furtherItem item L = .ok (none, L) := by
      change (accept .comma L >>= fun r => _) = _
      rw [accept_of_ne hL]
      rfl
    refine ⟨by simp, ?_, fun L hL => ⟨hstop item hL, hstop item' hL⟩⟩
    rintro t rfl
    refine (localAt_accept .comma).bind fun found t => ?_
    split
    · exact (h t).bind fun _ _ => localAt_pure
    · exact localAt_pure
  exact fun t => (h t).bind fun _ t => (hfurther.local_many t).bind fun _ _ => localAt_pure

end Parse

end JsonPath.Query

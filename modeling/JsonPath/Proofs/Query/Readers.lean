import JsonPath.Proofs.Evaluation.Outcome
import JsonPath.Proofs.Query.Phrases
import JsonPath.Proofs.Query.Progress

/-!
# What readers give

The tokens of any text are sound: whole numbers carry no sign, identifiers are words other than
those for literals, and patterns can be written. Every reader keeps the tokens sound and makes
something of a kind of what its parts give. So what is to be shown of everything that is read needs
a step for each kind of selector and predicate only.

* `Ensures` — a reader gives results of a kind from sound tokens.
* `sound_read` — the tokens of any text are sound.
* `Closed` — properties of selectors and predicates that go from parts to what is made of them.
* `Closed.of_parsePredicate`, `Closed.of_parsePath` — they hold of what is read from any text.
-/

namespace JsonPath.Query

open Text (Cursor)

/-! ## Sound tokens -/

/-- Whether reading a text can give a token. -/
def Token.Sound : Token → Prop
  | .integer n => 0 ≤ n.toInt
  | .identifier name => IsWord name ∧ wordToken name = .identifier name
  | .regex pattern _ => IsPattern pattern.toList
  | _ => True

/-- Whether all tokens are sound. -/
def Lexemes.Sound : Lexemes → Prop
  | .more l rest => l.token.Sound ∧ rest.Sound
  | .done _ | .fault _ => True

theorem sound_wordToken {word : String} (hword : IsWord word) : (wordToken word).Sound := by
  unfold wordToken
  split_ifs with htrue hfalse hnull
  · trivial
  · trivial
  · trivial
  · exact ⟨hword, by rw [wordToken, if_neg htrue, if_neg hfalse, if_neg hnull]⟩

theorem sound_numberText {n : NumberText} {t : Token} (h : n.token = .ok t) : t.Sound := by
  unfold NumberText.token at h
  split at h
  · split at h
    · rename_i k hk
      obtain rfl := Except.ok.inj h
      have := Number.toInt_of_ofInt? hk
      change 0 ≤ k.toInt
      omega
    · contradiction
  · obtain rfl := Except.ok.inj h
    trivial

theorem sound_nextToken {c : Cursor} {l : Lexeme} (h : (nextToken c).outcome = .ok l) :
    l.token.Sound := by
  have hscan := tokenScan_nextToken c
  generalize nextToken c = s at h hscan
  cases hscan with
  | endOfText | mark | string =>
    obtain rfl := Except.ok.inj h
    trivial
  | word hrest hstart =>
    obtain rfl := Except.ok.inj h
    rw [hrest]
    exact sound_wordToken (isWord_of_takeWhile hstart)
  | number _ _ ht =>
    obtain rfl := Except.ok.inj h
    exact sound_numberText ht
  | badString | badNumber | unexpected => contradiction

theorem sound_nextRegex {c : Cursor} {l : Lexeme} (h : (nextRegex c).outcome = .ok l) :
    l.token.Sound := by
  obtain ⟨source, flags, htoken, hsource, -⟩ := isPattern_of_nextRegex h
  rw [htoken]
  change IsPattern (String.ofList source).toList
  rwa [String.toList_ofList]

/-- The tokens of a text are sound. -/
theorem sound_read (regex : Bool) (c : Cursor) : (Lexemes.read regex c).Sound := by
  refine read_induction (P := fun _ _ L => L.Sound) (fun _ _ _ _ => trivial)
    (fun _ _ _ _ _ => trivial) (fun regex c l rest hl _ hrest => ⟨?_, hrest⟩) regex c
  cases regex with
  | true => exact sound_nextRegex hl
  | false => exact sound_nextToken hl

/-! ## What readers give -/

namespace Parse

variable {α β : Type} {x : Parse α} {f : α → Parse β} {P : α → Prop} {Q : β → Prop}

/-- Whether a reader gives results of a kind from sound tokens, and leaves sound tokens. -/
def Ensures (x : Parse α) (P : α → Prop) : Prop :=
  ∀ L : Lexemes, L.Sound → ∀ a L', x L = .ok (a, L') → P a ∧ L'.Sound

theorem ensures_pure {a : α} (h : P a) : Ensures (pure a) P := by
  rintro L hL a' L' heq
  obtain ⟨rfl, rfl⟩ := Prod.mk.inj (Except.ok.inj heq)
  exact ⟨h, hL⟩

theorem Ensures.bind (hx : Ensures x P) (hf : ∀ a, P a → Ensures (f a) Q) :
    Ensures (x >>= f) Q := by
  intro L hL b L' heq
  obtain ⟨a, M, hread, hnext⟩ := bind_apply_eq_ok.1 heq
  obtain ⟨ha, hM⟩ := hx L hL a M hread
  exact hf a ha M hM b L' hnext

theorem Ensures.mono {R : α → Prop} (hx : Ensures x P) (h : ∀ a, P a → R a) : Ensures x R :=
  fun L hL a L' heq => (hx L hL a L' heq).imp_left (h a)

theorem Ensures.map {g : α → β} (hx : Ensures x P) (h : ∀ a, P a → Q (g a)) :
    Ensures (g <$> x) Q := by
  rw [map_eq_pure_bind]
  exact hx.bind fun a ha => ensures_pure (h a ha)

theorem ensures_current : Ensures current Token.Sound := by
  rintro L hL a L' heq
  obtain ⟨rfl, rfl⟩ := Prod.mk.inj (Except.ok.inj heq)
  refine ⟨?_, hL⟩
  cases L with
  | more => exact hL.1
  | done | fault => trivial

theorem ensures_offset : Ensures offset fun _ => True := by
  rintro L hL a L' heq
  obtain ⟨rfl, rfl⟩ := Prod.mk.inj (Except.ok.inj heq)
  exact ⟨trivial, hL⟩

theorem sound_check {L L' : Lexemes} (hL : L.Sound) (h : L.check = .ok L') : L'.Sound := by
  cases L with
  | fault => contradiction
  | _ =>
    obtain rfl := Except.ok.inj h
    exact hL

theorem ensures_advance : Ensures advance fun _ => True := by
  intro L hL a L' heq
  refine ⟨trivial, ?_⟩
  cases htail : L.tail with
  | error e =>
    rw [advance, htail] at heq
    contradiction
  | ok M =>
    rw [advance, htail] at heq
    obtain ⟨-, rfl⟩ := Prod.mk.inj (Except.ok.inj heq)
    cases L with
    | more l rest => exact sound_check hL.2 htail
    | done | fault => exact sound_check hL htail

/-- A reader that fails gives nothing. -/
theorem ensures_failAt {offset : Nat} {fault : ParseFault} : Ensures (failAt offset fault) P :=
  fun _ _ _ _ heq => nomatch heq

theorem ensures_fail {fault : ParseFault} : Ensures (fail fault) P := fun _ _ _ _ heq => nomatch heq

theorem ensures_unexpected {expected : String} : Ensures (unexpected expected) P :=
  fun L _ a L' heq => absurd heq (unexpected_ne_ok expected L (a, L'))

theorem ensures_expect {m : Mark} {expected : String} :
    Ensures (expect m expected) fun _ => True := by
  refine ensures_current.bind fun t _ => ?_
  split
  · exact ensures_advance
  · exact ensures_unexpected

theorem ensures_accept {m : Mark} : Ensures (accept m) fun _ => True := by
  refine ensures_current.bind fun t _ => ?_
  split
  · exact ensures_advance.bind fun _ _ => ensures_pure trivial
  · exact ensures_pure trivial

theorem ensures_expectClosing {close : Mark} {openChar : Char} {openOffset : Nat} :
    Ensures (expectClosing close openChar openOffset) fun _ => True := by
  refine ensures_current.bind fun t _ => ?_
  split
  · exact ensures_failAt
  · exact ensures_expect

theorem ensures_many {one : Parse (Option α)} (h : Ensures one fun r => ∀ a ∈ r, P a) :
    Ensures (many one) fun as => ∀ a ∈ as, P a := by
  have hgo : ∀ fuel, Ensures (many.go one fuel) fun as => ∀ a ∈ as, P a := by
    intro fuel
    induction fuel with
    | zero =>
      rintro L hL as L' heq
      obtain ⟨rfl, rfl⟩ := Prod.mk.inj (Except.ok.inj heq)
      exact ⟨by simp, hL⟩
    | succ fuel ih =>
      rw [many_go_succ]
      refine h.bind fun r hr => ?_
      cases r with
      | none => exact ensures_pure (by simp)
      | some a =>
        exact ih.bind fun others hothers =>
          ensures_pure (List.forall_mem_cons.2 ⟨hr a rfl, hothers⟩)
  exact fun L => hgo (L.length + 1) L

theorem ensures_separated {item : Parse α} (h : Ensures item P) :
    Ensures (separated item) fun as => as ≠ [] ∧ ∀ a ∈ as, P a := by
  have hfurther : Ensures (furtherItem item) fun r => ∀ a ∈ r, P a := by
    refine ensures_accept.bind fun found _ => ?_
    split
    · exact h.bind fun a ha => ensures_pure (by simpa using ha)
    · exact ensures_pure (by simp)
  exact h.bind fun first hfirst => (ensures_many hfurther).bind fun others hothers =>
    ensures_pure ⟨List.cons_ne_nil _ _, List.forall_mem_cons.2 ⟨hfirst, hothers⟩⟩

end Parse

open Parse

variable {functions : Registry} {predicate : Parse Predicate} {S : Selector → Prop}
  {P : Predicate → Prop}

/-! ## Names and calls -/

theorem isWord_of_memberName? {t : Token} {name : String} (ht : t.Sound)
    (h : memberName? t = some name) : IsWord name := by
  unfold memberName? at h
  split at h
  · obtain rfl := Option.some.inj h
    exact ht.1
  · obtain rfl := Option.some.inj h
    split
    · exact .of_toList rfl (by decide)
    · exact .of_toList rfl (by decide)
  · obtain rfl := Option.some.inj h
    exact .of_toList rfl (by decide)
  · contradiction

theorem ensures_resolve {name : String} {offset : Nat} :
    Ensures (resolve functions name offset) fun f => functions.resolve? name = some f := by
  unfold resolve
  split
  · rename_i hf
    exact ensures_pure hf
  · exact ensures_failAt

theorem ensures_arguments (hp : Ensures predicate P) {openOffset : Nat} :
    Ensures (arguments predicate openOffset) fun args => ∀ p ∈ args, P p := by
  refine ensures_current.bind fun t _ => ?_
  have hclose {args : List Predicate} (hargs : ∀ p ∈ args, P p) :
      Ensures (do expectClosing .closeParen '(' openOffset; return args)
        fun args => ∀ p ∈ args, P p :=
    ensures_expectClosing.bind fun _ _ => ensures_pure hargs
  dsimp only
  split
  · exact (ensures_pure (P := fun args => ∀ p ∈ args, P p) (List.forall_mem_nil P)).bind
      fun _ => hclose
  · exact (ensures_separated hp).bind fun args hargs => hclose hargs.2

/-- What a call is made of: a function that the name stands for, and as many arguments as it
takes. -/
theorem ensures_selectorCall {Q : Selector → Prop} (hp : Ensures predicate P) {name : String}
    {offset : Nat}
    (h : ∀ f args, functions.resolve? name = some f → selectorArityFault? f args.length = none →
      (∀ p ∈ args, P p) → Q (.call f args)) :
    Ensures (selectorCall functions predicate name offset) Q := by
  refine ensures_resolve.bind fun f hf => ensures_offset.bind fun _ _ =>
    ensures_advance.bind fun _ _ => (ensures_arguments hp).bind fun args hargs => ?_
  split
  · exact ensures_failAt
  · rename_i harity
    exact ensures_pure (h f args hf harity hargs)

theorem ensures_call {Q : Predicate → Prop} (hp : Ensures predicate P) {name : String}
    {offset : Nat}
    (h : ∀ f args, functions.resolve? name = some f → callArityFault? f args.length = none →
      (∀ p ∈ args, P p) → Q (.call f args)) :
    Ensures (call functions predicate name offset) Q := by
  refine ensures_resolve.bind fun f hf => ensures_offset.bind fun _ _ =>
    ensures_expect.bind fun _ _ => (ensures_arguments hp).bind fun args hargs => ?_
  split
  · exact ensures_failAt
  · rename_i harity
    exact ensures_pure (h f args hf harity hargs)

/-! ## Selectors -/

theorem ne_minValue {n : Int64} (h : 0 ≤ n.toInt) : n ≠ Int64.minValue := by
  rintro rfl
  exact absurd h (by decide)

/-- The opposite of the least integer is itself, and that of no other is. -/
theorem neg_ne_minValue {n : Int64} (h : n ≠ Int64.minValue) : -n ≠ Int64.minValue := by
  intro heq
  have hmin := congrArg Neg.neg heq
  rw [Int64.neg_neg, show -Int64.minValue = Int64.minValue from rfl] at hmin
  exact h hmin

theorem ensures_signed : Ensures signed fun r => ∀ n ∈ r, n ≠ Int64.minValue := by
  refine ensures_accept.bind fun negative _ => ensures_current.bind fun t ht => ?_
  split
  · refine ensures_advance.bind fun _ _ => ensures_pure ?_
    rintro n hn
    obtain rfl := Option.some.inj hn
    split
    · exact neg_ne_minValue (ne_minValue ht)
    · exact ne_minValue ht
  · split
    · exact ensures_unexpected
    · exact ensures_pure (by simp)

theorem ensures_sliceStep : Ensures sliceStep fun r => ∀ n ∈ r, n ≠ Int64.minValue ∧ n ≠ 0 := by
  refine ensures_offset.bind fun _ _ => ensures_signed.bind fun step hstep => ?_
  split
  · exact ensures_failAt
  · rename_i hzero
    refine ensures_pure fun n hn => ⟨hstep n hn, ?_⟩
    rintro rfl
    obtain rfl : step = some 0 := hn
    exact hzero rfl

theorem ensures_indexOrSlice {Q : Selector → Prop} (hindex : ∀ i, i ≠ Int64.minValue → Q (.index i))
    (hslice : ∀ s : Slice, s.WellFormed → Q (.slice s)) : Ensures indexOrSlice Q := by
  refine ensures_signed.bind fun start hstart => ensures_accept.bind fun _ _ => ?_
  split
  · refine ensures_signed.bind fun stop hstop => ensures_accept.bind fun _ _ => ?_
    dsimp only
    split
    · exact ensures_sliceStep.bind fun step hstep =>
        ensures_pure (hslice _ ⟨hstart, hstop, hstep⟩)
    · exact (ensures_pure (P := fun r => ∀ n ∈ r, n ≠ Int64.minValue ∧ n ≠ 0) (by simp)).bind
        fun step hstep => ensures_pure (hslice _ ⟨hstart, hstop, hstep⟩)
  · split
    · exact ensures_pure (hindex _ (hstart _ rfl))
    · exact ensures_unexpected

/-! ## What is read is made of its parts -/

/-- Properties of selectors and of predicates that whatever is read has as soon as its parts have
them: a field for each thing that readers make. -/
structure Closed (functions : Registry) (S : Selector → Prop) (P : Predicate → Prop) : Prop where
  name (s : String) : S (.name s)
  wildMember : S .wildMember
  wildElement : S .wildElement
  index {i : Int64} (h : i ≠ Int64.minValue) : S (.index i)
  slice {s : Slice} (h : s.WellFormed) : S (.slice s)
  descent : S .descent
  union {members : List Chain} (hne : members ≠ []) (hsingle : ∀ s, members ≠ [[s]])
    (h : ∀ chain ∈ members, ∀ s ∈ chain, S s) : S (.union members)
  filter {p : Predicate} (h : P p) : S (.filter p)
  computed {p : Predicate} (h : P p) : S (.computed p)
  selectorCall {name : String} {f : Function} {args : List Predicate} (hname : IsWord name)
    (hf : functions.resolve? name = some f) (harity : selectorArityFault? f args.length = none)
    (h : ∀ p ∈ args, P p) : S (.call f args)
  literal {v : Value} (h : IsLiteral v) : P (.literal v)
  current : P .current
  root : P .root
  fromCurrent {chain : Chain} (hne : chain ≠ []) (h : ∀ s ∈ chain, S s) : P (.fromCurrent chain)
  fromRoot {chain : Chain} (hne : chain ≠ []) (h : ∀ s ∈ chain, S s) : P (.fromRoot chain)
  comparison (op : Comparison) {p q : Predicate} (hp : P p) (hq : P q) : P (.comparison op p q)
  operation (op : Operation) {p q : Predicate} (hp : P p) (hq : P q) : P (.operation op p q)
  and {p q : Predicate} (hp : P p) (hq : P q) : P (.and p q)
  or {p q : Predicate} (hp : P p) (hq : P q) : P (.or p q)
  not {p : Predicate} (h : P p) : P (.not p)
  negated {p : Predicate} (h : P p) : P (negated p)
  search {p : Predicate} {r : RegexLiteral} (hp : P p) (hr : r.WellFormed) : P (.search p r)
  call {name : String} {f : Function} {args : List Predicate} (hname : IsWord name)
    (htoken : wordToken name = .identifier name) (hf : functions.resolve? name = some f)
    (harity : callArityFault? f args.length = none) (h : ∀ p ∈ args, P p) : P (.call f args)

theorem Closed.ensures_dotMember (c : Closed functions S P) (hp : Ensures predicate P) :
    Ensures (dotMember functions predicate) S := by
  refine ensures_offset.bind fun _ _ => ensures_current.bind fun t ht => ?_
  split
  · exact ensures_advance.bind fun _ _ => ensures_pure c.wildMember
  · exact ensures_advance.bind fun _ _ => ensures_pure (c.index (ne_minValue ht))
  · split
    · exact ensures_unexpected
    · rename_i hname
      refine ensures_advance.bind fun _ _ => ensures_current.bind fun _ _ => ?_
      split
      · exact ensures_selectorCall hp fun f args =>
          c.selectorCall (isWord_of_memberName? ht hname)
      · exact ensures_pure (c.name _)

theorem Closed.ensures_afterDescent (c : Closed functions S P) :
    Ensures afterDescent fun chain => ∀ s ∈ chain, S s := by
  refine ensures_current.bind fun t _ => ?_
  split
  · exact ensures_advance.bind fun _ _ => ensures_pure (List.forall_mem_singleton.2 c.wildMember)
  · split
    · exact ensures_advance.bind fun _ _ => ensures_pure (List.forall_mem_singleton.2 (c.name _))
    · exact ensures_pure (List.forall_mem_nil S)

/-! ## Levels -/

/-- Whether all readers of a level give what has some properties. -/
structure Level.Sound (S : Selector → Prop) (P : Predicate → Prop) (level : Level) : Prop where
  predicate : Ensures level.predicate P
  segments : Ensures level.segments fun chain => ∀ s ∈ chain, S s
  unary : Ensures level.unary P
  product : Ensures level.product P
  comparison : Ensures level.comparison P
  conjunction : Ensures level.conjunction P
  disjunction : Ensures level.disjunction P
  productRest : ∀ p : Predicate, P p → Ensures (level.productRest p) P
  sumRest : ∀ p : Predicate, P p → Ensures (level.sumRest p) P
  conjunctionRest : ∀ p : Predicate, P p → Ensures (level.conjunctionRest p) P
  disjunctionRest : ∀ p : Predicate, P p → Ensures (level.disjunctionRest p) P

variable {level : Level} {below : Option Level}

theorem ensures_nest {α : Type} {read : Level → Parse α} {Q : α → Prop}
    (h : ∀ level ∈ below, Ensures (read level) Q) : Ensures (nest below read) Q := by
  unfold nest
  split
  · exact h _ rfl
  · exact ensures_fail

namespace Closed

theorem ensures_bracketItem (c : Closed functions S P) (hl : level.Sound S P) :
    Ensures (bracketItem level) fun chain => ∀ s ∈ chain, S s := by
  have hsingle {s : Selector} (h : S s) : ∀ s' ∈ [s], S s' := List.forall_mem_singleton.2 h
  have hposition : Ensures (do return [← indexOrSlice]) fun chain => ∀ s ∈ chain, S s :=
    (ensures_indexOrSlice (fun _ => c.index) fun _ => c.slice).bind fun _ hs =>
      ensures_pure (hsingle hs)
  refine ensures_current.bind fun t _ => ?_
  cases t with
  | string | identifier | boolean | null =>
    exact ensures_advance.bind fun _ _ => ensures_pure (hsingle (c.name _))
  | integer => exact hposition
  | float | regex | endOfText => exact ensures_unexpected
  | mark m =>
    cases m with
    | star => exact ensures_advance.bind fun _ _ => ensures_pure (hsingle c.wildElement)
    | question =>
      exact ensures_advance.bind fun _ _ => hl.predicate.bind fun _ hp =>
        ensures_pure (hsingle (c.filter hp))
    | openParen =>
      refine ensures_offset.bind fun _ _ => ensures_advance.bind fun _ _ => ?_
      exact hl.predicate.bind fun _ hp =>
        ensures_expectClosing.bind fun _ _ => ensures_pure (hsingle (c.computed hp))
    | atSign => exact ensures_advance.bind fun _ _ => hl.segments
    | minus | colon => exact hposition
    | _ => exact ensures_unexpected

theorem ofItems (c : Closed functions S P) {items : List Chain} (hne : items ≠ [])
    (h : ∀ chain ∈ items, ∀ s ∈ chain, S s) : S (ofItems items) := by
  unfold Query.ofItems
  split
  · exact h _ List.mem_cons_self _ List.mem_cons_self
  · rename_i hsingle
    exact c.union hne (fun s heq => hsingle s heq) h

theorem ensures_bracket (c : Closed functions S P) (hl : level.Sound S P) :
    Ensures (bracket level) S :=
  ensures_offset.bind fun _ _ => ensures_advance.bind fun _ _ =>
    (ensures_separated (c.ensures_bracketItem hl)).bind fun _ hitems =>
      ensures_expectClosing.bind fun _ _ => ensures_pure (c.ofItems hitems.1 hitems.2)

theorem ensures_segment? (c : Closed functions S P)
    (hbelow : ∀ level ∈ below, level.Sound S P) (hp : Ensures predicate P) :
    Ensures (segment? functions below predicate)
      fun r => ∀ chain ∈ r, ∀ s ∈ chain, S s := by
  have hsome {chain : Chain} (h : ∀ s ∈ chain, S s) :
      ∀ chain' ∈ some chain, ∀ s ∈ chain', S s := by simpa using h
  refine ensures_current.bind fun t _ => ?_
  split
  · exact ensures_advance.bind fun _ _ => (c.ensures_dotMember hp).bind fun _ hs =>
      ensures_pure (hsome (List.forall_mem_singleton.2 hs))
  · exact ensures_advance.bind fun _ _ => c.ensures_afterDescent.bind fun _ hs =>
      ensures_pure (hsome (List.forall_mem_cons.2 ⟨c.descent, hs⟩))
  · exact (ensures_nest fun level hlevel => c.ensures_bracket (hbelow level hlevel)).bind
      fun _ hs => ensures_pure (hsome (List.forall_mem_singleton.2 hs))
  · exact ensures_pure (by simp)

/-! ## Predicates -/

variable {segments : Parse Chain}

theorem ensures_primary (c : Closed functions S P) (hp : Ensures predicate P)
    (hs : Ensures segments fun chain => ∀ s ∈ chain, S s) :
    Ensures (primary functions predicate segments) P := by
  refine ensures_offset.bind fun _ _ => ensures_current.bind fun t ht => ?_
  cases t with
  | float | string | boolean | null =>
    exact ensures_advance.bind fun _ _ => ensures_pure (c.literal trivial)
  | integer => exact ensures_advance.bind fun _ _ => ensures_pure (c.literal (ne_minValue ht))
  | identifier =>
    exact ensures_advance.bind fun _ _ => ensures_call hp fun f args => c.call ht.1 ht.2
  | regex | endOfText => exact ensures_unexpected
  | mark m =>
    cases m with
    | atSign =>
      refine ensures_advance.bind fun _ _ => hs.bind fun chain hchain => ensures_pure ?_
      split
      · exact c.current
      · rename_i hne
        exact c.fromCurrent (by simpa using hne) hchain
    | dollar =>
      refine ensures_advance.bind fun _ _ => hs.bind fun chain hchain => ensures_pure ?_
      split
      · exact c.root
      · rename_i hne
        exact c.fromRoot (by simpa using hne) hchain
    | openParen =>
      exact ensures_advance.bind fun _ _ => hp.bind fun _ hq =>
        ensures_expectClosing.bind fun _ _ => ensures_pure hq
    | _ => exact ensures_unexpected

theorem ensures_unaryOf (c : Closed functions S P) (hbelow : ∀ level ∈ below, level.Sound S P)
    {operand : Parse Predicate} (hp : Ensures operand P) : Ensures (unaryOf below operand) P := by
  refine ensures_current.bind fun t _ => ?_
  split
  · exact ensures_nest fun level hlevel => ensures_advance.bind fun _ _ =>
      (hbelow level hlevel).unary.bind fun _ hp => ensures_pure (c.not hp)
  · exact ensures_nest fun level hlevel => ensures_advance.bind fun _ _ =>
      (hbelow level hlevel).unary.bind fun _ hp => ensures_pure (c.negated hp)
  · exact hp

end Closed

/-- A connective that joins two predicates with a property to one. -/
def Joins (P : Predicate → Prop) (combine : Predicate → Predicate → Predicate) : Prop :=
  ∀ p q : Predicate, P p → P q → P (combine p q)

theorem ensures_chained (hbelow : ∀ level ∈ below, level.Sound S P)
    {operator? : Token → Option (Predicate → Predicate → Predicate)}
    (hop : ∀ t, ∀ combine ∈ operator? t, Joins P combine) {operand : Level → Parse Predicate}
    (hoperand : ∀ level : Level, level.Sound S P → Ensures (operand level) P)
    {rest : Level → Predicate → Parse Predicate}
    (hrest : ∀ level : Level, level.Sound S P → ∀ p : Predicate, P p → Ensures (rest level p) P)
    {left : Predicate} (hleft : P left) :
    Ensures (chained below operator? operand rest left) P := by
  refine ensures_current.bind fun t _ => ?_
  split
  · rename_i combine hcombine
    exact ensures_nest fun level hlevel => ensures_advance.bind fun _ _ =>
      (hoperand level (hbelow level hlevel)).bind fun right hright =>
        hrest level (hbelow level hlevel) _ (hop t combine hcombine left right hleft hright)
  · exact ensures_pure hleft

/-- The literal of a pattern and flags keeps both. -/
theorem source_of_regexLiteral {pattern flags : String} {r : RegexLiteral}
    (h : regexLiteral pattern flags = .ok r) : r.source = pattern ∧ r.flags = flags := by
  unfold regexLiteral at h
  split at h
  · contradiction
  · split at h
    · obtain rfl := Except.ok.inj h
      exact ⟨rfl, rfl⟩
    · contradiction

theorem ensures_regex : Ensures regex RegexLiteral.WellFormed := by
  refine ensures_current.bind fun t ht => ?_
  split
  · split
    · rename_i r hr
      obtain ⟨rfl, rfl⟩ := source_of_regexLiteral hr
      exact ensures_advance.bind fun _ _ => ensures_pure ⟨ht, hr⟩
    · exact ensures_fail
  · exact ensures_unexpected

theorem Closed.ensures_comparisonOf (c : Closed functions S P) {sum : Parse Predicate}
    (hsum : Ensures sum P) : Ensures (comparisonOf sum) P := by
  refine hsum.bind fun left hleft => ensures_accept.bind fun _ _ => ?_
  split
  · exact ensures_regex.bind fun r hr => ensures_pure (c.search hleft hr)
  · refine ensures_current.bind fun t _ => ?_
    split
    · exact ensures_advance.bind fun _ _ => hsum.bind fun right hright =>
        ensures_pure (c.comparison _ hleft hright)
    · exact ensures_pure hleft

/-! ## Whole texts -/

namespace Closed

theorem ensures_segments (c : Closed functions S P) (hbelow : ∀ level ∈ below, level.Sound S P)
    (hpredicate : Ensures predicate P) :
    Ensures (List.flatten <$> many (segment? functions below predicate))
      fun chain => ∀ s ∈ chain, S s := by
  refine (ensures_many (c.ensures_segment? hbelow hpredicate)).map fun chains hchains s hs => ?_
  obtain ⟨chain, hchain, hs⟩ := List.mem_flatten.1 hs
  exact hchains chain hchain s hs

/-- A level is sound if the one below it is: its readers are built from those below, from the
strongest connective to the weakest. -/
theorem sound_above (c : Closed functions S P) (hbelow : ∀ level ∈ below, level.Sound S P) :
    (Level.above functions below).Sound S P := by
  have hpredicate : Ensures (nest below Level.disjunction) P :=
    ensures_nest fun level hlevel => (hbelow level hlevel).disjunction
  have hsegments := c.ensures_segments hbelow hpredicate
  have hunary := c.ensures_unaryOf hbelow (c.ensures_primary hpredicate hsegments)
  have hoperation (op : Operation) : Joins P (.operation op) := fun _ _ => c.operation op
  have hproductRest (p : Predicate) (hp : P p) :=
    ensures_chained hbelow (forall_operation? hoperation productOperation?)
      (fun _ h => h.unary) (fun _ h => h.productRest) hp
  have hproduct := hunary.bind hproductRest
  have hsumRest (p : Predicate) (hp : P p) :=
    ensures_chained hbelow (forall_operation? hoperation sumOperation?) (fun _ h => h.product)
      (fun _ h => h.sumRest) hp
  have hcomparison := c.ensures_comparisonOf (hproduct.bind hsumRest)
  have hconjunctionRest (p : Predicate) (hp : P p) :=
    ensures_chained hbelow (forall_connective (J := Joins P) (fun _ _ => c.and) .and)
      (fun _ h => h.comparison) (fun _ h => h.conjunctionRest) hp
  have hconjunction := hcomparison.bind hconjunctionRest
  have hdisjunctionRest (p : Predicate) (hp : P p) :=
    ensures_chained hbelow (forall_connective (J := Joins P) (fun _ _ => c.or) .or)
      (fun _ h => h.conjunction) (fun _ h => h.disjunctionRest) hp
  exact {
    predicate := hpredicate
    segments := hsegments
    unary := hunary
    product := hproduct
    comparison := hcomparison
    conjunction := hconjunction
    disjunction := hconjunction.bind hdisjunctionRest
    productRest := hproductRest
    sumRest := hsumRest
    conjunctionRest := hconjunctionRest
    disjunctionRest := hdisjunctionRest }

theorem sound_ofRoom (c : Closed functions S P) (n : Nat) :
    (Level.ofRoom functions n).Sound S P := by
  induction n with
  | zero => exact c.sound_above (by simp)
  | succ n ih => exact c.sound_above (by simpa using ih)

end Closed

/-- A whole text is read by a reader that ensures something. -/
theorem Ensures.of_readAll {α : Type} {read : Parse α} {P : α → Prop} (hread : Ensures read P)
    {text : String} {a : α} (h : readAll read text = .ok a) : P a := by
  obtain ⟨tokens, hcheck, h⟩ := bind_eq_ok.1 h
  obtain ⟨⟨b, L⟩, hb, h⟩ := bind_eq_ok.1 h
  obtain rfl := Except.ok.inj h
  exact (hread tokens (sound_check (sound_read false _) hcheck) b L hb).1

namespace Closed

/-- The predicate that comes of any text has the property of predicates. -/
theorem of_parsePredicate (c : Closed functions S P) {text : String} {p : Predicate}
    (h : parsePredicate functions text = .ok p) : P p := by
  refine Ensures.of_readAll ?_ h
  refine (c.sound_ofRoom maxNesting).predicate.bind fun p hp => ensures_current.bind fun _ _ => ?_
  split
  · exact ensures_pure hp
  · exact ensures_unexpected

/-- The chain that comes of any path has selectors with the property of selectors. -/
theorem of_parsePath (c : Closed functions S P) {text : String} {chain : Chain}
    (h : parsePath functions text = .ok chain) : ∀ s ∈ chain, S s := by
  refine Ensures.of_readAll (P := fun chain => ∀ s ∈ chain, S s) ?_ h
  refine ensures_expect.bind fun _ _ => (c.sound_ofRoom maxNesting).segments.bind fun chain hs => ?_
  refine ensures_current.bind fun _ _ => ?_
  split
  · exact ensures_pure hs
  · exact ensures_fail
  · exact ensures_fail
  · exact ensures_unexpected

end Closed

end JsonPath.Query

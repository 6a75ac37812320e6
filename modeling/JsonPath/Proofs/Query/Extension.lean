import JsonPath.Evaluation.Expression
import JsonPath.Proofs.Evaluation.Outcome
import JsonPath.Proofs.Query.Phrases
import JsonPath.Proofs.Query.Scope

/-!
# Reading with more functions

A text is read with a table of functions, and the table matters only where a name is looked up. With
a larger table, a text that was read before is read to the same; whatever more is read holds one of
the functions that are new.

The two runs go side by side. As long as they agree they have read the same so far, and this is
within the scope of the smaller table; the first name that only the larger table knows ends the
smaller run, and the function found stays in whatever the larger run goes on to give. So the scope
of what has been read is carried along: `Restricts R P x y` says that while `R` holds of what was
read before, `x` gives just those results of `y` that are in `P`. Nothing that is read is dropped,
and so every rule is an equivalence.

* `Restricts.bind`, `restricts_many`, … — a rule for each way in which readers are put together.
* `Level.Restricts` — two levels side by side.
* `Expression.compile_empty_iff` — expressions with built-in functions only.
-/

namespace JsonPath

/-- The functions that one table has are those that another has within a scope. -/
structure Registry.IsPart (small large : Registry) (σ : Query.Scope) : Prop where
  resolve : ∀ name f, small.resolve? name = some f ↔ large.resolve? name = some f ∧ σ.Calls f
  root : σ.Root

namespace Query

namespace Parse

variable {α β : Type} {R R' : Prop} {P : α → Prop} {Q : β → Prop} {x y : Parse α}
  {f g : α → Parse β}

/-- While a condition holds, one reader gives those results of another that are of a kind. The other
gives such results only while it holds. -/
def Restricts (R : Prop) (P : α → Prop) (x y : Parse α) : Prop :=
  ∀ L a L', R ∧ x L = .ok (a, L') ↔ y L = .ok (a, L') ∧ P a

theorem restricts_pure {a : α} (h : R ↔ P a) : Restricts R P (pure a) (pure a) := by
  intro L b L'
  change R ∧ Except.ok (a, L) = _ ↔ Except.ok (a, L) = _ ∧ P b
  rw [and_comm, and_congr_right_iff]
  intro heq
  obtain ⟨rfl, -⟩ := Prod.mk.inj (Except.ok.inj heq)
  exact h

theorem restricts_of_forall_ne (h : ∀ L r, x L ≠ .ok r) : Restricts R P x x :=
  fun _ _ _ => ⟨fun hread => absurd hread.2 (h _ _), fun hread => absurd hread.1 (h _ _)⟩

theorem restricts_fail {fault : ParseFault} : Restricts R P (fail fault) (fail fault) :=
  restricts_of_forall_ne fun _ _ h => nomatch h

theorem restricts_failAt {offset : Nat} {fault : ParseFault} :
    Restricts R P (failAt offset fault) (failAt offset fault) :=
  restricts_of_forall_ne fun _ _ h => nomatch h

theorem restricts_unexpected {expected : String} :
    Restricts R P (unexpected expected) (unexpected expected) :=
  restricts_of_forall_ne (unexpected_ne_ok expected)

theorem Restricts.congr (h : Restricts R P x y) (hR : R' ↔ R) : Restricts R' P x y :=
  fun L a L' => by rw [hR, h L a L']

/-- What was read before goes along with what is read now. -/
theorem Restricts.under (h : Restricts True P x y) (R : Prop) :
    Restricts R (fun a => R ∧ P a) x y := by
  intro L a L'
  have hiff := h L a L'
  rw [true_and] at hiff
  rw [hiff]
  exact ⟨fun ⟨hR, hy, hP⟩ => ⟨hy, hR, hP⟩, fun ⟨hy, hR, hP⟩ => ⟨hR, hy, hP⟩⟩

/-- The condition under which the second reader goes on is what the first one has read. -/
theorem Restricts.bind (hx : Restricts R P x y) (hf : ∀ a, Restricts (P a) Q (f a) (g a)) :
    Restricts R Q (x >>= f) (y >>= g) := by
  intro L b L'
  simp only [bind_apply_eq_ok]
  constructor
  · rintro ⟨hR, a, M, hread, hnext⟩
    obtain ⟨hy, ha⟩ := (hx L a M).1 ⟨hR, hread⟩
    obtain ⟨hg, hb⟩ := (hf a M b L').1 ⟨ha, hnext⟩
    exact ⟨⟨a, M, hy, hg⟩, hb⟩
  · rintro ⟨⟨a, M, hy, hg⟩, hb⟩
    obtain ⟨ha, hnext⟩ := (hf a M b L').2 ⟨hg, hb⟩
    obtain ⟨hR, hread⟩ := (hx L a M).2 ⟨hy, ha⟩
    exact ⟨hR, a, M, hread, hnext⟩

/-- A step that both runs take alike restricts nothing. -/
theorem restricts_step (x : Parse α) (hf : ∀ a, Restricts R Q (f a) (g a)) :
    Restricts R Q (x >>= f) (x >>= g) :=
  Restricts.bind (P := fun _ => R) (fun _ _ _ => and_comm) hf

theorem restricts_many {one one' : Parse (Option α)}
    (h : Restricts True (fun r => ∀ a ∈ r, P a) one one') :
    Restricts True (fun as => ∀ a ∈ as, P a) (many one) (many one') := by
  have hgo : ∀ fuel, Restricts True (fun as => ∀ a ∈ as, P a) (many.go one fuel)
      (many.go one' fuel) := by
    intro fuel
    induction fuel with
    | zero => exact restricts_pure (iff_of_true trivial (List.forall_mem_nil P))
    | succ fuel ih =>
      rw [many_go_succ, many_go_succ]
      refine h.bind fun r => ?_
      cases r with
      | none => exact restricts_pure (iff_of_true (by simp) (List.forall_mem_nil P))
      | some a => exact (ih.under _).bind fun as => restricts_pure (by simp)
  exact fun L => hgo (L.length + 1) L

theorem restricts_separated {item item' : Parse α} (h : Restricts True P item item') :
    Restricts True (fun as => ∀ a ∈ as, P a) (separated item) (separated item') := by
  have hfurther : Restricts True (fun r => ∀ a ∈ r, P a) (furtherItem item)
      (furtherItem item') := by
    refine restricts_step _ fun found => ?_
    cases found with
    | false => exact restricts_pure (by simp)
    | true => exact h.bind fun a => restricts_pure (by simp)
  exact h.bind fun first => ((restricts_many hfurther).under _).bind fun others =>
    restricts_pure (by simp)

end Parse

open Parse

variable {small large : Registry} {σ : Scope} {R : Prop} {p q : Parse Predicate}

/-! ## Names and calls -/

theorem restricts_resolve (h : small.IsPart large σ) (name : String) (offset : Nat) :
    Restricts True σ.Calls (resolve small name offset) (resolve large name offset) := by
  intro L f L'
  have hresolve (r : Registry) :
      resolve r name offset L = .ok (f, L') ↔ r.resolve? name = some f ∧ L = L' := by
    unfold resolve
    cases r.resolve? name with
    | none => simp [failAt]
    | some g => simp [pure, StateT.pure, Except.pure]
  rw [hresolve small, hresolve large, h.resolve]
  tauto

theorem restricts_arguments (hp : Restricts True (Predicate.Within σ) p q) (openOffset : Nat) :
    Restricts True (ArgumentsWithin σ) (arguments p openOffset) (arguments q openOffset) := by
  have hclose (args : List Predicate) : Restricts (ArgumentsWithin σ args) (ArgumentsWithin σ)
      (do expectClosing .closeParen '(' openOffset; return args)
      (do expectClosing .closeParen '(' openOffset; return args) :=
    restricts_step _ fun _ => restricts_pure Iff.rfl
  refine restricts_step _ fun t => ?_
  dsimp only
  split
  · exact (restricts_pure (P := ArgumentsWithin σ) (a := []) (iff_of_true trivial trivial)).bind
      hclose
  · refine (restricts_separated hp).bind fun args => (hclose args).congr ?_
    exact argumentsWithin_iff.symm

theorem restricts_selectorCall (h : small.IsPart large σ)
    (hp : Restricts True (Predicate.Within σ) p q) (name : String) (offset : Nat) :
    Restricts True (Selector.Within σ) (selectorCall small p name offset)
      (selectorCall large q name offset) := by
  refine (restricts_resolve h name offset).bind fun f => restricts_step _ fun openOffset =>
    restricts_step _ fun _ => ((restricts_arguments hp openOffset).under _).bind fun args => ?_
  split
  · exact restricts_failAt
  · exact restricts_pure Iff.rfl

theorem restricts_call (h : small.IsPart large σ) (hp : Restricts True (Predicate.Within σ) p q)
    (name : String) (offset : Nat) :
    Restricts True (Predicate.Within σ) (call small p name offset) (call large q name offset) := by
  refine (restricts_resolve h name offset).bind fun f => restricts_step _ fun openOffset =>
    restricts_step _ fun _ => ((restricts_arguments hp openOffset).under _).bind fun args => ?_
  split
  · exact restricts_failAt
  · exact restricts_pure Iff.rfl

/-! ## Selectors -/

theorem restricts_dotMember (h : small.IsPart large σ)
    (hp : Restricts True (Predicate.Within σ) p q) :
    Restricts True (Selector.Within σ) (dotMember small p) (dotMember large q) := by
  refine restricts_step _ fun offset => restricts_step _ fun t => ?_
  split
  · exact restricts_step _ fun _ => restricts_pure Iff.rfl
  · exact restricts_step _ fun _ => restricts_pure Iff.rfl
  · split
    · exact restricts_unexpected
    · refine restricts_step _ fun _ => restricts_step _ fun _ => ?_
      split
      · exact restricts_selectorCall h hp _ offset
      · exact restricts_pure Iff.rfl

theorem restricts_afterDescent (σ : Scope) :
    Restricts True (ChainWithin σ) afterDescent afterDescent := by
  have hsingle {s : Selector} (hs : s.Within σ) :
      Restricts True (ChainWithin σ) (pure [s]) (pure [s]) :=
    restricts_pure (iff_of_true trivial ⟨hs, trivial⟩)
  refine restricts_step _ fun t => ?_
  split
  · exact restricts_step _ fun _ => hsingle trivial
  · split
    · exact restricts_step _ fun _ => hsingle trivial
    · exact restricts_pure (iff_of_true trivial trivial)

theorem restricts_indexOrSlice :
    Restricts True (Selector.Within σ) indexOrSlice indexOrSlice := by
  refine restricts_step _ fun start => restricts_step _ fun found => ?_
  split
  · refine restricts_step _ fun stop => restricts_step _ fun more => ?_
    dsimp only
    split
    · exact restricts_step _ fun step => restricts_pure Iff.rfl
    · exact restricts_step _ fun step => restricts_pure Iff.rfl
  · split
    · exact restricts_pure Iff.rfl
    · exact restricts_unexpected

/-! ## Levels -/

/-- The readers of one level give what those of another give within a scope. -/
structure Level.Restricts (σ : Scope) (l m : Level) : Prop where
  predicate : Parse.Restricts True (Predicate.Within σ) l.predicate m.predicate
  segments : Parse.Restricts True (ChainWithin σ) l.segments m.segments
  unary : Parse.Restricts True (Predicate.Within σ) l.unary m.unary
  product : Parse.Restricts True (Predicate.Within σ) l.product m.product
  comparison : Parse.Restricts True (Predicate.Within σ) l.comparison m.comparison
  conjunction : Parse.Restricts True (Predicate.Within σ) l.conjunction m.conjunction
  disjunction : Parse.Restricts True (Predicate.Within σ) l.disjunction m.disjunction
  productRest : ∀ left : Predicate, Parse.Restricts (left.Within σ) (Predicate.Within σ)
    (l.productRest left) (m.productRest left)
  sumRest : ∀ left : Predicate, Parse.Restricts (left.Within σ) (Predicate.Within σ)
    (l.sumRest left) (m.sumRest left)
  conjunctionRest : ∀ left : Predicate, Parse.Restricts (left.Within σ) (Predicate.Within σ)
    (l.conjunctionRest left) (m.conjunctionRest left)
  disjunctionRest : ∀ left : Predicate, Parse.Restricts (left.Within σ) (Predicate.Within σ)
    (l.disjunctionRest left) (m.disjunctionRest left)

variable {l m : Level} {below below' : Option Level} {α : Type}

theorem restricts_nest (hbelow : Option.Rel (Level.Restricts σ) below below') {P : α → Prop}
    {read read' : Level → Parse α}
    (h : ∀ l m : Level, l.Restricts σ m → Restricts R P (read l) (read' m)) :
    Restricts R P (nest below read) (nest below' read') := by
  cases hbelow with
  | none => exact restricts_fail
  | some hlevel => exact h _ _ hlevel

theorem restricts_bracketItem (h : l.Restricts σ m) :
    Restricts True (ChainWithin σ) (bracketItem l) (bracketItem m) := by
  have hsingle {R : Prop} {s : Selector} (hR : R ↔ s.Within σ) :
      Restricts R (ChainWithin σ) (pure [s]) (pure [s]) :=
    restricts_pure (hR.trans (iff_of_eq (and_true _)).symm)
  have hposition : Restricts True (ChainWithin σ) (do return [← indexOrSlice])
      (do return [← indexOrSlice]) :=
    restricts_indexOrSlice.bind fun _ => hsingle Iff.rfl
  refine restricts_step _ fun t => ?_
  cases t with
  | string | identifier | boolean | null => exact restricts_step _ fun _ => hsingle Iff.rfl
  | integer => exact hposition
  | float | regex | endOfText => exact restricts_unexpected
  | mark m =>
    cases m with
    | star => exact restricts_step _ fun _ => hsingle Iff.rfl
    | question => exact restricts_step _ fun _ => h.predicate.bind fun _ => hsingle Iff.rfl
    | openParen =>
      exact restricts_step _ fun _ => restricts_step _ fun _ => h.predicate.bind fun _ =>
        restricts_step _ fun _ => hsingle Iff.rfl
    | atSign => exact restricts_step _ fun _ => h.segments
    | minus | colon => exact hposition
    | _ => exact restricts_unexpected

theorem within_ofItems (items : List Chain) :
    (ofItems items).Within σ ↔ ∀ chain ∈ items, ChainWithin σ chain := by
  unfold ofItems
  split
  · simp [ChainWithin]
  · exact unionWithin_iff

theorem restricts_bracket (h : l.Restricts σ m) :
    Restricts True (Selector.Within σ) (bracket l) (bracket m) :=
  restricts_step _ fun _ => restricts_step _ fun _ =>
    (restricts_separated (restricts_bracketItem h)).bind fun items =>
      restricts_step _ fun _ => restricts_pure (within_ofItems items).symm

theorem restricts_segment? (hf : small.IsPart large σ)
    (hbelow : Option.Rel (Level.Restricts σ) below below')
    (hp : Restricts True (Predicate.Within σ) p q) :
    Restricts True (fun r => ∀ chain ∈ r, ChainWithin σ chain) (segment? small below p)
      (segment? large below' q) := by
  refine restricts_step _ fun t => ?_
  split
  · exact restricts_step _ fun _ => (restricts_dotMember hf hp).bind fun s =>
      restricts_pure (by simp [ChainWithin])
  · exact restricts_step _ fun _ => (restricts_afterDescent σ).bind fun chain =>
      restricts_pure (by simp [ChainWithin, Selector.Within])
  · exact (restricts_nest hbelow fun _ _ h => restricts_bracket h).bind fun s =>
      restricts_pure (by simp [ChainWithin])
  · exact restricts_pure (by simp)

theorem restricts_segments (hf : small.IsPart large σ)
    (hbelow : Option.Rel (Level.Restricts σ) below below')
    (hp : Restricts True (Predicate.Within σ) p q) :
    Restricts True (ChainWithin σ) (List.flatten <$> many (segment? small below p))
      (List.flatten <$> many (segment? large below' q)) := by
  refine (restricts_many (restricts_segment? hf hbelow hp)).bind fun chains => restricts_pure ?_
  simp only [chainWithin_iff, List.mem_flatten]
  grind

/-! ## Predicates -/

variable {segments segments' : Parse Chain}

theorem restricts_primary (hf : small.IsPart large σ)
    (hp : Restricts True (Predicate.Within σ) p q)
    (hs : Restricts True (ChainWithin σ) segments segments') :
    Restricts True (Predicate.Within σ) (primary small p segments)
      (primary large q segments') := by
  refine restricts_step _ fun offset => restricts_step _ fun t => ?_
  cases t with
  | float | integer | string | boolean | null =>
    exact restricts_step _ fun _ => restricts_pure Iff.rfl
  | identifier => exact restricts_step _ fun _ => restricts_call hf hp _ _
  | regex | endOfText => exact restricts_unexpected
  | mark m =>
    cases m with
    | atSign =>
      refine restricts_step _ fun _ => hs.bind fun chain => restricts_pure ?_
      cases chain with
      | nil => exact Iff.rfl
      | cons => exact Iff.rfl
    | dollar =>
      refine restricts_step _ fun _ => hs.bind fun chain => restricts_pure ?_
      cases chain with
      | nil => exact iff_of_true trivial hf.root
      | cons => exact (and_iff_right hf.root).symm
    | openParen =>
      exact restricts_step _ fun _ => hp.bind fun _ => restricts_step _ fun _ =>
        restricts_pure Iff.rfl
    | _ => exact restricts_unexpected

theorem within_negated (p : Predicate) : (negated p).Within σ ↔ p.Within σ := by
  unfold negated
  split <;> exact Iff.rfl

theorem restricts_unaryOf (hbelow : Option.Rel (Level.Restricts σ) below below')
    (hp : Restricts True (Predicate.Within σ) p q) :
    Restricts True (Predicate.Within σ) (unaryOf below p) (unaryOf below' q) := by
  refine restricts_step _ fun t => ?_
  split
  · exact restricts_nest hbelow fun _ _ h => restricts_step _ fun _ => h.unary.bind fun _ =>
      restricts_pure Iff.rfl
  · exact restricts_nest hbelow fun _ _ h => restricts_step _ fun _ => h.unary.bind fun r =>
      restricts_pure (within_negated r).symm
  · exact hp

/-- A connective that joins two predicates and nothing else. -/
def Conjoins (σ : Scope) (combine : Predicate → Predicate → Predicate) : Prop :=
  ∀ p q : Predicate, (combine p q).Within σ ↔ p.Within σ ∧ q.Within σ

theorem restricts_chained (hbelow : Option.Rel (Level.Restricts σ) below below')
    {operator? : Token → Option (Predicate → Predicate → Predicate)}
    (hop : ∀ t, ∀ combine ∈ operator? t, Conjoins σ combine)
    {operand : Level → Parse Predicate}
    (hoperand : ∀ l m : Level, l.Restricts σ m →
      Restricts True (Predicate.Within σ) (operand l) (operand m))
    {rest : Level → Predicate → Parse Predicate}
    (hrest : ∀ l m : Level, l.Restricts σ m → ∀ left : Predicate,
      Restricts (left.Within σ) (Predicate.Within σ) (rest l left) (rest m left))
    (left : Predicate) :
    Restricts (left.Within σ) (Predicate.Within σ) (chained below operator? operand rest left)
      (chained below' operator? operand rest left) := by
  refine restricts_step _ fun t => ?_
  split
  · rename_i combine hcombine
    exact restricts_nest hbelow fun l m h => restricts_step _ fun _ =>
      ((hoperand l m h).under _).bind fun right =>
        (hrest l m h (combine left right)).congr (hop t combine hcombine left right).symm
  · exact restricts_pure Iff.rfl

theorem restricts_comparisonOf (hp : Restricts True (Predicate.Within σ) p q) :
    Restricts True (Predicate.Within σ) (comparisonOf p) (comparisonOf q) := by
  refine hp.bind fun left => restricts_step _ fun found => ?_
  split
  · exact restricts_step _ fun r => restricts_pure Iff.rfl
  · refine restricts_step _ fun t => ?_
    split
    · exact restricts_step _ fun _ => (hp.under _).bind fun right => restricts_pure Iff.rfl
    · exact restricts_pure Iff.rfl

theorem conjoins_operation (op : Operation) : Conjoins σ (.operation op) := fun _ _ => Iff.rfl

theorem conjoins_and : Conjoins σ .and := fun _ _ => Iff.rfl

theorem conjoins_or : Conjoins σ .or := fun _ _ => Iff.rfl

/-- **One level.** A level with the smaller table gives the part within the scope of what the level
with the larger table gives, if this is so of the levels below. -/
theorem restricts_above (hf : small.IsPart large σ)
    (hbelow : Option.Rel (Level.Restricts σ) below below') :
    (Level.above small below).Restricts σ (Level.above large below') := by
  have hpredicate : Restricts True (Predicate.Within σ) (nest below Level.disjunction)
      (nest below' Level.disjunction) := restricts_nest hbelow fun _ _ h => h.disjunction
  have hsegments := restricts_segments hf hbelow hpredicate
  have hunary := restricts_unaryOf hbelow (restricts_primary hf hpredicate hsegments)
  have hproductRest := restricts_chained hbelow
    (forall_operation? conjoins_operation productOperation?)
    (fun _ _ h => h.unary) (fun _ _ h => h.productRest)
  have hproduct := hunary.bind hproductRest
  have hsumRest := restricts_chained hbelow
    (forall_operation? conjoins_operation sumOperation?)
    (fun _ _ h => h.product) (fun _ _ h => h.sumRest)
  have hcomparison := restricts_comparisonOf (hproduct.bind hsumRest)
  have hconjunctionRest := restricts_chained hbelow
    (forall_connective conjoins_and .and)
    (fun _ _ h => h.comparison) (fun _ _ h => h.conjunctionRest)
  have hconjunction := hcomparison.bind hconjunctionRest
  have hdisjunctionRest := restricts_chained hbelow
    (forall_connective conjoins_or .or)
    (fun _ _ h => h.conjunction) (fun _ _ h => h.disjunctionRest)
  exact {
    predicate := hpredicate
    segments := hsegments
    unary := hunary
    product := hproduct
    comparison := hcomparison
    conjunction := hconjunction
    disjunction := hconjunction.bind hdisjunctionRest
    productRest := hproductRest
    sumRest := hsumRest
    conjunctionRest := hconjunctionRest
    disjunctionRest := hdisjunctionRest }

theorem restricts_ofRoom (hf : small.IsPart large σ) (n : Nat) :
    (Level.ofRoom small n).Restricts σ (Level.ofRoom large n) := by
  induction n with
  | zero => exact restricts_above hf .none
  | succ n ih => exact restricts_above hf (.some ih)

/-! ## Whole texts -/

/-- **Reading paths.** With the smaller table just those texts are read that with the larger one
are read to a chain within the scope, and to this chain. -/
theorem parsePath_isPart (hf : small.IsPart large σ) (text : String) (chain : Chain) :
    parsePath small text = .ok chain ↔ parsePath large text = .ok chain ∧ ChainWithin σ chain := by
  have hpath : Restricts True (ChainWithin σ) (path small) (path large) := by
    refine restricts_step _ fun _ => (restricts_ofRoom hf maxNesting).segments.bind fun c =>
      restricts_step _ fun t => ?_
    split
    · exact restricts_pure Iff.rfl
    · exact restricts_fail
    · exact restricts_fail
    · exact restricts_unexpected
  have hread (r : Registry) : parsePath r text = .ok chain ↔
      ∃ tokens, (lexemes text).check = .ok tokens ∧ ∃ L, path r tokens = .ok (chain, L) := by
    unfold parsePath readAll
    simp only [bind_eq_ok, pure_eq_ok, Prod.exists]
    grind
  rw [hread small, hread large]
  have hiff (tokens L : Lexemes) := hpath tokens chain L
  simp only [true_and] at hiff
  simp only [hiff]
  grind

/-- Without a table there are the built-in functions, which no table changes. -/
theorem isPart_empty (functions : Registry) : Registry.empty.IsPart functions .builtins := by
  refine ⟨fun name f => ?_, trivial⟩
  unfold Registry.resolve?
  cases hname : Builtin.ofName? name with
  | some b =>
    refine ⟨fun h => ⟨h, ?_⟩, And.left⟩
    obtain rfl := Option.some.inj h
    trivial
  | none =>
    constructor
    · intro h
      contradiction
    rintro ⟨h, hbuiltin⟩
    obtain ⟨g, -, rfl⟩ := Option.map_eq_some_iff.1 h
    exact hbuiltin.elim

end Query

namespace Expression

open Query

/-- **More functions change nothing.** A text compiles with the built-in functions only just when it
compiles with any further functions, whatever their names, arities and bodies, to an expression that
calls none of them; and it is the same expression. -/
theorem compile_empty_iff (functions : Registry) (text : String) (e : Expression) :
    compile .empty text = .ok e ↔
      compile functions text = .ok e ∧ ChainWithin .builtins e.selectors := by
  rw [compile_eq_ok, compile_eq_ok, parsePath_isPart (isPart_empty functions), and_assoc]

end Expression

end JsonPath

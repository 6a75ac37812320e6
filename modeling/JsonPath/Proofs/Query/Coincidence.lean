import JsonPath.Proofs.Query.Readers

/-!
# Readers that coincide

Two readers coincide if on sound tokens they do the same, faults included, and leave sound tokens.
What is put together from readers does the same when one of them is exchanged for another that
coincides with it. So to compare two ways of reading the grammar it is enough to compare the phrases
that they read differently.

* `Coincide.bind`, `coincide_many`, `coincide_separated` — a rule for each way in which readers are
  put together.
* `coincide_primary`, `coincide_chained`, … — phrases that only hand on what is inside of them.
* `Level.Coincides` — two levels, reader by reader.
-/

namespace JsonPath.Query

namespace Parse

variable {α β : Type} {P : α → Prop} {x y : Parse α} {f g : α → Parse β}

/-- Whether two readers do the same on sound tokens, and leave sound tokens. -/
def Coincide (x y : Parse α) : Prop :=
  ∀ L : Lexemes, L.Sound → x L = y L ∧ ∀ a L', y L = .ok (a, L') → L'.Sound

theorem Ensures.coincide (h : Ensures x P) : Coincide x x :=
  fun L hL => ⟨rfl, fun a L' heq => (h L hL a L' heq).2⟩

theorem Coincide.ensures (h : Coincide x y) : Ensures y fun _ => True :=
  fun L hL a L' heq => ⟨trivial, (h L hL).2 a L' heq⟩

/-- What comes after the second reader may rely on what it ensures. -/
theorem Coincide.bind_of (hx : Coincide x y) (hy : Ensures y P)
    (hf : ∀ a, P a → Coincide (f a) (g a)) : Coincide (x >>= f) (y >>= g) := by
  intro L hL
  rw [bind_apply, bind_apply, (hx L hL).1]
  cases hread : y L with
  | error e => exact ⟨rfl, nofun⟩
  | ok r =>
    obtain ⟨ha, hM⟩ := hy L hL r.1 r.2 hread
    exact hf r.1 ha r.2 hM

theorem Coincide.bind (hx : Coincide x y) (hf : ∀ a, Coincide (f a) (g a)) :
    Coincide (x >>= f) (y >>= g) :=
  hx.bind_of hx.ensures fun a _ => hf a

/-- Readers coincide that take the same first step and coincide after it. -/
theorem coincide_step (hx : Ensures x P) (hf : ∀ a, P a → Coincide (f a) (g a)) :
    Coincide (x >>= f) (x >>= g) :=
  hx.coincide.bind_of hx hf

theorem coincide_pure (a : α) : Coincide (pure a) (pure a) :=
  (ensures_pure (P := fun _ => True) trivial).coincide

theorem coincide_fail (fault : ParseFault) : Coincide (fail fault : Parse α) (fail fault) :=
  (ensures_fail (P := fun _ => True)).coincide

theorem coincide_failAt (offset : Nat) (fault : ParseFault) :
    Coincide (failAt offset fault : Parse α) (failAt offset fault) :=
  (ensures_failAt (P := fun _ => True)).coincide

theorem coincide_unexpected (expected : String) :
    Coincide (unexpected expected : Parse α) (unexpected expected) :=
  (ensures_unexpected (P := fun _ => True)).coincide

theorem Coincide.map (hx : Coincide x y) (f : α → β) : Coincide (f <$> x) (f <$> y) :=
  hx.bind fun a => coincide_pure (f a)

theorem coincide_many {one one' : Parse (Option α)} (h : Coincide one one') :
    Coincide (many one) (many one') := by
  have hgo : ∀ fuel, Coincide (many.go one fuel) (many.go one' fuel) := by
    intro fuel
    induction fuel with
    | zero => exact coincide_pure []
    | succ fuel ih =>
      rw [many_go_succ, many_go_succ]
      refine h.bind fun r => ?_
      cases r with
      | none => exact coincide_pure []
      | some a => exact ih.bind fun others => coincide_pure (a :: others)
  intro L
  exact hgo (L.length + 1) L

theorem coincide_separated {item item' : Parse α} (h : Coincide item item') :
    Coincide (separated item) (separated item') := by
  have hfurther : Coincide (furtherItem item) (furtherItem item') := by
    refine coincide_step ensures_accept fun found _ => ?_
    cases found with
    | false => exact coincide_pure none
    | true => exact h.bind fun a => coincide_pure (some a)
  exact h.bind fun first => (coincide_many hfurther).bind fun others =>
    coincide_pure (first :: others)

end Parse

open Parse

variable {functions : Registry} {p q : Parse Predicate} {segments segments' : Parse Chain}

/-! ## Calls -/

theorem coincide_arguments (hp : Coincide p q) (openOffset : Nat) :
    Coincide (arguments p openOffset) (arguments q openOffset) := by
  have hclose (args : List Predicate) :
      Coincide (do expectClosing .closeParen '(' openOffset; return args)
        (do expectClosing .closeParen '(' openOffset; return args) :=
    coincide_step ensures_expectClosing fun _ _ => coincide_pure args
  refine coincide_step ensures_current fun t _ => ?_
  dsimp only
  split
  · exact (coincide_pure []).bind hclose
  · exact (coincide_separated hp).bind hclose

theorem coincide_selectorCall (hp : Coincide p q) (name : String) (offset : Nat) :
    Coincide (selectorCall functions p name offset) (selectorCall functions q name offset) := by
  refine coincide_step ensures_resolve fun f _ => coincide_step ensures_offset fun openOffset _ =>
    coincide_step ensures_advance fun _ _ => (coincide_arguments hp openOffset).bind fun args => ?_
  split
  · exact coincide_failAt _ _
  · exact coincide_pure _

theorem coincide_call (hp : Coincide p q) (name : String) (offset : Nat) :
    Coincide (call functions p name offset) (call functions q name offset) := by
  refine coincide_step ensures_resolve fun f _ => coincide_step ensures_offset fun openOffset _ =>
    coincide_step ensures_expect fun _ _ => (coincide_arguments hp openOffset).bind fun args => ?_
  split
  · exact coincide_failAt _ _
  · exact coincide_pure _

theorem coincide_dotMember (hp : Coincide p q) :
    Coincide (dotMember functions p) (dotMember functions q) := by
  refine coincide_step ensures_offset fun offset _ => coincide_step ensures_current fun t _ => ?_
  split
  · exact coincide_step ensures_advance fun _ _ => coincide_pure _
  · exact coincide_step ensures_advance fun _ _ => coincide_pure _
  · split
    · exact coincide_unexpected _
    · refine coincide_step ensures_advance fun _ _ => coincide_step ensures_current fun _ _ => ?_
      split
      · exact coincide_selectorCall hp _ offset
      · exact coincide_pure _

/-! ## Predicates -/

theorem coincide_primary (functions : Registry) (hp : Coincide p q)
    (hs : Coincide segments segments') :
    Coincide (primary functions p segments) (primary functions q segments') := by
  refine coincide_step ensures_offset fun offset _ => coincide_step ensures_current fun t _ => ?_
  cases t with
  | float | integer | string | boolean | null =>
    exact coincide_step ensures_advance fun _ _ => coincide_pure _
  | identifier name => exact coincide_step ensures_advance fun _ _ => coincide_call hp name offset
  | regex | endOfText => exact coincide_unexpected _
  | mark m =>
    cases m with
    | atSign | dollar =>
      exact coincide_step ensures_advance fun _ _ => hs.bind fun _ => coincide_pure _
    | openParen =>
      exact coincide_step ensures_advance fun _ _ => hp.bind fun _ =>
        coincide_step ensures_expectClosing fun _ _ => coincide_pure _
    | _ => exact coincide_unexpected _

theorem coincide_comparisonOf (hp : Coincide p q) :
    Coincide (comparisonOf p) (comparisonOf q) := by
  refine hp.bind fun left => coincide_step ensures_accept fun found _ => ?_
  split
  · exact coincide_step ensures_regex fun r _ => coincide_pure _
  · refine coincide_step ensures_current fun t _ => ?_
    split
    · exact coincide_step ensures_advance fun _ _ => hp.bind fun right => coincide_pure _
    · exact coincide_pure left

/-! ## Levels -/

/-- Whether each reader of a level coincides with that of another one. -/
structure Level.Coincides (l m : Level) : Prop where
  predicate : Coincide l.predicate m.predicate
  segments : Coincide l.segments m.segments
  unary : Coincide l.unary m.unary
  product : Coincide l.product m.product
  comparison : Coincide l.comparison m.comparison
  conjunction : Coincide l.conjunction m.conjunction
  disjunction : Coincide l.disjunction m.disjunction
  productRest : ∀ left : Predicate, Coincide (l.productRest left) (m.productRest left)
  sumRest : ∀ left : Predicate, Coincide (l.sumRest left) (m.sumRest left)
  conjunctionRest : ∀ left : Predicate, Coincide (l.conjunctionRest left) (m.conjunctionRest left)
  disjunctionRest : ∀ left : Predicate, Coincide (l.disjunctionRest left) (m.disjunctionRest left)

variable {below below' : Option Level}

/-- At the last level both fail, and else the levels below read on. -/
theorem coincide_nest {α : Type} (hbelow : Option.Rel Level.Coincides below below')
    {read read' : Level → Parse α}
    (h : ∀ l m : Level, m ∈ below' → l.Coincides m → Coincide (read l) (read' m)) :
    Coincide (nest below read) (nest below' read') := by
  cases hbelow with
  | none => exact coincide_fail _
  | some hlevel => exact h _ _ rfl hlevel

theorem coincide_chained (hbelow : Option.Rel Level.Coincides below below')
    (operator? : Token → Option (Predicate → Predicate → Predicate))
    {operand : Level → Parse Predicate}
    (hoperand : ∀ l m : Level, l.Coincides m → Coincide (operand l) (operand m))
    {rest : Level → Predicate → Parse Predicate}
    (hrest : ∀ l m : Level, l.Coincides m → ∀ left, Coincide (rest l left) (rest m left))
    (left : Predicate) :
    Coincide (chained below operator? operand rest left)
      (chained below' operator? operand rest left) := by
  refine coincide_step ensures_current fun t _ => ?_
  split
  · rename_i combine _
    exact coincide_nest hbelow fun l m _ h => coincide_step ensures_advance fun _ _ =>
      (hoperand l m h).bind fun right => hrest l m h (combine left right)
  · exact coincide_pure left

end JsonPath.Query

import JsonPath.Proofs.Query.Phrases

/-!
# Reading with the levels there are

Whether a phrase can be read may depend on nothing but the levels that are left. `TakesIf room x ts
us a` says that from the tokens `ts` the reader `x` gives `a` and leaves `us` if `room` holds, and
that it reports too deep nesting if not. The rules are those for `Takes`, with a condition carried
along: a sequence needs the room that its parts need.

Predicates are read by phrases of increasing strength, each a phrase of the next strength and then
what may follow it. The phrases, and what follows in a row, are found here by their strength.

* `TakesIf.bind`, `takesIf_nest`, … — the rules with conditions.
* `Level.phrase`, `Level.row` — the readers of each strength.
* `takesIf_row` — an operator in a row needs one level, and what comes after it is read there.
-/

namespace JsonPath.Query

open Parse Level

variable {α β : Type} {x : Parse α} {f : α → Parse β} {ts us vs : List Token} {a : α} {b : β}
  {room more : Prop}

namespace Parse

/-- Whether a reader finds no level left on some tokens. -/
def TooDeep (x : Parse α) (ts : List Token) : Prop :=
  ∀ L : Lexemes, L.tokens? = some ts → ∃ o, x L = .error ⟨.nestingTooDeep maxNesting, o⟩

theorem tooDeep_iff : TooDeep x ts ↔ Fails x ts (.nestingTooDeep maxNesting) := Iff.rfl

theorem TooDeep.bind (h : TooDeep x ts) (f : α → Parse β) : TooDeep (x >>= f) ts :=
  tooDeep_iff.2 ((tooDeep_iff.1 h).bind f)

theorem Takes.bind_tooDeep (hx : Takes x ts us a) (hf : TooDeep (f a) us) :
    TooDeep (x >>= f) ts :=
  tooDeep_iff.2 (hx.bind_fails (tooDeep_iff.1 hf))

/-- Whether a reader gives a result if there is room, and finds no level left if there is not. -/
structure TakesIf (room : Prop) (x : Parse α) (ts us : List Token) (a : α) : Prop where
  takes : room → Takes x ts us a
  tooDeep : ¬room → TooDeep x ts

theorem Takes.takesIf (h : Takes x ts us a) (hroom : room) : TakesIf room x ts us a :=
  ⟨fun _ => h, fun hno => absurd hroom hno⟩

theorem TakesIf.congr (h : TakesIf room x ts us a) (hiff : more ↔ room) :
    TakesIf more x ts us a :=
  ⟨fun hmore => h.takes (hiff.1 hmore), fun hmore => h.tooDeep (mt hiff.2 hmore)⟩

theorem TakesIf.bind (hx : TakesIf room x ts us a) (hf : TakesIf more (f a) us vs b) :
    TakesIf (room ∧ more) (x >>= f) ts vs b := by
  refine ⟨fun h => (hx.takes h.1).bind (hf.takes h.2), fun h => ?_⟩
  by_cases hroom : room
  · exact (hx.takes hroom).bind_tooDeep (hf.tooDeep fun hmore => h ⟨hroom, hmore⟩)
  · exact (hx.tooDeep hroom).bind f

/-- A reader that needs no room may come first: there is room for both if there is for the second.
-/
theorem Takes.bindIf (hx : Takes x ts us a) (hf : TakesIf room (f a) us vs b) :
    TakesIf room (x >>= f) ts vs b :=
  ((hx.takesIf trivial).bind hf).congr (by simp)

/-- A reader that needs no room may come last: there is room for both if there is for the first. -/
theorem TakesIf.bindTakes (hx : TakesIf room x ts us a) (hf : Takes (f a) us vs b) :
    TakesIf room (x >>= f) ts vs b :=
  (hx.bind (hf.takesIf trivial)).congr (by simp)

theorem takesIf_offset_bind {f : Nat → Parse β} (hf : ∀ o, TakesIf room (f o) ts us b) :
    TakesIf room (offset >>= f) ts us b :=
  ⟨fun h => takes_offset_bind fun o => (hf o).takes h, fun h L => (hf L.offset).tooDeep h L⟩

end Parse

variable {functions : Registry} {n k : Nat} {p q r : Predicate}

/-- What is nested is read on the level below. -/
theorem takesIf_nest {read : Level → Parse α} (hroom : room → 0 < n)
    (h : ∀ m, m + 1 = n → TakesIf room (read (ofRoom functions m)) ts us a) :
    TakesIf room (nest (below functions n) read) ts us a := by
  cases n with
  | zero => exact ⟨fun hr => absurd (hroom hr) (lt_irrefl 0), fun _ L _ => ⟨L.offset, rfl⟩⟩
  | succ m => exact h m rfl

/-! ## Phrases by strength -/

namespace Level

/-- The reader of the phrases whose operators bind at least so strongly. -/
def phrase (level : Level) : Nat → Parse Predicate
  | 0 | 1 => level.disjunction
  | 2 => level.conjunction
  | 3 => level.comparison
  | 4 => level.sum
  | 5 => level.product
  | _ => level.unary

/-- The reader of what may follow a stronger phrase in a phrase of some strength. -/
def row (level : Level) : Nat → Predicate → Parse Predicate
  | 1 => level.disjunctionRest
  | 2 => level.conjunctionRest
  | 3 => level.comparisonRest
  | 4 => level.sumRest
  | 5 => level.productRest
  | _ => pure

theorem phrase_eq (functions : Registry) (n : Nat) (hk : 1 ≤ k) (hk' : k ≤ 5) :
    (ofRoom functions n).phrase k =
      (ofRoom functions n).phrase (k + 1) >>= (ofRoom functions n).row k := by
  interval_cases k
  · exact disjunction_eq functions n
  · exact conjunction_eq functions n
  · exact comparison_eq functions n
  · rfl
  · exact product_eq functions n

end Level

/-- Nothing follows where the next token binds less. -/
theorem takes_row (h : strength (front ts) < k) : Takes ((ofRoom functions n).row k p) ts ts p := by
  match k, h with
  | 1, h => exact takes_disjunctionRest h
  | 2, h => exact takes_conjunctionRest h
  | 3, h => exact takes_comparisonRest h
  | 4, h => exact takes_sumRest h
  | 5, h => exact takes_productRest h
  | _ + 6, _ => exact takes_pure

/-- A phrase is a phrase of every lower strength, before a token that binds less. -/
theorem takesIf_phrase {j : Nat} (h : TakesIf room ((ofRoom functions n).phrase j) ts us p)
    (hk : 1 ≤ k) (hkj : k ≤ j) (hj : j ≤ 6) (hstop : strength (front us) < k) :
    TakesIf room ((ofRoom functions n).phrase k) ts us p := by
  induction j, hkj using Nat.le_induction with
  | base => exact h
  | succ j hkj ih =>
    refine ih ?_ (by omega)
    rw [phrase_eq functions n (le_trans hk hkj) (by omega)]
    exact h.bindTakes (takes_row (by omega))

theorem takesIf_chained {operator? : Token → Option (Predicate → Predicate → Predicate)}
    {operand : Level → Parse Predicate} {rest : Level → Predicate → Parse Predicate} {t : Token}
    {combine : Predicate → Predicate → Predicate} (hop : operator? t = some combine)
    (hroom : room → 0 < n)
    (h : ∀ m, m + 1 = n → TakesIf room (operand (ofRoom functions m) >>= fun q =>
      rest (ofRoom functions m) (combine p q)) ts us r) :
    TakesIf room (chained (below functions n) operator? operand rest p) (t :: ts) us r := by
  refine takes_current.bindIf ?_
  rw [front_cons, hop]
  exact takesIf_nest hroom fun m hm => (takes_advance t ts).bindIf (h m hm)

/-! ## Operators -/

/-- The operators between two operands. -/
inductive Connective where
  | or
  | and
  | comparison (op : Comparison)
  | operation (op : Operation)

namespace Connective

def mark : Connective → Mark
  | or => .or
  | and => .and
  | comparison op => op.mark
  | operation op => op.mark

/-- The predicate of two operands. -/
def combine : Connective → Predicate → Predicate → Predicate
  | or => .or
  | and => .and
  | comparison op => .comparison op
  | operation op => .operation op

/-- How strongly an operator binds. -/
def strength : Connective → Nat
  | or => 1
  | and => 2
  | comparison _ => 3
  | operation .add | operation .subtract => 4
  | operation .multiply | operation .divide | operation .modulo => 5

/-- Whether there may be several in a row, which then are grouped from the left. -/
def isChained : Connective → Bool
  | comparison _ => false
  | or | and | operation _ => true

variable {c : Connective}

theorem one_le_strength (c : Connective) : 1 ≤ c.strength := by
  cases c with
  | operation op => cases op <;> decide
  | _ => simp [strength]

theorem strength_le_five (c : Connective) : c.strength ≤ 5 := by
  cases c with
  | operation op => cases op <;> decide
  | _ => simp [strength]

theorem strength_ne_three (hc : c.isChained) : c.strength ≠ 3 := by
  cases c with
  | comparison op => contradiction
  | operation op => cases op <;> decide
  | _ => decide

@[simp] theorem strength_mark (c : Connective) : Query.strength (.mark c.mark) = c.strength := by
  cases c with
  | comparison op | operation op => cases op <;> rfl
  | _ => rfl

theorem mark_ne_matchSign (c : Connective) : c.mark ≠ .matchSign := by
  cases c with
  | comparison op => exact op.mark_ne_matchSign
  | operation op => exact op.mark_ne_matchSign
  | _ => simp [mark]

end Connective

/-- **One more operator.** An operator in a row takes a level. On it its right operand is read, and
then what follows in the row. -/
theorem takesIf_row {c : Connective} (hc : c.isChained) (hroom : room → 0 < n)
    (h : ∀ m, m + 1 = n → TakesIf room ((ofRoom functions m).phrase (c.strength + 1) >>= fun q =>
      (ofRoom functions m).row c.strength (c.combine p q)) ts us r) :
    TakesIf room ((ofRoom functions n).row c.strength p) (.mark c.mark :: ts) us r := by
  rw [ofRoom_eq]
  cases c with
  | comparison op => contradiction
  | or | and => exact takesIf_chained (if_pos rfl) hroom h
  | operation op => cases op <;> exact takesIf_chained rfl hroom h

theorem takesIf_comparisonRest (op : Comparison)
    (h : TakesIf room (ofRoom functions n).sum ts us q) :
    TakesIf room ((ofRoom functions n).comparisonRest p) (.mark op.mark :: ts) us
      (.comparison op p q) := by
  refine (takes_accept_none (by simpa using op.mark_ne_matchSign)).bindIf ?_
  rw [if_neg Bool.false_ne_true]
  refine takes_current.bindIf ?_
  have hop : comparison? (.mark op.mark) = some op := by cases op <;> rfl
  rw [front_cons, hop]
  exact (takes_advance _ ts).bindIf (h.bindTakes takes_pure)

/-! ## Operands -/

theorem takesIf_not (hroom : room → 0 < n)
    (h : ∀ m, m + 1 = n → TakesIf room (ofRoom functions m).unary ts us p) :
    TakesIf room (ofRoom functions n).unary (.mark .not :: ts) us (.not p) := by
  rw [unary_eq]
  exact takes_current.bindIf (takesIf_nest hroom fun m hm =>
    (takes_advance _ ts).bindIf ((h m hm).bindTakes takes_pure))

/-- Only numbers take a sign into themselves. -/
theorem negated_eq_negate (hp : p.isNumber = false) : negated p = .negate p := by
  cases p with
  | literal v => cases v <;> first | rfl | contradiction
  | _ => rfl

theorem takesIf_minus (hroom : room → 0 < n)
    (h : ∀ m, m + 1 = n → TakesIf room (ofRoom functions m).unary ts us p) :
    TakesIf room (ofRoom functions n).unary (.mark .minus :: ts) us (negated p) := by
  rw [unary_eq]
  exact takes_current.bindIf (takesIf_nest hroom fun m hm =>
    (takes_advance _ ts).bindIf ((h m hm).bindTakes takes_pure))

theorem takesIf_predicate (hroom : room → 0 < n)
    (h : ∀ m, m + 1 = n → TakesIf room (ofRoom functions m).disjunction ts us p) :
    TakesIf room (ofRoom functions n).predicate ts us p := by
  rw [ofRoom_eq]
  exact takesIf_nest hroom h

theorem takesIf_parenthesized (hroom : room → 0 < n)
    (h : ∀ m, m + 1 = n →
      TakesIf room (ofRoom functions m).disjunction ts (.mark .closeParen :: us) p) :
    TakesIf room (ofRoom functions n).unary (.mark .openParen :: ts) us p := by
  rw [unary_eq]
  exact takes_current.bindIf (takesIf_offset_bind fun _ => takes_current.bindIf
    ((takes_advance _ ts).bindIf ((takesIf_predicate hroom h).bindTakes
      ((takes_expectClosing _ _ _ us).bind takes_pure))))

/-! ## Whole texts -/

theorem readAll_of_tooDeep {read : Parse α} {text : String}
    (htext : (lexemes text).tokens? = some ts) (h : TooDeep read ts) :
    ∃ o, readAll read text = .error ⟨.nestingTooDeep maxNesting, o⟩ :=
  readAll_of_fails htext (tooDeep_iff.1 h)

end JsonPath.Query

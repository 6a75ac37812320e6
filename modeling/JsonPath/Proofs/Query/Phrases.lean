import JsonPath.Proofs.Query.Steps
import JsonPath.Proofs.Query.Tokens

/-!
# What the readers of phrases take

The rules for readers, put together for each phrase of the grammar: which tokens an operand, a
call, a segment or an item in brackets is read from, given what is read from its parts. A phrase
ends where the token after it binds what is before it less than the phrase would need.

* `strength` — how strongly a token binds what is before it.
* `takes_parenthesized`, `takes_call`, `takes_selectorCall`, `takes_bracket`, … — one rule for each
  phrase.
-/

namespace JsonPath.Query

open Parse

/-! ## The token after a phrase -/

/-- How strongly a token binds what is before it: paths go on first, then products, and so on. What
closes a phrase binds nothing. -/
def strength : Token → Nat
  | .endOfText | .mark .closeParen | .mark .closeBracket | .mark .comma => 0
  | .mark .or => 1
  | .mark .and => 2
  | .mark .equal | .mark .notEqual | .mark .less | .mark .lessEqual | .mark .greater
  | .mark .greaterEqual | .mark .matchSign => 3
  | .mark .plus | .mark .minus => 4
  | .mark .star | .mark .slash | .mark .percent => 5
  | _ => 6

variable {t : Token} {functions : Registry} {n : Nat} {ts us vs : List Token} {p q r : Predicate}

theorem productOperation?_eq_none (h : strength t < 5) : productOperation? t = none := by
  unfold productOperation?
  split <;> first | rfl | exact absurd h (by decide)

theorem sumOperation?_eq_none (h : strength t < 4) : sumOperation? t = none := by
  unfold sumOperation?
  split <;> first | rfl | exact absurd h (by decide)

theorem comparison?_eq_none (h : strength t < 3) : comparison? t = none := by
  unfold comparison?
  split <;> first | rfl | exact absurd h (by decide)

theorem ne_mark_of_strength {m : Mark} (h : strength t < strength (.mark m)) : t ≠ .mark m := by
  rintro rfl
  exact absurd h (lt_irrefl _)

/-! ## Levels -/

namespace Level

/-- The level below one with some room. -/
def below (functions : Registry) : Nat → Option Level
  | 0 => none
  | n + 1 => some (ofRoom functions n)

theorem ofRoom_eq (functions : Registry) (n : Nat) :
    ofRoom functions n = above functions (below functions n) := by
  cases n <;> rfl

theorem product_eq (functions : Registry) (n : Nat) : (ofRoom functions n).product =
    (ofRoom functions n).unary >>= (ofRoom functions n).productRest := by
  rw [ofRoom_eq]
  rfl


theorem conjunction_eq (functions : Registry) (n : Nat) : (ofRoom functions n).conjunction =
    (ofRoom functions n).comparison >>= (ofRoom functions n).conjunctionRest := by
  rw [ofRoom_eq]
  rfl

theorem disjunction_eq (functions : Registry) (n : Nat) : (ofRoom functions n).disjunction =
    (ofRoom functions n).conjunction >>= (ofRoom functions n).disjunctionRest := by
  rw [ofRoom_eq]
  rfl

theorem predicate_succ (functions : Registry) (n : Nat) :
    (ofRoom functions (n + 1)).predicate = (ofRoom functions n).disjunction := rfl

theorem segments_eq (functions : Registry) (n : Nat) : (ofRoom functions n).segments =
    List.flatten <$>
      many (segment? functions (below functions n) (ofRoom functions n).predicate) := by
  rw [ofRoom_eq]
  rfl

theorem unary_eq (functions : Registry) (n : Nat) : (ofRoom functions n).unary =
    unaryOf (below functions n)
      (primary functions (ofRoom functions n).predicate (ofRoom functions n).segments) := by
  rw [ofRoom_eq]
  rfl

/-- What a sum is read by, which may be compared. -/
abbrev sum (level : Level) : Parse Predicate := level.product >>= level.sumRest

/-- What follows the first sum of a comparison. -/
def comparisonRest (level : Level) (left : Predicate) : Parse Predicate := do
  if ← accept .matchSign then return .search left (← regex)
  else
    match comparison? (← current) with
    | some op =>
      advance
      return .comparison op left (← level.sum)
    | none => return left

theorem comparison_eq (functions : Registry) (n : Nat) : (ofRoom functions n).comparison =
    (ofRoom functions n).sum >>= (ofRoom functions n).comparisonRest := by
  rw [ofRoom_eq]
  rfl

end Level

open Level

variable {lower : Option Level} {operator? : Token → Option (Predicate → Predicate → Predicate)}
  {operand : Level → Parse Predicate} {rest : Level → Predicate → Parse Predicate}

/-- What holds of the operators of a kind holds of each that a token stands for. -/
theorem forall_operation? {J : (Predicate → Predicate → Predicate) → Prop}
    (h : ∀ op, J (.operation op)) (operation? : Token → Option Operation) (t : Token) :
    ∀ combine ∈ (operation? t).map Predicate.operation, J combine := by
  intro combine hcombine
  obtain ⟨op, -, rfl⟩ := Option.map_eq_some_iff.1 hcombine
  exact h op

theorem forall_connective {J : (Predicate → Predicate → Predicate) → Prop}
    {connective : Predicate → Predicate → Predicate} (h : J connective) (m : Mark) (t : Token) :
    ∀ combine ∈ (if t == .mark m then some connective else none), J combine := by
  intro combine hcombine
  split at hcombine
  · obtain rfl := Option.some.inj hcombine
    exact h
  · contradiction

theorem takes_chained_none (h : operator? (front ts) = none) :
    Takes (chained lower operator? operand rest p) ts ts p := by
  refine takes_current.bind ?_
  rw [h]
  exact takes_pure

theorem takes_chained_some {level : Level} (combine : Predicate → Predicate → Predicate)
    (h : operator? t = some combine) (hright : Takes (operand level) ts us q)
    (hrest : Takes (rest level (combine p q)) us vs r) :
    Takes (chained (some level) operator? operand rest p) (t :: ts) vs r := by
  refine takes_current.bind ?_
  rw [front_cons, h]
  exact (takes_advance t ts).bind (hright.bind hrest)

theorem takes_productRest (h : strength (front ts) < 5) :
    Takes ((ofRoom functions n).productRest p) ts ts p := by
  rw [ofRoom_eq]
  exact takes_chained_none (by rw [productOperation?_eq_none h]; rfl)

theorem takes_sumRest (h : strength (front ts) < 4) :
    Takes ((ofRoom functions n).sumRest p) ts ts p := by
  rw [ofRoom_eq]
  exact takes_chained_none (by rw [sumOperation?_eq_none h]; rfl)

theorem takes_conjunctionRest (h : strength (front ts) < 2) :
    Takes ((ofRoom functions n).conjunctionRest p) ts ts p := by
  rw [ofRoom_eq]
  exact takes_chained_none (if_neg (by simpa using ne_mark_of_strength (m := .and) h))

theorem takes_disjunctionRest (h : strength (front ts) < 1) :
    Takes ((ofRoom functions n).disjunctionRest p) ts ts p := by
  rw [ofRoom_eq]
  exact takes_chained_none (if_neg (by simpa using ne_mark_of_strength (m := .or) h))

theorem takes_sum (h : Takes (ofRoom functions n).unary ts us p) (hstop : strength (front us) < 4) :
    Takes (ofRoom functions n).sum ts us p := by
  rw [Level.sum, product_eq]
  exact (h.bind (takes_productRest (by omega))).bind (takes_sumRest hstop)

theorem takes_comparisonRest (h : strength (front ts) < 3) :
    Takes ((ofRoom functions n).comparisonRest p) ts ts p := by
  refine (takes_accept_none (ne_mark_of_strength (m := .matchSign) h)).bind ?_
  rw [if_neg Bool.false_ne_true]
  refine takes_current.bind ?_
  rw [comparison?_eq_none h]
  exact takes_pure

theorem takes_comparison_of_sum (h : Takes (ofRoom functions n).sum ts us p)
    (hstop : strength (front us) < 3) : Takes (ofRoom functions n).comparison ts us p := by
  rw [comparison_eq]
  exact h.bind (takes_comparisonRest hstop)

theorem takes_disjunction_of_comparison (h : Takes (ofRoom functions n).comparison ts us p)
    (hstop : strength (front us) < 1) : Takes (ofRoom functions n).disjunction ts us p := by
  rw [disjunction_eq, conjunction_eq]
  exact (h.bind (takes_conjunctionRest (by omega))).bind (takes_disjunctionRest hstop)

theorem takes_disjunction (h : Takes (ofRoom functions n).unary ts us p)
    (hstop : strength (front us) < 1) : Takes (ofRoom functions n).disjunction ts us p :=
  takes_disjunction_of_comparison
    (takes_comparison_of_sum (takes_sum h (by omega)) (by omega)) hstop

/-! ## Operators -/

theorem takes_comparison {op : Comparison}
    (hl : Takes (ofRoom functions n).sum ts (.mark op.mark :: us) p)
    (hr : Takes (ofRoom functions n).sum us vs q) :
    Takes (ofRoom functions n).comparison ts vs (.comparison op p q) := by
  rw [comparison_eq]
  refine hl.bind ((takes_accept_none (by simpa using op.mark_ne_matchSign)).bind ?_)
  rw [if_neg Bool.false_ne_true]
  refine takes_current.bind ?_
  have hop : comparison? (.mark op.mark) = some op := by cases op <;> rfl
  rw [front_cons, hop]
  exact (takes_advance _ us).bind (hr.bind takes_pure)

theorem takes_search {r : RegexLiteral} (hr : regexLiteral r.source r.flags = .ok r)
    (hl : Takes (ofRoom functions n).sum ts (.mark .matchSign :: .regex r.source r.flags :: us) p) :
    Takes (ofRoom functions n).comparison ts us (.search p r) := by
  rw [comparison_eq]
  refine hl.bind ((takes_accept .matchSign _).bind ?_)
  rw [if_pos rfl]
  have hregex : Takes regex (.regex r.source r.flags :: us) us r := by
    refine takes_current.bind ?_
    rw [front_cons]
    dsimp only
    rw [hr]
    exact (takes_advance _ us).bind takes_pure
  exact hregex.bind takes_pure

/-- An operand, an operator and an operand of the level below are read as an operation. -/
theorem takes_operation {op : Operation}
    (hl : Takes (ofRoom functions (n + 1)).unary ts (.mark op.mark :: us) p)
    (hr : Takes (ofRoom functions n).unary us vs q) (hstop : strength (front vs) < 1) :
    Takes (ofRoom functions (n + 1)).disjunction ts vs (.operation op p q) := by
  refine takes_disjunction_of_comparison (takes_comparison_of_sum ?_ (by omega)) hstop
  have hproduct (hop : productOperation? (.mark op.mark) = some op) :
      Takes (ofRoom functions (n + 1)).sum ts vs (.operation op p q) := by
    rw [Level.sum, product_eq]
    refine (hl.bind (takes_chained_some (.operation op) ?_ hr
      (takes_productRest (by omega)))).bind (takes_sumRest (by omega))
    rw [hop]
    rfl
  have hsum (hop : sumOperation? (.mark op.mark) = some op)
      (hweak : strength (.mark op.mark) < 5) :
      Takes (ofRoom functions (n + 1)).sum ts vs (.operation op p q) := by
    have hright : Takes (ofRoom functions n).product us vs q := by
      rw [product_eq]
      exact hr.bind (takes_productRest (by omega))
    rw [Level.sum, product_eq]
    refine (hl.bind (takes_productRest hweak)).bind
      (takes_chained_some (.operation op) ?_ hright (takes_sumRest (by omega)))
    rw [hop]
    rfl
  cases op with
  | add | subtract => exact hsum rfl (by decide)
  | multiply | divide | modulo => exact hproduct rfl

theorem takes_and (hl : Takes (ofRoom functions (n + 1)).comparison ts (.mark .and :: us) p)
    (hr : Takes (ofRoom functions n).comparison us vs q) (hstop : strength (front vs) < 1) :
    Takes (ofRoom functions (n + 1)).disjunction ts vs (.and p q) := by
  rw [disjunction_eq, conjunction_eq]
  exact (hl.bind (takes_chained_some _ (if_pos rfl) hr (takes_conjunctionRest (by omega)))).bind
    (takes_disjunctionRest hstop)

theorem takes_or (hl : Takes (ofRoom functions (n + 1)).comparison ts (.mark .or :: us) p)
    (hr : Takes (ofRoom functions n).comparison us vs q) (hstop : strength (front vs) < 1) :
    Takes (ofRoom functions (n + 1)).disjunction ts vs (.or p q) := by
  have hright : Takes (ofRoom functions n).conjunction us vs q := by
    rw [conjunction_eq]
    exact hr.bind (takes_conjunctionRest (by omega))
  rw [disjunction_eq, conjunction_eq]
  exact (hl.bind (takes_conjunctionRest (by simp [strength]))).bind
    (takes_chained_some _ (if_pos rfl) hright (takes_disjunctionRest hstop))

/-! ## Operands -/

/-- The literal that a token stands for. -/
def literal? : Token → Option Value
  | .float x => some (.float x)
  | .integer i => some (.int i)
  | .string s => some (.string s)
  | .boolean b => some (.bool b)
  | .null => some .null
  | .identifier _ | .regex _ _ | .mark _ | .endOfText => none

theorem takes_literal {v : Value} (h : literal? t = some v) (ts : List Token) :
    Takes (ofRoom functions n).unary (t :: ts) ts (.literal v) := by
  rw [unary_eq]
  cases t with
  | identifier | regex | mark | endOfText => simp [literal?] at h
  | _ =>
    obtain rfl := Option.some.inj h
    exact takes_current.bind
      (takes_offset_bind fun _ => takes_current.bind ((takes_advance _ ts).bind takes_pure))

theorem takes_minus (h : Takes (ofRoom functions n).unary ts us p) :
    Takes (ofRoom functions (n + 1)).unary (.mark .minus :: ts) us (negated p) := by
  rw [unary_eq]
  exact takes_current.bind ((takes_advance _ ts).bind (h.bind takes_pure))

theorem takes_not (h : Takes (ofRoom functions n).unary ts us p) :
    Takes (ofRoom functions (n + 1)).unary (.mark .not :: ts) us (.not p) := by
  rw [unary_eq]
  exact takes_current.bind ((takes_advance _ ts).bind (h.bind takes_pure))

theorem takes_parenthesized
    (h : Takes (ofRoom functions n).disjunction ts (.mark .closeParen :: us) p) :
    Takes (ofRoom functions (n + 1)).unary (.mark .openParen :: ts) us p := by
  rw [unary_eq, predicate_succ]
  exact takes_current.bind (takes_offset_bind fun _ => takes_current.bind
    ((takes_advance _ ts).bind (h.bind ((takes_expectClosing _ _ _ us).bind takes_pure))))

theorem takes_fromCurrent {chain : Chain} (h : Takes (ofRoom functions n).segments ts us chain) :
    Takes (ofRoom functions n).unary (.mark .atSign :: ts) us
      (if chain.isEmpty then .current else .fromCurrent chain) := by
  rw [unary_eq]
  exact takes_current.bind (takes_offset_bind fun _ => takes_current.bind
    ((takes_advance _ ts).bind (h.bind takes_pure)))

theorem takes_fromRoot {chain : Chain} (h : Takes (ofRoom functions n).segments ts us chain) :
    Takes (ofRoom functions n).unary (.mark .dollar :: ts) us
      (if chain.isEmpty then .root else .fromRoot chain) := by
  rw [unary_eq]
  exact takes_current.bind (takes_offset_bind fun _ => takes_current.bind
    ((takes_advance _ ts).bind (h.bind takes_pure)))

/-! ## Calls -/

theorem takes_resolve {name : String} {f : Function} (h : functions.resolve? name = some f)
    (o : Nat) (ts : List Token) : Takes (resolve functions name o) ts ts f := by
  rw [resolve, h]
  exact takes_pure

theorem takes_arguments_nil (predicate : Parse Predicate) (o : Nat) (ts : List Token) :
    Takes (arguments predicate o) (.mark .closeParen :: ts) ts [] :=
  takes_current.bind (takes_pure.bind ((takes_expectClosing _ _ _ ts).bind takes_pure))

theorem takes_arguments {predicate : Parse Predicate} {args : List Predicate}
    (hstart : startsOperand (front ts))
    (h : Takes (separated predicate) ts (.mark .closeParen :: us) args) (o : Nat) :
    Takes (arguments predicate o) ts us args := by
  refine takes_current.bind ?_
  have hopen : (front ts == .mark .closeParen || front ts == .endOfText) = false := by
    rw [Bool.or_eq_false_iff, beq_eq_false_iff_ne, beq_eq_false_iff_ne]
    constructor <;>
    · intro heq
      rw [heq] at hstart
      contradiction
  rw [hopen, if_neg Bool.false_ne_true]
  exact h.bind ((takes_expectClosing _ _ _ us).bind takes_pure)

theorem takes_call {f : Function} {args : List Predicate} (hf : functions.resolve? f.name = some f)
    (hword : wordToken f.name = .identifier f.name) (harity : callArityFault? f args.length = none)
    (h : ∀ o, Takes (arguments (ofRoom functions n).predicate o) ts us args) :
    Takes (ofRoom functions n).unary (wordToken f.name :: .mark .openParen :: ts) us
      (.call f args) := by
  rw [unary_eq, hword]
  refine takes_current.bind (takes_offset_bind fun o => takes_current.bind
    ((takes_advance _ _).bind ((takes_resolve hf o _).bind (takes_offset_bind fun _ =>
      (takes_expect _ _ ts).bind ((h _).bind ?_)))))
  rw [harity]
  exact takes_pure

/-! ## Segments -/

variable {predicate : Parse Predicate}

theorem takes_segment?_none (h : strength (front ts) < 6) :
    Takes (segment? functions lower predicate) ts ts none := by
  refine takes_current.bind ?_
  split <;> first | exact takes_pure | (rename_i heq; rw [heq] at h; exact absurd h (by decide))

theorem takes_wildMember (ts : List Token) : Takes (segment? functions lower predicate)
    (.mark .dot :: .mark .star :: ts) ts (some [.wildMember]) := by
  have hmember : Takes (dotMember functions predicate) (.mark .star :: ts) ts .wildMember := by
    refine takes_offset_bind fun _ => takes_current.bind ?_
    exact (takes_advance _ ts).bind takes_pure
  exact takes_current.bind ((takes_advance _ _).bind (hmember.bind takes_pure))

/-- Any name may be that of a member, the words for literals too. -/
theorem memberName?_wordToken (name : String) : memberName? (wordToken name) = some name := by
  unfold wordToken
  split_ifs with htrue hfalse hnull
  · simp [memberName?, beq_iff_eq.1 htrue]
  · simp [memberName?, beq_iff_eq.1 hfalse]
  · simp [memberName?, beq_iff_eq.1 hnull]
  · rfl

/-- A word after a dot is a name or a call, as the token after it tells. -/
theorem takes_dotMember_word {name : String} {s : Selector}
    (h : ∀ o, Takes (if front ts == .mark .openParen then selectorCall functions predicate name o
      else return .name name) ts us s) :
    Takes (dotMember functions predicate) (wordToken name :: ts) us s := by
  refine takes_offset_bind fun o => takes_current.bind ?_
  have hname := memberName?_wordToken name
  rw [front_cons]
  split
  · rename_i heq
    simp [heq, memberName?] at hname
  · rename_i heq
    simp [heq, memberName?] at hname
  · rw [hname]
    exact (takes_advance _ _).bind (takes_current.bind (h o))

theorem takes_dotName {name : String} (h : front ts ≠ .mark .openParen) :
    Takes (segment? functions lower predicate) (.mark .dot :: wordToken name :: ts) ts
      (some [.name name]) := by
  refine takes_current.bind ((takes_advance _ _).bind (Takes.bind ?_ takes_pure))
  refine takes_dotMember_word fun o => ?_
  rw [if_neg (by simpa using h)]
  exact takes_pure

theorem takes_dotIndex (i : Int64) (ts : List Token) : Takes (segment? functions lower predicate)
    (.mark .dot :: .integer i :: ts) ts (some [.index i]) := by
  have hmember : Takes (dotMember functions predicate) (.integer i :: ts) ts (.index i) := by
    refine takes_offset_bind fun _ => takes_current.bind ?_
    exact (takes_advance _ ts).bind takes_pure
  exact takes_current.bind ((takes_advance _ _).bind (hmember.bind takes_pure))

/-- A number with a point is no member. -/
theorem fails_dotFloat (x : Float) (ts : List Token) : Fails (segment? functions lower predicate)
    (.mark .dot :: .float x :: ts)
    (.unexpectedToken (Token.float x).description "member name") := by
  have hmember : Fails (dotMember functions predicate) (.float x :: ts)
      (.unexpectedToken (Token.float x).description "member name") :=
    fails_offset_bind fun _ => takes_current.bind_fails (fails_unexpected _ (by simp))
  exact takes_current.bind_fails ((takes_advance _ _).bind_fails (hmember.bind _))

theorem takes_selectorCall {f : Function} {args : List Predicate}
    (hf : functions.resolve? f.name = some f) (harity : selectorArityFault? f args.length = none)
    (h : ∀ o, Takes (arguments predicate o) ts us args) : Takes (segment? functions lower predicate)
      (.mark .dot :: wordToken f.name :: .mark .openParen :: ts) us (some [.call f args]) := by
  refine takes_current.bind ((takes_advance _ _).bind (Takes.bind ?_ takes_pure))
  refine takes_dotMember_word fun o => ?_
  rw [front_cons, if_pos (beq_self_eq_true _)]
  refine (takes_resolve hf o _).bind (takes_offset_bind fun _ =>
    (takes_advance _ ts).bind ((h _).bind ?_))
  rw [harity]
  exact takes_pure

theorem takes_segments {chain : List Selector} {rest : List Token}
    (h : TakesMany (segment? functions (below functions n) (ofRoom functions n).predicate)
      ts rest (chain.map fun s => [s])) : Takes (ofRoom functions n).segments ts rest chain := by
  rw [segments_eq]
  have hflat := h.takes.map List.flatten
  rwa [← List.flatMap_def, List.flatMap_singleton'] at hflat

theorem fails_segments {fault : ParseFault}
    (h : FailsMany (segment? functions (below functions n) (ofRoom functions n).predicate)
      ts fault) : Fails (ofRoom functions n).segments ts fault := by
  rw [segments_eq]
  exact h.fails.map List.flatten

theorem takes_segments_nil {rest : List Token} (hstop : strength (front rest) < 6) :
    Takes (ofRoom functions n).segments rest rest [] :=
  takes_segments (.nil (takes_segment?_none hstop))

/-- A descent by itself: nothing that may go with it comes next. -/
theorem takes_descent (hstar : front ts ≠ .mark .star) (hname : memberName? (front ts) = none) :
    Takes (segment? functions lower predicate) (.mark .dotDot :: ts) ts (some [.descent]) := by
  refine takes_current.bind ((takes_advance _ ts).bind (Takes.bind (a := []) ?_ takes_pure))
  refine takes_current.bind ?_
  split
  · rename_i heq
    exact absurd heq hstar
  · rw [hname]
    exact takes_pure

/-! ## Brackets -/

theorem takes_bracket (predicate : Parse Predicate) {items : List Chain}
    (h : Takes (separated (bracketItem (ofRoom functions n))) ts
      (.mark .closeBracket :: us) items) :
    Takes (segment? functions (below functions (n + 1)) predicate) (.mark .openBracket :: ts) us
      (some [ofItems items]) := by
  have hbracket : Takes (bracket (ofRoom functions n)) (.mark .openBracket :: ts) us
      (ofItems items) := by
    refine takes_offset_bind fun _ => (takes_advance _ ts).bind (h.bind ?_)
    exact (takes_expectClosing _ _ _ us).bind takes_pure
  exact takes_current.bind (hbracket.bind takes_pure)

/-- A single item in brackets is its own selector. -/
theorem takes_bracket_single (predicate : Parse Predicate) {s : Selector}
    (h : Takes (bracketItem (ofRoom functions n)) ts (.mark .closeBracket :: us) [s]) :
    Takes (segment? functions (below functions (n + 1)) predicate) (.mark .openBracket :: ts) us
      (some [s]) := by
  have hitems : Takes (separated (bracketItem (ofRoom functions n))) ts (.mark .closeBracket :: us)
      [[s]] := takes_separated h (.nil (takes_furtherItem_none (by simp)))
  exact takes_bracket predicate hitems

theorem takes_item_name (level : Level) (name : String) (ts : List Token) :
    Takes (bracketItem level) (.string name :: ts) ts [.name name] :=
  takes_current.bind ((takes_advance _ ts).bind takes_pure)

theorem takes_item_star (level : Level) (ts : List Token) :
    Takes (bracketItem level) (.mark .star :: ts) ts [.wildElement] :=
  takes_current.bind ((takes_advance _ ts).bind takes_pure)

theorem takes_item_filter (level : Level) (h : Takes level.predicate ts us p) :
    Takes (bracketItem level) (.mark .question :: ts) us [.filter p] :=
  takes_current.bind ((takes_advance _ ts).bind (h.bind takes_pure))

theorem takes_item_computed (level : Level)
    (h : Takes level.predicate ts (.mark .closeParen :: us) p) :
    Takes (bracketItem level) (.mark .openParen :: ts) us [.computed p] :=
  takes_current.bind (takes_offset_bind fun _ => (takes_advance _ ts).bind
    (h.bind ((takes_expectClosing _ _ _ us).bind takes_pure)))

theorem takes_item_path {level : Level} {chain : Chain} (h : Takes level.segments ts us chain) :
    Takes (bracketItem level) (.mark .atSign :: ts) us chain :=
  takes_current.bind ((takes_advance _ ts).bind h)

/-! ### Positions and slices -/

theorem takes_signed {i : Int64} (ts : List Token) :
    Takes signed (intTokens i ++ ts) ts (some i) := by
  unfold intTokens
  split
  · have hsigned : Takes signed (.mark .minus :: .integer (-i) :: ts) ts (some (- -i)) := by
      refine (takes_accept .minus _).bind (takes_current.bind ?_)
      exact (takes_advance (.integer (-i)) ts).bind takes_pure
    rwa [Int64.neg_neg] at hsigned
  · refine (takes_accept_none (by simp)).bind (takes_current.bind ?_)
    exact (takes_advance (.integer i) ts).bind takes_pure

theorem takes_signed_none (hminus : front ts ≠ .mark .minus)
    (hinteger : ∀ i, front ts ≠ .integer i) : Takes signed ts ts none := by
  refine (takes_accept_none hminus).bind (takes_current.bind ?_)
  split
  · rename_i heq
    exact absurd heq (hinteger _)
  · exact takes_pure

theorem takes_item_indexOrSlice {level : Level} {s : Selector}
    (hfront : (∃ i, front ts = .integer i) ∨ front ts = .mark .minus ∨ front ts = .mark .colon)
    (h : Takes indexOrSlice ts us s) : Takes (bracketItem level) ts us [s] := by
  refine takes_current.bind ?_
  rcases hfront with ⟨i, hfront⟩ | hfront | hfront <;>
  · rw [hfront]
    exact h.bind takes_pure

theorem front_intTokens (i : Int64) (ts : List Token) :
    (∃ k, front (intTokens i ++ ts) = .integer k) ∨ front (intTokens i ++ ts) = .mark .minus := by
  unfold intTokens
  split
  · exact .inr rfl
  · exact .inl ⟨i, rfl⟩

theorem takes_item_index {level : Level} {i : Int64} (h : front ts ≠ .mark .colon) :
    Takes (bracketItem level) (intTokens i ++ ts) ts [.index i] := by
  refine takes_item_indexOrSlice ((front_intTokens i ts).imp_right .inl) ?_
  refine (takes_signed ts).bind ((takes_accept_none h).bind ?_)
  rw [if_neg Bool.false_ne_true]
  exact takes_pure

theorem takes_bound {b : Option Int64} (hminus : front ts ≠ .mark .minus)
    (hinteger : ∀ i, front ts ≠ .integer i) : Takes signed (boundTokens b ++ ts) ts b := by
  cases b with
  | none => exact takes_signed_none hminus hinteger
  | some i => exact takes_signed ts

/-- A slice ends with its step after a second colon, or without both. -/
theorem takes_step {step : Option Int64} (hstep : ∀ i ∈ step, i ≠ 0)
    (hcolon : front ts ≠ .mark .colon) (start stop : Option Int64) :
    Takes (do return .slice ⟨start, stop, ← if ← accept .colon then sliceStep else pure none⟩)
      ((step.map fun i => .mark .colon :: intTokens i).getD [] ++ ts) ts
      (Selector.slice ⟨start, stop, step⟩) := by
  cases step with
  | none =>
    refine (takes_accept_none hcolon).bind ?_
    rw [if_neg Bool.false_ne_true]
    exact takes_pure.bind takes_pure
  | some i =>
    have hread : Takes sliceStep (intTokens i ++ ts) ts (some i) := by
      refine takes_offset_bind fun _ => (takes_signed ts).bind ?_
      rw [if_neg (by simpa using hstep i rfl)]
      exact takes_pure
    refine (takes_accept .colon _).bind ?_
    rw [if_pos rfl]
    exact hread.bind takes_pure

theorem takes_item_slice {level : Level} {s : Slice} (hs : s.WellFormed)
    (hstop : strength (front ts) < 1) :
    Takes (bracketItem level) (s.tokens ++ ts) ts [.slice s] := by
  obtain ⟨start, stop, step⟩ := s
  have hminus : front ts ≠ .mark .minus := ne_mark_of_strength (lt_trans hstop (by decide))
  have hcolon : front ts ≠ .mark .colon := ne_mark_of_strength (lt_trans hstop (by decide))
  have hinteger (i : Int64) : front ts ≠ .integer i := by
    intro heq
    rw [heq] at hstop
    exact absurd hstop (by simp [strength])
  have hstep := takes_step (fun i hi => (hs.step i hi).2) hcolon start stop
  have hafter :
      front ((step.map fun i => .mark .colon :: intTokens i).getD [] ++ ts) ≠ .mark .minus ∧
      ∀ i, front ((step.map fun i => .mark .colon :: intTokens i).getD [] ++ ts) ≠ .integer i := by
    cases step with
    | none => exact ⟨hminus, hinteger⟩
    | some i => simp
  have hfront (us : List Token) :
      (∃ i, front (boundTokens start ++ .mark .colon :: us) = .integer i) ∨
      front (boundTokens start ++ .mark .colon :: us) = .mark .minus ∨
      front (boundTokens start ++ .mark .colon :: us) = .mark .colon := by
    cases start with
    | none => exact .inr (.inr rfl)
    | some i => exact (front_intTokens i _).imp_right .inl
  simp only [Slice.tokens, List.append_assoc, List.cons_append]
  refine takes_item_indexOrSlice (hfront _) ?_
  refine (takes_bound (by simp) (by simp)).bind ((takes_accept .colon _).bind ?_)
  rw [if_pos rfl]
  exact (takes_bound hafter.1 hafter.2).bind hstep

/-! ## Whole texts -/

theorem readAll_of_takes {α : Type} {read : Parse α} {text : String} {a : α}
    (htext : (lexemes text).tokens? = some ts) (h : Takes read ts [] a) :
    readAll read text = .ok a := by
  obtain ⟨L, -, hread⟩ := h _ htext
  rw [readAll, Lexemes.check_of_tokens? htext]
  change (read (lexemes text) >>= fun r => pure r.1) = _
  rw [hread]
  rfl

theorem readAll_of_fails {α : Type} {read : Parse α} {text : String} {fault : ParseFault}
    (htext : (lexemes text).tokens? = some ts) (h : Fails read ts fault) :
    ∃ o, readAll read text = .error ⟨fault, o⟩ := by
  obtain ⟨o, hread⟩ := h _ htext
  refine ⟨o, ?_⟩
  rw [readAll, Lexemes.check_of_tokens? htext]
  change (read (lexemes text) >>= fun r => pure r.1) = _
  rw [hread]
  rfl

/-- A text is read by its tokens, once they are known. -/
theorem readAll_of_lexemes {α : Type} {read : Parse α} {text : String} {L : Lexemes}
    (hL : lexemes text = L) (hcheck : L.check = .ok L) :
    readAll read text = (read L).map Prod.fst := by
  unfold readAll
  rw [hL, hcheck]
  change (read L >>= fun r => pure r.1) = _
  cases read L <;> rfl

theorem parsePredicate_of_lexemes {text : String} {L : Lexemes} (hL : lexemes text = L)
    (hcheck : L.check = .ok L) :
    parsePredicate functions text = (predicateOnly functions L).map Prod.fst :=
  readAll_of_lexemes hL hcheck

end JsonPath.Query

import JsonPath.Proofs.Query.Phrases
import JsonPath.Proofs.Query.WellFormed

/-!
# Written predicates read back

A predicate is written with parentheses around every operation, so mostly the text is grouped as the
predicate is. Two things are written without: comparisons and searches, which under another operator
run together with it, and paths that end with two dots, to which a star after them would belong.
Where neither happens, and the text does not nest too many levels, the predicate is read back. On a
level its tokens are taken as an operand wherever they may stand as one, and as a whole before
anything that binds less than a comparison; both are shown together, by recursion on the predicate,
with the levels that its text takes as the measure of the room that is needed.

* `Predicate.Unambiguous`, `Predicate.levels` — when the text is grouped as the predicate is, and
  how deep it nests.
* `Predicate.reread` — what comes of the text: numbers beyond all doubles are written as `null`, and
  both stars of a union are written alike.
* `takes_predicate_tokens` — the tokens of a predicate are read as the predicate.
* `parsePredicate_text` — the predicate that is read from a text is read again from its own text.
-/

namespace JsonPath.Query

open Parse Level

/-! ## What is read back -/

/-- Whether a predicate may stand as an operand the way it is written. Comparisons and searches,
which are written without parentheses, may not. -/
def Predicate.isOperand : Predicate → Bool
  | .comparison _ _ _ | .search _ _ => false
  | _ => true

/-- Whether the last stage of a chain is a descent. -/
def endsInDescent : List Selector → Bool
  | [] => false
  | [.descent] => true
  | _ :: rest => endsInDescent rest

/-- Whether the written form ends with two dots: a star after it would belong to the path. -/
def Predicate.isOpen : Predicate → Bool
  | .fromCurrent chain | .fromRoot chain => endsInDescent chain
  | .negate p | .not p => p.isOpen
  | _ => false

mutual

/-- Whether the written form is grouped as the selector is. -/
def Selector.Unambiguous : Selector → Prop
  | .union members => UnionUnambiguous members
  | .filter p | .computed p => p.Unambiguous
  | .call _ args => ArgumentsUnambiguous args
  | .name _ | .wildMember | .wildElement | .index _ | .slice _ | .descent => True

def ChainUnambiguous : List Selector → Prop
  | [] => True
  | s :: rest => s.Unambiguous ∧ ChainUnambiguous rest

def UnionUnambiguous : List (List Selector) → Prop
  | [] => True
  | chain :: rest => ChainUnambiguous chain ∧ UnionUnambiguous rest

/-- Whether the written form is grouped as the predicate is: the operands of all but `&&` and `||`
may stand as they are written, and no left factor of a product ends with two dots. -/
def Predicate.Unambiguous : Predicate → Prop
  | .literal _ | .current | .root => True
  | .fromCurrent chain | .fromRoot chain => ChainUnambiguous chain
  | .comparison _ l r => (l.isOperand ∧ l.Unambiguous) ∧ r.isOperand ∧ r.Unambiguous
  | .operation op l r =>
    ((op = .multiply → l.isOpen = false) ∧ l.isOperand ∧ l.Unambiguous) ∧
      r.isOperand ∧ r.Unambiguous
  | .and l r | .or l r => l.Unambiguous ∧ r.Unambiguous
  | .negate p | .not p | .search p _ => p.isOperand ∧ p.Unambiguous
  | .call _ args => ArgumentsUnambiguous args

def ArgumentsUnambiguous : List Predicate → Prop
  | [] => True
  | p :: rest => p.Unambiguous ∧ ArgumentsUnambiguous rest

end

/-- The value that a literal is read back as: what is written as `null` is null. -/
def rereadValue : Value → Value
  | .float x => if (Number.Binary64.ofFloat? x).isSome then .float x else .null
  | v => v

mutual

/-- The selector that a written selector is read back as. -/
def Selector.reread : Selector → Selector
  | .union members => .union (rereadUnion members)
  | .filter p => .filter p.reread
  | .call f args => .call f (rereadArguments args)
  | .computed p => .computed p.reread
  | s => s

def rereadChain : List Selector → List Selector
  | [] => []
  | s :: rest => s.reread :: rereadChain rest

/-- The chain that a member of a union is read back as: both stars are written alike. -/
def rereadMember : List Selector → List Selector
  | [.wildMember] => [.wildElement]
  | [] => []
  | s :: rest => s.reread :: rereadChain rest

def rereadUnion : List (List Selector) → List (List Selector)
  | [] => []
  | chain :: rest => rereadMember chain :: rereadUnion rest

/-- The predicate that a written predicate is read back as. -/
def Predicate.reread : Predicate → Predicate
  | .literal v => .literal (rereadValue v)
  | .current => .current
  | .root => .root
  | .fromCurrent chain => .fromCurrent (rereadChain chain)
  | .fromRoot chain => .fromRoot (rereadChain chain)
  | .comparison op l r => .comparison op l.reread r.reread
  | .operation op l r => .operation op l.reread r.reread
  | .negate p => .negate p.reread
  | .and l r => .and l.reread r.reread
  | .or l r => .or l.reread r.reread
  | .not p => .not p.reread
  | .search p r => .search p.reread r
  | .call f args => .call f (rereadArguments args)

def rereadArguments : List Predicate → List Predicate
  | [] => []
  | p :: rest => p.reread :: rereadArguments rest

end

/-- The levels that the sign of a literal takes. -/
def literalLevels : Value → Nat
  | .int n => if n.toInt < 0 then 1 else 0
  | .float x => if (Number.Binary64.ofFloat? x).any Number.Binary64.negative then 1 else 0
  | _ => 0

mutual

/-- How many levels the written form of a selector nests. -/
def Selector.levels : Selector → Nat
  | .wildMember | .descent => 0
  | .name _ | .wildElement | .index _ | .slice _ => 1
  | .union members => unionLevels members + 1
  | .filter p => p.levels + 3
  | .call _ args => argumentLevels args
  | .computed p => p.levels + 2

def chainLevels : List Selector → Nat
  | [] => 0
  | s :: rest => max s.levels (chainLevels rest)

def memberLevels : List Selector → Nat
  | [.name _] | [.wildElement] | [.index _] | [.slice _] | [] => 0
  | [.filter p] => p.levels + 2
  | [.computed p] => p.levels + 1
  | s :: rest => max s.levels (chainLevels rest)

def unionLevels : List (List Selector) → Nat
  | [] => 0
  | chain :: rest => max (memberLevels chain) (unionLevels rest)

/-- How many levels the written form of a predicate nests: parentheses, signs and further operators
take one each. -/
def Predicate.levels : Predicate → Nat
  | .literal v => literalLevels v
  | .current | .root => 0
  | .fromCurrent chain | .fromRoot chain => chainLevels chain
  | .comparison _ l r => max l.levels r.levels
  | .operation _ l r | .and l r | .or l r => max l.levels (r.levels + 1) + 1
  | .negate p | .not p => p.levels + 1
  | .search p _ => p.levels
  | .call _ args => argumentLevels args

def argumentLevels : List Predicate → Nat
  | [] => 0
  | p :: rest => max (p.levels + 1) (argumentLevels rest)

end

variable {t : Token} {functions : Registry} {n : Nat} {ts : List Token} {p : Predicate}

/-! ## Written lists -/

theorem argumentTokens_cons (p : Predicate) (args : List Predicate) :
    argumentTokens (p :: args) = p.tokens ++ args.flatMap fun q => .mark .comma :: q.tokens := by
  induction args generalizing p with
  | nil => simp [argumentTokens]
  | cons q args ih => simp [argumentTokens, ih q]

theorem unionTokens_cons (chain : List Selector) (members : List (List Selector)) :
    unionTokens (chain :: members) =
      memberTokens chain ++ members.flatMap fun next => .mark .comma :: memberTokens next := by
  induction members generalizing chain with
  | nil => simp [unionTokens]
  | cons next members ih => simp [unionTokens, ih next]

theorem length_rereadArguments (args : List Predicate) :
    (rereadArguments args).length = args.length := by
  induction args with
  | nil => rfl
  | cons p args ih => rw [rereadArguments, List.length_cons, ih, List.length_cons]

/-- A segment starts with a dot, two dots or a bracket. -/
theorem front_tokens_selector (s : Selector) (ts : List Token) :
    front (s.tokens ++ ts) = .mark .dot ∨ front (s.tokens ++ ts) = .mark .dotDot ∨
      front (s.tokens ++ ts) = .mark .openBracket := by
  cases s <;> simp [Selector.tokens]

theorem length_tokens_pos (s : Selector) : 0 < s.tokens.length := by
  cases s <;> simp [Selector.tokens]

theorem rereadChain_eq_nil {chain : List Selector} : rereadChain chain = [] ↔ chain = [] := by
  cases chain <;> simp [rereadChain]

theorem memberName?_eq_none (h : strength t < 6) : memberName? t = none := by
  unfold memberName?
  split <;> first | rfl | exact absurd h (by simp [strength])

/-! ## Reading back -/

/-- Whether a predicate is read back from its tokens on a level: as an operand, where it may be one,
before anything but a segment, and by itself before anything that binds less than a comparison. -/
structure Predicate.IsRead (functions : Registry) (n : Nat) (p : Predicate) : Prop where
  operand : p.isOperand → ∀ {rest}, strength (front rest) < 6 →
    (p.isOpen → front rest ≠ .mark .star) →
      Takes (ofRoom functions n).unary (p.tokens ++ rest) rest p.reread
  whole : ∀ {rest}, strength (front rest) < 3 →
    Takes (ofRoom functions n).comparison (p.tokens ++ rest) rest p.reread

namespace Predicate.IsRead

theorem sum (h : p.IsRead functions n) (hp : p.isOperand) (rest : List Token)
    (hstop : strength (front rest) < 4) :
    Takes (ofRoom functions n).sum (p.tokens ++ rest) rest p.reread :=
  have hstar : front rest ≠ .mark .star := ne_mark_of_strength (lt_trans hstop (by decide))
  takes_sum (h.operand hp (by omega) fun _ => hstar) hstop

theorem of_operand (h : ∀ {rest}, strength (front rest) < 6 →
    (p.isOpen → front rest ≠ .mark .star) →
      Takes (ofRoom functions n).unary (p.tokens ++ rest) rest p.reread) :
    p.IsRead functions n where
  operand _ _ hstop hstar := h hstop hstar
  whole {_} hstop := takes_comparison_of_sum (takes_sum (h (by omega) fun _ =>
    ne_mark_of_strength (lt_trans hstop (by decide))) (by omega)) hstop

theorem disjunction (h : p.IsRead functions n) (rest : List Token)
    (hstop : strength (front rest) < 1) :
    Takes (ofRoom functions n).disjunction (p.tokens ++ rest) rest p.reread :=
  takes_disjunction_of_comparison (h.whole (by omega)) hstop

/-- In parentheses a predicate is an operand one level up, whatever comes next. -/
theorem parenthesized (h : p.IsRead functions n) (rest : List Token) :
    Takes (ofRoom functions (n + 1)).unary
      (.mark .openParen :: (p.tokens ++ .mark .closeParen :: rest)) rest p.reread :=
  takes_parenthesized (h.disjunction (.mark .closeParen :: rest) (by simp [strength]))

/-- In parentheses it is a whole predicate another level up, before what binds nothing. -/
theorem parenthesized_predicate (h : p.IsRead functions n) (rest : List Token)
    (hstop : strength (front rest) < 1) :
    Takes (ofRoom functions (n + 2)).predicate
      (.mark .openParen :: (p.tokens ++ .mark .closeParen :: rest)) rest p.reread :=
  takes_disjunction (h.parenthesized rest) hstop

end Predicate.IsRead

/-- An operation in parentheses is an operand one level up. -/
theorem takes_grouped {left right : List Token} {m : Mark} {rest : List Token}
    (h : Takes (ofRoom functions n).disjunction
      (left ++ .mark m :: (right ++ .mark .closeParen :: rest)) (.mark .closeParen :: rest) p) :
    Takes (ofRoom functions (n + 1)).unary (groupedTokens left m right ++ rest) rest p := by
  simpa [groupedTokens] using takes_parenthesized h

/-- A sign belongs to a number, and is an operator before all else. -/
theorem isRead_literal {v : Value} (hv : IsLiteral v) (hn : literalLevels v ≤ n) :
    (Predicate.literal v).IsRead functions n := by
  refine .of_operand fun _ _ => ?_
  rename_i rest _ _
  cases v with
  | null => exact takes_literal rfl rest
  | bool b => exact takes_literal rfl rest
  | string s => exact takes_literal rfl rest
  | array => exact absurd hv id
  | object => exact absurd hv id
  | int i =>
    simp only [Predicate.tokens, literalTokens, intTokens, Predicate.reread, rereadValue]
    rw [literalLevels] at hn
    split
    · rename_i hneg
      rw [if_pos hneg] at hn
      obtain ⟨m, rfl⟩ := Nat.exists_eq_add_of_le' hn
      have h : Takes (ofRoom functions (m + 1)).unary (.mark .minus :: .integer (-i) :: rest) rest
          (negated (.literal (.int (-i)))) := takes_minus (takes_literal rfl rest)
      rwa [negated, Int64.neg_neg] at h
    · exact takes_literal rfl rest
  | float x =>
    simp only [Predicate.tokens, literalTokens, floatTokens, Predicate.reread, rereadValue]
    rw [literalLevels] at hn
    cases hx : Number.Binary64.ofFloat? x with
    | none => exact takes_literal rfl rest
    | some b =>
      rw [hx] at hn
      simp only [Option.any_some, Option.isSome_some, if_true] at hn ⊢
      split
      · rename_i hneg
        rw [if_pos hneg] at hn
        obtain ⟨m, rfl⟩ := Nat.exists_eq_add_of_le' hn
        have h : Takes (ofRoom functions (m + 1)).unary (.mark .minus :: .float (-x) :: rest) rest
            (negated (.literal (.float (-x)))) := takes_minus (takes_literal rfl rest)
        rwa [negated, Number.Binary64.neg_neg_of_ofFloat? hx] at h
      · exact takes_literal rfl rest

theorem negated_reread {p : Predicate} (hp : p.isNumber = false) :
    negated p.reread = .negate p.reread := by
  cases p with
  | literal v => cases v <;> first | rfl | simp [Predicate.isNumber] at hp
  | _ => rfl

/-- The room for something that takes a level is the room below and one. -/
theorem exists_room {k : Nat} (h : k + 1 ≤ n) : ∃ m, n = m + 1 ∧ k ≤ m :=
  ⟨n - 1, by omega, by omega⟩

/-- A bracket around one item is the segment of its selector, if the item ends where the bracket
does. -/
theorem takes_selector_item {s : Selector} (item : List Token) {rest : List Token}
    (h : Takes (bracketItem (ofRoom functions n)) (item ++ .mark .closeBracket :: rest)
      (.mark .closeBracket :: rest) [s]) :
    Takes (segment? functions (below functions (n + 1)) (ofRoom functions (n + 1)).predicate)
      (.mark .openBracket :: (item ++ [.mark .closeBracket]) ++ rest) rest (some [s]) := by
  simpa using takes_bracket_single (ofRoom functions (n + 1)).predicate h

/-- A chain is read segment by segment: only after a descent the next token could belong to it. -/
theorem takesMany_cons_tokens {s : Selector} {chain : List Selector} {rest : List Token}
    (hs : ∀ rest, (s = .descent → front rest ≠ .mark .star ∧ memberName? (front rest) = none) →
      Takes (segment? functions (below functions n) (ofRoom functions n).predicate)
        (s.tokens ++ rest) rest (some [s.reread]))
    (hchain : (endsInDescent chain → front rest ≠ .mark .star) →
      TakesMany (segment? functions (below functions n) (ofRoom functions n).predicate)
        (chainTokens chain ++ rest) rest ((rereadChain chain).map fun s => [s]))
    (hstop : strength (front rest) < 6)
    (hstar : endsInDescent (s :: chain) → front rest ≠ .mark .star) :
    TakesMany (segment? functions (below functions n) (ofRoom functions n).predicate)
      (chainTokens (s :: chain) ++ rest) rest ((rereadChain (s :: chain)).map fun s => [s]) := by
  have hfront : s = .descent → front (chainTokens chain ++ rest) ≠ .mark .star ∧
      memberName? (front (chainTokens chain ++ rest)) = none := by
    rintro rfl
    cases chain with
    | nil => exact ⟨hstar rfl, memberName?_eq_none hstop⟩
    | cons next chain =>
      rw [chainTokens, List.append_assoc]
      rcases front_tokens_selector next (chainTokens chain ++ rest) with h | h | h <;>
        simp [h, memberName?]
  have hlater : endsInDescent chain → front rest ≠ .mark .star := by
    cases chain with
    | nil => simp [endsInDescent]
    | cons next chain => exact fun h => hstar (by cases s <;> exact h)
  rw [chainTokens, List.append_assoc]
  refine .cons (hs _ hfront) ?_ (hchain hlater)
  have := length_tokens_pos s
  simp only [List.length_append]
  omega

/-- A member of a union that is written as a path is read segment by segment. -/
theorem takes_member_path {s : Selector} {chain : List Selector} {rest : List Token}
    (hs : ∀ rest, (s = .descent → front rest ≠ .mark .star ∧ memberName? (front rest) = none) →
      Takes (segment? functions (below functions n) (ofRoom functions n).predicate)
        (s.tokens ++ rest) rest (some [s.reread]))
    (hchain : TakesMany (segment? functions (below functions n) (ofRoom functions n).predicate)
      (chainTokens chain ++ rest) rest ((rereadChain chain).map fun s => [s]))
    (hstop : strength (front rest) < 1) :
    Takes (bracketItem (ofRoom functions n)) (.mark .atSign :: (chainTokens (s :: chain) ++ rest))
      rest (rereadChain (s :: chain)) :=
  takes_item_path (takes_segments (takesMany_cons_tokens hs (fun _ => hchain) (by omega) fun _ =>
    ne_mark_of_strength (lt_trans hstop (by decide))))

theorem ofItems_rereadUnion {members : List (List Selector)} (h : ∀ s, members ≠ [[s]]) :
    ofItems (rereadUnion members) = .union (rereadUnion members) := by
  match members, h with
  | [], _ | [[]], _ => rfl
  | [[s]], h => exact absurd rfl (h s)
  | first :: second :: others, _ =>
    rw [rereadUnion, rereadUnion, ofItems]
    rintro s h
    simp at h
  | [s :: t :: chain], _ => cases s <;> rfl

mutual

/-- **One segment.** A selector is read from its tokens, whatever comes next. Only a descent by
itself goes on with a star or a name. -/
theorem takes_selector_tokens : ∀ (s : Selector), s.WellFormed functions → s.Unambiguous →
    ∀ {n}, s.levels ≤ n → ∀ rest,
      (s = .descent → front rest ≠ .mark .star ∧ memberName? (front rest) = none) →
      Takes (segment? functions (below functions n) (ofRoom functions n).predicate)
        (s.tokens ++ rest) rest (some [s.reread])
  | .name name, _, _, n, hn, rest, _ => by
    obtain ⟨m, rfl, -⟩ := exists_room hn
    exact takes_selector_item [.string name] (takes_item_name _ name _)
  | .wildMember, _, _, n, _, rest, _ => takes_wildMember rest
  | .wildElement, _, _, n, hn, rest, _ => by
    obtain ⟨m, rfl, -⟩ := exists_room hn
    exact takes_selector_item [.mark .star] (takes_item_star _ _)
  | .index i, _, _, n, hn, rest, _ => by
    obtain ⟨m, rfl, -⟩ := exists_room hn
    exact takes_selector_item _ (takes_item_index (by simp))
  | .slice s, hs, _, n, hn, rest, _ => by
    obtain ⟨m, rfl, -⟩ := exists_room hn
    exact takes_selector_item _ (takes_item_slice hs (by simp [strength]))
  | .descent, _, _, n, _, rest, hrest => takes_descent (hrest rfl).1 (hrest rfl).2
  | .union members, hs, hu, n, hn, rest, _ => by
    obtain ⟨m, rfl, hm⟩ := exists_room hn
    have h := takes_bracket (ofRoom functions (m + 1)).predicate
      (takes_union_tokens members hs.1 hs.2.2 hu hm rest)
    rw [ofItems_rereadUnion hs.2.1] at h
    simpa [Selector.tokens, Selector.reread] using h
  | .filter p, hs, hu, n, hn, rest, _ => by
    -- One level each for the bracket, the predicate in it and the parentheses around that.
    obtain ⟨j, rfl⟩ := Nat.exists_eq_add_of_le' (le_trans (Nat.le_add_left 3 p.levels) hn)
    have hp := takes_predicate_tokens p hs hu (n := j) (Nat.le_of_add_le_add_right hn)
    have h := takes_item_filter (ofRoom functions (j + 2))
      (hp.parenthesized_predicate (.mark .closeBracket :: rest) (by simp [strength]))
    have hbracket := takes_bracket_single (ofRoom functions (j + 3)).predicate h
    simpa [Selector.tokens, Selector.reread] using hbracket
  | .call f args, hs, hu, n, hn, rest, _ => by
    have h : Takes (segment? functions (below functions n) (ofRoom functions n).predicate)
        _ rest (some [.call f (rereadArguments args)]) :=
      takes_selectorCall hs.1.resolve ((congrArg _ (length_rereadArguments args)).trans hs.2.1)
        (takes_argument_tokens args hs.2.2 hu hn rest)
    simpa [Selector.tokens, Selector.reread] using h
  | .computed p, hs, hu, n, hn, rest, _ => by
    obtain ⟨j, rfl⟩ := Nat.exists_eq_add_of_le' (le_trans (Nat.le_add_left 2 p.levels) hn)
    have hp := takes_predicate_tokens p hs hu (n := j) (Nat.le_of_add_le_add_right hn)
    have h := takes_item_computed (ofRoom functions (j + 1))
      (hp.disjunction (.mark .closeParen :: .mark .closeBracket :: rest) (by simp [strength]))
    have hbracket := takes_bracket_single (ofRoom functions (j + 2)).predicate h
    simpa [Selector.tokens, Selector.reread] using hbracket

theorem takes_chain_tokens : ∀ (chain : List Selector), ChainWellFormed functions chain →
    ChainUnambiguous chain → ∀ {n}, chainLevels chain ≤ n → ∀ {rest}, strength (front rest) < 6 →
      (endsInDescent chain → front rest ≠ .mark .star) →
      TakesMany (segment? functions (below functions n) (ofRoom functions n).predicate)
        (chainTokens chain ++ rest) rest ((rereadChain chain).map fun s => [s])
  | [], _, _, _, _, _, hstop, _ => .nil (takes_segment?_none hstop)
  | s :: chain, hs, hu, _, hn, _, hstop, hstar =>
    takesMany_cons_tokens (takes_selector_tokens s hs.1 hu.1 (le_trans (le_max_left _ _) hn))
      (takes_chain_tokens chain hs.2 hu.2 (le_trans (le_max_right _ _) hn) hstop) hstop hstar

theorem takes_member_tokens : ∀ (chain : List Selector), ChainWellFormed functions chain →
    ChainUnambiguous chain → ∀ {n}, memberLevels chain ≤ n → ∀ rest, strength (front rest) < 1 →
      Takes (bracketItem (ofRoom functions n)) (memberTokens chain ++ rest) rest
        (rereadMember chain)
  | [.name name], _, _, _, _, _, _ => takes_item_name _ name _
  | [.wildMember], _, _, _, _, _, _ | [.wildElement], _, _, _, _, _, _ => takes_item_star _ _
  | [.index i], _, _, n, _, rest, hstop =>
    takes_item_index (ne_mark_of_strength (lt_trans hstop (by decide)))
  | [.slice s], hs, _, n, _, rest, hstop => takes_item_slice hs.1 hstop
  | [.filter p], hs, hu, n, hn, rest, hstop => by
    obtain ⟨j, rfl⟩ := Nat.exists_eq_add_of_le' (le_trans (Nat.le_add_left 2 p.levels) hn)
    have hp := takes_predicate_tokens p hs.1 hu.1 (n := j) (Nat.le_of_add_le_add_right hn)
    have h := takes_item_filter (ofRoom functions (j + 2)) (hp.parenthesized_predicate rest hstop)
    simpa [memberTokens, rereadMember, rereadChain, Selector.reread] using h
  | [.computed p], hs, hu, n, hn, rest, _ => by
    obtain ⟨j, rfl, hj⟩ := exists_room (n := n) (k := p.levels) hn
    have hp := takes_predicate_tokens p hs.1 hu.1 hj
    have h := takes_item_computed (ofRoom functions (j + 1))
      (hp.disjunction (.mark .closeParen :: rest) (by simp [strength]))
    simpa [memberTokens, rereadMember, rereadChain, Selector.reread] using h
  | [], _, _, n, _, rest, hstop =>
    takes_item_path (takes_segments_nil (lt_trans hstop (by decide)))
  | [.descent], _, _, n, _, rest, hstop =>
    takes_member_path (takes_selector_tokens .descent trivial trivial (Nat.zero_le n))
      (.nil (takes_segment?_none (lt_trans hstop (by decide)))) hstop
  | [.union members], hs, hu, n, hn, rest, hstop =>
    takes_member_path
      (takes_selector_tokens (.union members) hs.1 hu.1 (le_trans (le_max_left _ _) hn))
      (.nil (takes_segment?_none (lt_trans hstop (by decide)))) hstop
  | [.call f args], hs, hu, n, hn, rest, hstop =>
    takes_member_path
      (takes_selector_tokens (.call f args) hs.1 hu.1 (le_trans (le_max_left _ _) hn))
      (.nil (takes_segment?_none (lt_trans hstop (by decide)))) hstop
  | s :: t :: chain, hs, hu, n, hn, rest, hstop => by
    have hlevels : max s.levels (chainLevels (t :: chain)) ≤ n := by cases s <;> exact hn
    have hstar : front rest ≠ .mark .star := ne_mark_of_strength (lt_trans hstop (by decide))
    have hfirst := takes_selector_tokens s hs.1 hu.1 (le_trans (le_max_left _ _) hlevels)
    have hchain := takes_chain_tokens (t :: chain) hs.2 hu.2 (le_trans (le_max_right _ _) hlevels)
      (lt_trans hstop (by decide)) fun _ => hstar
    have h := takes_member_path hfirst hchain hstop
    cases s <;> exact h

theorem takes_union_tokens : ∀ (members : List (List Selector)), members ≠ [] →
    UnionWellFormed functions members → UnionUnambiguous members → ∀ {n}, unionLevels members ≤ n →
      ∀ rest, Takes (separated (bracketItem (ofRoom functions n)))
        (unionTokens members ++ .mark .closeBracket :: rest) (.mark .closeBracket :: rest)
        (rereadUnion members)
  | [], hne, _, _, n, _, rest => absurd rfl hne
  | chain :: members, _, hs, hu, n, hn, rest => by
    have hfurther := takes_further_members members hs.2 hu.2 (le_trans (le_max_right _ _) hn) rest
    have hfirst := takes_member_tokens chain hs.1 hu.1 (le_trans (le_max_left _ _) hn)
      (members.flatMap (fun next => .mark .comma :: memberTokens next) ++
        .mark .closeBracket :: rest) (by cases members <;> simp [strength])
    rw [unionTokens_cons, List.append_assoc]
    exact takes_separated hfirst hfurther

theorem takes_further_members : ∀ (members : List (List Selector)),
    UnionWellFormed functions members → UnionUnambiguous members → ∀ {n}, unionLevels members ≤ n →
      ∀ rest, TakesMany (furtherItem (bracketItem (ofRoom functions n)))
        (members.flatMap (fun chain => .mark .comma :: memberTokens chain) ++
          .mark .closeBracket :: rest) (.mark .closeBracket :: rest) (rereadUnion members)
  | [], _, _, n, _, rest => .nil (takes_furtherItem_none (by simp))
  | chain :: members, hs, hu, n, hn, rest => by
    have hfurther := takes_further_members members hs.2 hu.2 (le_trans (le_max_right _ _) hn) rest
    have hfirst := takes_member_tokens chain hs.1 hu.1 (le_trans (le_max_left _ _) hn)
      (members.flatMap (fun next => .mark .comma :: memberTokens next) ++
        .mark .closeBracket :: rest) (by cases members <;> simp [strength])
    rw [List.flatMap_cons, List.cons_append, List.cons_append, List.append_assoc]
    exact takesMany_furtherItem_cons hfirst hfurther

/-- **Predicates.** A predicate is read from its tokens on any level with as much room as its text
nests levels. -/
theorem takes_predicate_tokens : ∀ (p : Predicate), p.WellFormed functions → p.Unambiguous →
    ∀ {n}, p.levels ≤ n → p.IsRead functions n
  | .literal v, hp, _, n, hn => isRead_literal hp hn
  | .current, _, _, n, _ => .of_operand fun hstop _ =>
    takes_fromCurrent (takes_segments_nil hstop)
  | .root, _, _, n, _ => .of_operand fun hstop _ =>
    takes_fromRoot (takes_segments_nil hstop)
  | .fromCurrent chain, hp, hu, n, hn => .of_operand fun hstop hstar => by
    have h := takes_fromCurrent (takes_segments (takes_chain_tokens chain hp.2 hu hn hstop hstar))
    rwa [if_neg (by simpa [rereadChain_eq_nil] using hp.1)] at h
  | .fromRoot chain, hp, hu, n, hn => .of_operand fun hstop hstar => by
    have h := takes_fromRoot (takes_segments (takes_chain_tokens chain hp.2 hu hn hstop hstar))
    rwa [if_neg (by simpa [rereadChain_eq_nil] using hp.1)] at h
  | .comparison op l r, hp, hu, n, hn => by
    have hl := takes_predicate_tokens l hp.1 hu.1.2 (le_trans (le_max_left _ _) hn)
    have hr := takes_predicate_tokens r hp.2 hu.2.2 (le_trans (le_max_right _ _) hn)
    refine ⟨fun h => absurd h (by simp [Predicate.isOperand]), fun {rest} hstop => ?_⟩
    have h := takes_comparison (hl.sum hu.1.1 (.mark op.mark :: (r.tokens ++ rest))
      (by cases op <;> simp [strength, Comparison.mark])) (hr.sum hu.2.1 rest (by omega))
    simpa [Predicate.tokens, Predicate.reread] using h
  | .operation op l r, hp, hu, n, hn => .of_operand fun {rest} _ _ => by
    -- The parentheses take a level, and what is right of the operator another one.
    obtain ⟨m, rfl, hm⟩ := exists_room hn
    obtain ⟨k, rfl, hr⟩ := exists_room (le_trans (le_max_right _ _) hm)
    have hl := takes_predicate_tokens l hp.1 hu.1.2.2 (le_trans (le_max_left _ _) hm)
    have hr := takes_predicate_tokens r hp.2 hu.2.2 hr
    refine takes_grouped (takes_operation (hl.operand hu.1.2.1 ?_ fun hopen => ?_)
      (hr.operand hu.2.1 (by simp [strength]) (by simp)) (by simp [strength]))
    · cases op <;> simp [strength, Operation.mark]
    · cases op <;> simp [Operation.mark]
      exact absurd hopen (by simp [hu.1.1 rfl])
  | .and l r, hp, hu, n, hn => .of_operand fun {rest} _ _ => by
    obtain ⟨m, rfl, hm⟩ := exists_room hn
    obtain ⟨k, rfl, hr⟩ := exists_room (le_trans (le_max_right _ _) hm)
    have hl := takes_predicate_tokens l hp.1 hu.1 (le_trans (le_max_left _ _) hm)
    have hr := takes_predicate_tokens r hp.2 hu.2 hr
    exact takes_grouped (takes_and (hl.whole (by simp [strength])) (hr.whole (by simp [strength]))
      (by simp [strength]))
  | .or l r, hp, hu, n, hn => .of_operand fun {rest} _ _ => by
    obtain ⟨m, rfl, hm⟩ := exists_room hn
    obtain ⟨k, rfl, hr⟩ := exists_room (le_trans (le_max_right _ _) hm)
    have hl := takes_predicate_tokens l hp.1 hu.1 (le_trans (le_max_left _ _) hm)
    have hr := takes_predicate_tokens r hp.2 hu.2 hr
    exact takes_grouped (takes_or (hl.whole (by simp [strength])) (hr.whole (by simp [strength]))
      (by simp [strength]))
  | .negate p, hp, hu, n, hn => .of_operand fun hstop hstar => by
    obtain ⟨m, rfl, hm⟩ := exists_room hn
    have h := takes_minus ((takes_predicate_tokens p hp.2 hu.2 hm).operand hu.1 hstop hstar)
    rwa [negated_reread hp.1] at h
  | .not p, hp, hu, n, hn => .of_operand fun hstop hstar => by
    obtain ⟨m, rfl, hm⟩ := exists_room hn
    exact takes_not ((takes_predicate_tokens p hp hu.2 hm).operand hu.1 hstop hstar)
  | .search p r, hp, hu, n, hn => by
    have h := takes_predicate_tokens p hp.1 hu.2 hn
    refine ⟨fun h => absurd h (by simp [Predicate.isOperand]), fun {rest} hstop => ?_⟩
    have hsearch := takes_search hp.2.literal (h.sum hu.1
      (.mark .matchSign :: .regex r.source r.flags :: rest) (by simp [strength]))
    simpa [Predicate.tokens, Predicate.reread] using hsearch
  | .call f args, hp, hu, n, hn => .of_operand fun {rest} _ _ => by
    have h := takes_call hp.1.resolve hp.2.1
      ((congrArg _ (length_rereadArguments args)).trans hp.2.2.1)
      (takes_argument_tokens args hp.2.2.2 hu hn rest)
    simpa [Predicate.tokens, Predicate.reread] using h

theorem takes_argument_tokens : ∀ (args : List Predicate), ArgumentsWellFormed functions args →
    ArgumentsUnambiguous args → ∀ {n}, argumentLevels args ≤ n → ∀ rest o,
      Takes (arguments (ofRoom functions n).predicate o)
        (argumentTokens args ++ .mark .closeParen :: rest) rest (rereadArguments args)
  | [], _, _, n, _, rest, o => takes_arguments_nil _ o rest
  | p :: args, hs, hu, n, hn, rest, o => by
    obtain ⟨m, rfl, hm⟩ := exists_room (le_trans (le_max_left _ _) hn)
    have hfurther := takes_further_arguments args hs.2 hu.2 (le_trans (le_max_right _ _) hn) rest
    have hp := (takes_predicate_tokens p hs.1 hu.1 hm).disjunction
      (args.flatMap (fun q => .mark .comma :: q.tokens) ++ .mark .closeParen :: rest)
      (by cases args <;> simp [strength])
    obtain ⟨t, ts, hts, ht⟩ := p.exists_head_tokens hs.1
    rw [argumentTokens_cons, List.append_assoc]
    exact takes_arguments (by rw [hts]; exact ht) (takes_separated hp hfurther) o

theorem takes_further_arguments : ∀ (args : List Predicate), ArgumentsWellFormed functions args →
    ArgumentsUnambiguous args → ∀ {n}, argumentLevels args ≤ n → ∀ rest,
      TakesMany (furtherItem (ofRoom functions n).predicate)
        (args.flatMap (fun p => .mark .comma :: p.tokens) ++ .mark .closeParen :: rest)
        (.mark .closeParen :: rest) (rereadArguments args)
  | [], _, _, n, _, rest => .nil (takes_furtherItem_none (by simp))
  | p :: args, hs, hu, n, hn, rest => by
    obtain ⟨m, rfl, hm⟩ := exists_room (le_trans (le_max_left _ _) hn)
    have hfurther := takes_further_arguments args hs.2 hu.2 (le_trans (le_max_right _ _) hn) rest
    have hp := (takes_predicate_tokens p hs.1 hu.1 hm).disjunction
      (args.flatMap (fun q => .mark .comma :: q.tokens) ++ .mark .closeParen :: rest)
      (by cases args <;> simp [strength])
    rw [List.flatMap_cons, List.cons_append, List.cons_append, List.append_assoc]
    exact takesMany_furtherItem_cons hp hfurther

end

/-! ## Whole texts -/

/-- A predicate that reading can give is read back from its written form, if that is grouped as the
predicate is and does not nest too many levels. -/
theorem parsePredicate_text_of_wellFormed (hp : p.WellFormed functions) (hu : p.Unambiguous)
    (hlevels : p.levels < maxNesting) : parsePredicate functions p.text = .ok p.reread := by
  refine readAll_of_takes (tokens?_lexemes_text hp) ?_
  obtain ⟨n, hn⟩ : ∃ n, maxNesting = n + 1 := ⟨63, rfl⟩
  have hread := takes_predicate_tokens p hp hu (n := n) (by omega)
  have h := hread.disjunction [] (by simp [strength])
  rw [List.append_nil] at h
  rw [predicateOnly, hn, predicate_succ]
  exact h.bind (takes_current.bind takes_pure)

/-! ## What is read back is written alike -/

theorem compact_rereadValue (v : Value) : Json.compact (rereadValue v) = Json.compact v := by
  cases v with
  | float x =>
    cases hx : Number.Binary64.ofFloat? x with
    | none => simp [rereadValue, hx, Json.compact, Json.scalarText, Json.floatText]
    | some b => simp [rereadValue, hx]
  | _ => rfl

mutual

theorem chars_reread_selector : ∀ s : Selector, s.reread.chars = s.chars
  | .union members => by
    rw [Selector.reread, Selector.chars, Selector.chars, unionChars_reread members]
  | .filter p => by rw [Selector.reread, Selector.chars, Selector.chars, chars_reread p]
  | .call f args => by
    rw [Selector.reread, Selector.chars, Selector.chars, argumentChars_reread args]
  | .computed p => by rw [Selector.reread, Selector.chars, Selector.chars, chars_reread p]
  | .name _ | .wildMember | .wildElement | .index _ | .slice _ | .descent => rfl

theorem chainChars_reread : ∀ chain : List Selector,
    chainChars (rereadChain chain) = chainChars chain
  | [] => rfl
  | s :: chain => by
    rw [rereadChain, chainChars, chainChars, chars_reread_selector s, chainChars_reread chain]

theorem memberChars_reread : ∀ chain : List Selector,
    memberChars (rereadMember chain) = memberChars chain
  | [.name _] | [.wildMember] | [.wildElement] | [.index _] | [.slice _] | [] | [.descent] => rfl
  | [.filter p] => by
    simp [rereadMember, rereadChain, Selector.reread, memberChars, chars_reread p]
  | [.computed p] => by
    simp [rereadMember, rereadChain, Selector.reread, memberChars, chars_reread p]
  | [.union members] => by
    simp [rereadMember, rereadChain, Selector.reread, memberChars, Selector.chars, chainChars,
      unionChars_reread members]
  | [.call f args] => by
    simp [rereadMember, rereadChain, Selector.reread, memberChars, Selector.chars, chainChars,
      argumentChars_reread args]
  | s :: t :: chain => by
    have hs := chars_reread_selector s
    have hchain := chainChars_reread (t :: chain)
    cases s <;> simp_all [rereadMember, rereadChain, Selector.reread, memberChars]

theorem unionChars_reread : ∀ members : List (List Selector),
    unionChars (rereadUnion members) = unionChars members
  | [] => rfl
  | [chain] => memberChars_reread chain
  | chain :: next :: members => by
    have hmore : unionChars (rereadUnion (chain :: next :: members)) =
      memberChars (rereadMember chain) ++ ',' :: unionChars (rereadUnion (next :: members)) := rfl
    rw [hmore, memberChars_reread chain, unionChars_reread (next :: members)]
    rfl

theorem chars_reread : ∀ p : Predicate, p.reread.chars = p.chars
  | .literal v => by rw [Predicate.reread, Predicate.chars, Predicate.chars, compact_rereadValue]
  | .current | .root => rfl
  | .fromCurrent chain | .fromRoot chain => by
    rw [Predicate.reread, Predicate.chars, Predicate.chars, chainChars_reread chain]
  | .comparison _ l r | .operation _ l r | .and l r | .or l r => by
    rw [Predicate.reread, Predicate.chars, Predicate.chars, chars_reread l, chars_reread r]
  | .negate p | .not p | .search p _ => by
    rw [Predicate.reread, Predicate.chars, Predicate.chars, chars_reread p]
  | .call f args => by
    rw [Predicate.reread, Predicate.chars, Predicate.chars, argumentChars_reread args]

theorem argumentChars_reread : ∀ args : List Predicate,
    argumentChars (rereadArguments args) = argumentChars args
  | [] => rfl
  | [p] => chars_reread p
  | p :: q :: args => by
    have hmore : argumentChars (rereadArguments (p :: q :: args)) =
      p.reread.chars ++ ',' :: ' ' :: argumentChars (rereadArguments (q :: args)) := rfl
    rw [hmore, chars_reread p, argumentChars_reread (q :: args)]
    rfl

end

/-- What is read back is written as it was. -/
theorem text_reread (p : Predicate) : p.reread.text = p.text :=
  congrArg String.ofList (chars_reread p)

/-- **Predicates survive being written and read.** Take the predicate that is read from any text,
and suppose that its written form is grouped as the predicate is and nests no more levels than can
be read. Then that form is read again, and as the same predicate, except that a number beyond all
doubles comes back as null and a lone `.*` in a union as `*`. -/
theorem parsePredicate_text (hr : functions.WellFormed) {text : String}
    (h : parsePredicate functions text = .ok p) (hu : p.Unambiguous)
    (hlevels : p.levels < maxNesting) : parsePredicate functions p.text = .ok p.reread :=
  parsePredicate_text_of_wellFormed (wellFormed_of_parsePredicate hr h) hu hlevels

/-- A predicate with signs, a slice, a product, a filter and a star in a union, a descent and a
call; its written form has more parentheses and brackets than it was read from. -/
theorem parsePredicate_text_nested :
    ∃ p, parsePredicate .empty
        "-@.a[1:-2] * 3 > -1 && !@[?@.x != null, @.*] || contains(@..b, 'x')" = .ok p ∧
      p.Unambiguous ∧ p.levels < maxNesting ∧ parsePredicate .empty p.text = .ok p.reread := by
  have h : parsePredicate .empty
      "-@.a[1:-2] * 3 > -1 && !@[?@.x != null, @.*] || contains(@..b, 'x')" = .ok
        (.or (.and
          (.comparison .greater (.operation .multiply
            (.negate (.fromCurrent [.name "a", .slice ⟨some 1, some (-2), none⟩]))
            (.literal (.int 3))) (.literal (.int (-1))))
          (.not (.fromCurrent [.union [[.filter (.comparison .notEqual (.fromCurrent [.name "x"])
            (.literal .null))], [.wildMember]]])))
          (.call (.builtin .contains)
            [.fromCurrent [.descent, .name "b"], .literal (.string "x")])) :=
    (parsePredicate_of_lexemes (by cbv) rfl).trans rfl
  refine ⟨_, h, ?unambiguous, by decide,
    parsePredicate_text Registry.wellFormed_empty h ?unambiguous (by decide)⟩
  simp [Predicate.Unambiguous, Selector.Unambiguous, ChainUnambiguous, UnionUnambiguous,
    ArgumentsUnambiguous, Predicate.isOperand, Predicate.isOpen, endsInDescent]

/-- The number `1e400` is read as a double beyond all others. -/
theorem parsePredicate_1e400 : parsePredicate .empty "1e400" =
    .ok (.literal (.float (Number.floatOfNotation ['1'] [] 400))) := by
  have hfirst : FirstToken (['1'] ++ (fractionChars [] ++ ("e400".toList ++ [])))
      (.float (Number.floatOfNotation ['1'] [] 400)) [] :=
    firstToken_float (by simp) (by simp) (by simp) (.of_head (by simp) []) rfl (by simp)
  refine readAll_of_takes (hfirst.lexes lexes_nil 0) ?_
  have h : Takes (ofRoom .empty 63).disjunction [.float (Number.floatOfNotation ['1'] [] 400)] []
      (.literal (.float (Number.floatOfNotation ['1'] [] 400))) :=
    takes_disjunction (takes_literal rfl []) (by simp [strength])
  exact h.bind (takes_current.bind takes_pure)

set_option maxRecDepth 10000 in
/-- Not every predicate is read back as itself: both stars of a union are written alike, a number
beyond all doubles has no written form, the written form of filters within filters nests more levels
than the text they were read from, a star after two dots belongs to the path, and a comparison is
written without parentheses under other operators. -/
theorem parsePredicate_text_differs :
    (∃ p q, parsePredicate .empty "@[@.*,'a']" = .ok p ∧ parsePredicate .empty p.text = .ok q ∧
      p.same q = false) ∧
    (∃ p q, parsePredicate .empty "1e400" = .ok p ∧ parsePredicate .empty p.text = .ok q ∧
      p.same q = false) ∧
    (∃ p e, parsePredicate .empty
      "@[?@[?@[?@[?@[?@[?@[?@[?@[?@[?@[?@[?@[?@[?@[?@[?@[?@[?@[?@[?@[?@[?@]]]]]]]]]]]]]]]]]]]]]]" =
        .ok p ∧ parsePredicate .empty p.text = .error e) ∧
    (∃ p e, parsePredicate .empty "(@..) * 2" = .ok p ∧
      parsePredicate .empty p.text = .error e) ∧
    ∃ p q, parsePredicate .empty "!(1 == 2)" = .ok p ∧ parsePredicate .empty p.text = .ok q ∧
      p.same q = false := by
  refine ⟨?stars, ?infinite, ?deep, ?path, ?comparison⟩
  case stars =>
    refine ⟨.fromCurrent [.union [[.wildMember], [.name "a"]]],
      .fromCurrent [.union [[.wildElement], [.name "a"]]],
      (parsePredicate_of_lexemes (by cbv) rfl).trans rfl,
      (parsePredicate_of_lexemes (by cbv) rfl).trans rfl, ?_⟩
    simp [Predicate.same, Selector.same, sameChain, sameChains]
  case infinite =>
    have htext :
        Predicate.text (.literal (.float (Number.floatOfNotation ['1'] [] 400))) = "null" := by
      decide +kernel
    refine ⟨_, .literal .null, parsePredicate_1e400, ?_, ?_⟩
    · rw [htext]
      exact (parsePredicate_of_lexemes (by cbv) rfl).trans rfl
    · simp [Predicate.same, Value.same]
  case deep =>
    exact ⟨Nat.repeat (fun p => .fromCurrent [.filter p]) 22 .current, ⟨.nestingTooDeep 64, 85⟩,
      (parsePredicate_of_lexemes (by cbv) rfl).trans rfl,
      (parsePredicate_of_lexemes (by cbv) rfl).trans rfl⟩
  case path =>
    exact ⟨.operation .multiply (.fromCurrent [.descent]) (.literal (.int 2)),
      ⟨.unexpectedToken "number 2" "')'", 7⟩,
      (parsePredicate_of_lexemes (by cbv) rfl).trans rfl,
      (parsePredicate_of_lexemes (by cbv) rfl).trans rfl⟩
  case comparison =>
    refine ⟨.not (.comparison .equal (.literal (.int 1)) (.literal (.int 2))),
      .comparison .equal (.not (.literal (.int 1))) (.literal (.int 2)),
      (parsePredicate_of_lexemes (by cbv) rfl).trans rfl,
      (parsePredicate_of_lexemes (by cbv) rfl).trans rfl, ?_⟩
    simp [Predicate.same]

end JsonPath.Query

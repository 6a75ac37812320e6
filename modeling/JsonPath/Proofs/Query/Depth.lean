import JsonPath.Evaluation.Expression
import JsonPath.Proofs.Query.Formula
import JsonPath.Proofs.Query.Readers

/-!
# How deep expressions nest

What is read from a text with so many levels cannot be nested without end, but it can be nested
deeper than there are levels. An operator in a row is nested in the one that comes after it, while
the levels that a row takes are free again when the row ends; the first operand of a row, read
before, had all of them as well. So along first operands the levels count anew for every kind of
operator, and for the operand itself.

Depths are counted here with a weight: going into the first operand of an operator counts that much,
and anything else that nests counts one. With weight one this is the depth of the tree; with weight
zero it is the levels that the text takes. Both bounds come from one induction on the room.

* `chainDepth` — the depth of a chain, for a weight of first operands.
* `operandDepth` — how deep an operand with its signs can be, for some room.
* `Expression.depth_bounds` — the levels bound the depth that does not count first operands, and the
  greatest depth that counts them.
-/

namespace JsonPath

namespace Query

/-! ## Depths -/

mutual

/-- The greatest number of unions, filters and computed positions, and of signs and operators in
predicates, on a way down into a selector, where an operator counts `first` on the way into its
first operand. -/
def Selector.depth (first : Nat) : Selector → Nat
  | .union members => 1 + unionDepth first members
  | .filter p | .computed p => 1 + p.depth first
  | .call _ args => argumentsDepth first args
  | .name _ | .wildMember | .wildElement | .index _ | .slice _ | .descent => 0

def chainDepth (first : Nat) : List Selector → Nat
  | [] => 0
  | s :: rest => max (s.depth first) (chainDepth first rest)

def unionDepth (first : Nat) : List (List Selector) → Nat
  | [] => 0
  | chain :: rest => max (chainDepth first chain) (unionDepth first rest)

/-- The same on a way down into a predicate. Comparisons and searches do not count. -/
def Predicate.depth (first : Nat) : Predicate → Nat
  | .literal _ | .current | .root => 0
  | .fromCurrent chain | .fromRoot chain => chainDepth first chain
  | .comparison _ l r => max (l.depth first) (r.depth first)
  | .operation _ l r | .and l r | .or l r => max (first + l.depth first) (1 + r.depth first)
  | .negate p | .not p => 1 + p.depth first
  | .search p _ => p.depth first
  | .call _ args => argumentsDepth first args

def argumentsDepth (first : Nat) : List Predicate → Nat
  | [] => 0
  | p :: rest => max (p.depth first) (argumentsDepth first rest)

end

variable {first d n : Nat}

theorem chainDepth_le_iff {chain : List Selector} :
    chainDepth first chain ≤ d ↔ ∀ s ∈ chain, s.depth first ≤ d := by
  induction chain with
  | nil => simp [chainDepth]
  | cons s chain ih => simp [chainDepth, ih]

theorem unionDepth_le_iff {members : List (List Selector)} :
    unionDepth first members ≤ d ↔ ∀ chain ∈ members, chainDepth first chain ≤ d := by
  induction members with
  | nil => simp [unionDepth]
  | cons chain members ih => simp [unionDepth, ih]

theorem argumentsDepth_le_iff {args : List Predicate} :
    argumentsDepth first args ≤ d ↔ ∀ p ∈ args, p.depth first ≤ d := by
  induction args with
  | nil => simp [argumentsDepth]
  | cons p args ih => simp [argumentsDepth, ih]

theorem chainDepth_singleton (s : Selector) : chainDepth first [s] = s.depth first := by
  simp [chainDepth]

/-! ## The depth that there is room for -/

/-- How deep an operand with its signs may be. It is a sign and an operand with less room, or a
predicate with less room in parentheses: rows of all four kinds of operators, one at the start of
the other, with an operand at the start of them all. -/
def operandDepth (first : Nat) : (room : Nat) → Nat
  | 0 => 0
  | room + 1 => operandDepth first room + max 1 (4 * (first * room))

/-- How deep a predicate may be that has rows of so many kinds of operators at the start. -/
def rowsDepth (first kinds room : Nat) : Nat := operandDepth first room + kinds * (first * room)

theorem rowsDepth_zero (first room : Nat) : rowsDepth first 0 room = operandDepth first room := by
  simp [rowsDepth]

theorem rowsDepth_succ (first kinds room : Nat) :
    rowsDepth first (kinds + 1) room = rowsDepth first kinds room + first * room := by
  rw [rowsDepth, rowsDepth, Nat.succ_mul, Nat.add_assoc]

/-- One level is enough to go one deeper. -/
theorem succ_rowsDepth_le (first kinds room : Nat) :
    1 + rowsDepth first kinds room ≤ rowsDepth first kinds (room + 1) := by
  have hmul : kinds * (first * room) ≤ kinds * (first * (room + 1)) :=
    Nat.mul_le_mul_left _ (Nat.mul_le_mul_left _ (Nat.le_succ room))
  rw [rowsDepth, rowsDepth, operandDepth]
  omega

/-- A level is enough for a whole predicate, and two for a predicate in a bracket. -/
theorem rowsDepth_four_le (first room : Nat) :
    rowsDepth first 4 room ≤ operandDepth first (room + 1) ∧
      rowsDepth first 4 room + 2 ≤ operandDepth first (room + 2) := by
  have hmul : first * (room + 1) = first * room + first := Nat.mul_succ first room
  simp only [operandDepth, rowsDepth, hmul]
  omega

open Parse Level

variable {functions : Registry} {predicate : Parse Predicate} {room kinds : Nat}

/-! ## Selectors -/

/-- Whether a reader gives predicates up to some depth. -/
abbrev Shallow (first d : Nat) (x : Parse Predicate) : Prop := Ensures x fun p => p.depth first ≤ d

theorem ensures_depth_dotMember (hp : Shallow first d predicate) :
    Ensures (dotMember functions predicate) fun s => s.depth first ≤ d := by
  refine ensures_offset.bind fun _ _ => ensures_current.bind fun t _ => ?_
  split
  · exact ensures_advance.bind fun _ _ => ensures_pure (Nat.zero_le d)
  · exact ensures_advance.bind fun _ _ => ensures_pure (Nat.zero_le d)
  · split
    · exact ensures_unexpected
    · refine ensures_advance.bind fun _ _ => ensures_current.bind fun _ _ => ?_
      split
      · exact ensures_selectorCall hp fun f args _ _ hargs => argumentsDepth_le_iff.2 hargs
      · exact ensures_pure (Nat.zero_le d)

theorem ensures_depth_afterDescent :
    Ensures afterDescent fun chain => chainDepth first (.descent :: chain) ≤ d := by
  refine ensures_current.bind fun t _ => ?_
  split
  · exact ensures_advance.bind fun _ _ => ensures_pure (Nat.zero_le d)
  · split
    · exact ensures_advance.bind fun _ _ => ensures_pure (Nat.zero_le d)
    · exact ensures_pure (Nat.zero_le d)

/-! ## Levels -/

/-- Whether what may follow in a row of a kind adds no more to what stands before than there is
room for. It must be as deep before as an operand in the row may be. -/
def RowShallow (first kinds room : Nat) (rest : Predicate → Parse Predicate) : Prop :=
  ∀ (d : Nat) (p : Predicate), rowsDepth first kinds room ≤ d → p.depth first ≤ d →
    Shallow first (d + first * room) (rest p)

/-- Whether all readers of a level keep to the depths that there is room for. A predicate takes a
level of its own and so is less deep than an operand. -/
structure Level.IsShallow (first room : Nat) (level : Level) : Prop where
  predicate : Ensures level.predicate fun p =>
    p.depth first ≤ operandDepth first room ∧ p.depth first + 2 ≤ operandDepth first (room + 1)
  segments : Ensures level.segments fun chain => chainDepth first chain ≤ operandDepth first room
  unary : Shallow first (operandDepth first room) level.unary
  product : Shallow first (rowsDepth first 1 room) level.product
  comparison : Shallow first (rowsDepth first 2 room) level.comparison
  conjunction : Shallow first (rowsDepth first 3 room) level.conjunction
  disjunction : Shallow first (rowsDepth first 4 room) level.disjunction
  productRest : RowShallow first 0 room level.productRest
  sumRest : RowShallow first 1 room level.sumRest
  conjunctionRest : RowShallow first 2 room level.conjunctionRest
  disjunctionRest : RowShallow first 3 room level.disjunctionRest

/-- The level below some room, if there is one. -/
def IsShallowBelow (first room : Nat) (below : Option Level) : Prop :=
  ∀ level ∈ below, ∃ n, room = n + 1 ∧ level.IsShallow first n

variable {level : Level} {below : Option Level}

theorem ensures_depth_bracketItem (hl : level.IsShallow first n) :
    Ensures (bracketItem level)
      fun chain => 1 + chainDepth first chain ≤ operandDepth first (n + 1) := by
  have hone : 1 + operandDepth first n ≤ operandDepth first (n + 1) := by
    simpa [rowsDepth_zero] using succ_rowsDepth_le first 0 n
  have hflat {s : Selector} (hs : s.depth first = 0) :
      1 + chainDepth first [s] ≤ operandDepth first (n + 1) := by
    rw [chainDepth_singleton, hs]
    omega
  have hnested {s : Selector} {p : Predicate} (hs : s.depth first = 1 + p.depth first)
      (hp : p.depth first + 2 ≤ operandDepth first (n + 1)) :
      1 + chainDepth first [s] ≤ operandDepth first (n + 1) := by
    rw [chainDepth_singleton, hs]
    omega
  have hposition : Ensures (do return [← indexOrSlice])
      fun chain => 1 + chainDepth first chain ≤ operandDepth first (n + 1) :=
    (ensures_indexOrSlice (Q := fun s => s.depth first = 0) (fun _ _ => rfl) fun _ _ => rfl).bind
      fun _ hs => ensures_pure (hflat hs)
  refine ensures_current.bind fun t _ => ?_
  cases t with
  | string | identifier | boolean | null =>
    exact ensures_advance.bind fun _ _ => ensures_pure (hflat rfl)
  | integer => exact hposition
  | float | regex | endOfText => exact ensures_unexpected
  | mark m =>
    cases m with
    | star => exact ensures_advance.bind fun _ _ => ensures_pure (hflat rfl)
    | question =>
      exact ensures_advance.bind fun _ _ => hl.predicate.bind fun _ hp =>
        ensures_pure (hnested rfl hp.2)
    | openParen =>
      refine ensures_offset.bind fun _ _ => ensures_advance.bind fun _ _ => ?_
      exact hl.predicate.bind fun _ hp =>
        ensures_expectClosing.bind fun _ _ => ensures_pure (hnested rfl hp.2)
    | atSign =>
      refine ensures_advance.bind fun _ _ => hl.segments.mono fun chain hchain => ?_
      exact le_trans (Nat.add_le_add_left hchain 1) hone
    | minus | colon => exact hposition
    | _ => exact ensures_unexpected

theorem depth_ofItems_le {items : List Chain} (h : ∀ chain ∈ items, 1 + chainDepth first chain ≤ d)
    (hne : items ≠ []) : (ofItems items).depth first ≤ d := by
  unfold ofItems
  split
  · rename_i s
    have hs := h [s] List.mem_cons_self
    rw [chainDepth_singleton] at hs
    omega
  · obtain ⟨chain, hchain⟩ := List.exists_mem_of_ne_nil items hne
    have hunion : unionDepth first items ≤ d - 1 :=
      unionDepth_le_iff.2 fun c hc => Nat.le_sub_one_of_lt (by have := h c hc; omega)
    have hpos := h chain hchain
    rw [Selector.depth]
    omega

theorem ensures_depth_bracket (hl : level.IsShallow first n) :
    Ensures (bracket level) fun s => s.depth first ≤ operandDepth first (n + 1) :=
  ensures_offset.bind fun _ _ => ensures_advance.bind fun _ _ =>
    (ensures_separated (ensures_depth_bracketItem hl)).bind fun _ hitems =>
      ensures_expectClosing.bind fun _ _ => ensures_pure (depth_ofItems_le hitems.2 hitems.1)

theorem ensures_depth_segments (functions : Registry) (hbelow : IsShallowBelow first room below)
    (hp : Shallow first (operandDepth first room) predicate) :
    Ensures (List.flatten <$> many (segment? functions below predicate))
      fun chain => chainDepth first chain ≤ operandDepth first room := by
  have hone {s : Selector} {d : Nat} (h : s.depth first ≤ d) :
      ∀ c ∈ some [s], chainDepth first c ≤ d := by simpa [chainDepth] using h
  have hsegment : Ensures (segment? functions below predicate)
      fun r => ∀ chain ∈ r, chainDepth first chain ≤ operandDepth first room := by
    refine ensures_current.bind fun t _ => ?_
    split
    · exact ensures_advance.bind fun _ _ => (ensures_depth_dotMember hp).bind fun _ hs =>
        ensures_pure (hone hs)
    · exact ensures_advance.bind fun _ _ => ensures_depth_afterDescent.bind fun _ hs =>
        ensures_pure (by simpa using hs)
    · refine Ensures.bind (ensures_nest fun level hlevel => ?_) fun _ hs => ensures_pure (hone hs)
      obtain ⟨n, rfl, hl⟩ := hbelow level hlevel
      exact ensures_depth_bracket hl
    · exact ensures_pure (by simp)
  refine (ensures_many hsegment).map fun chains hchains => chainDepth_le_iff.2 fun s hs => ?_
  obtain ⟨chain, hchain, hs⟩ := List.mem_flatten.1 hs
  exact chainDepth_le_iff.1 (hchains chain hchain) s hs

/-! ## Predicates -/

theorem ensures_depth_primary (functions : Registry) {segments : Parse Chain}
    (hp : Shallow first d predicate)
    (hs : Ensures segments fun chain => chainDepth first chain ≤ d) :
    Shallow first d (primary functions predicate segments) := by
  refine ensures_offset.bind fun _ _ => ensures_current.bind fun t _ => ?_
  cases t with
  | float | integer | string | boolean | null =>
    exact ensures_advance.bind fun _ _ => ensures_pure (Nat.zero_le d)
  | identifier =>
    exact ensures_advance.bind fun _ _ =>
      ensures_call hp fun f args _ _ hargs => argumentsDepth_le_iff.2 hargs
  | regex | endOfText => exact ensures_unexpected
  | mark m =>
    cases m with
    | atSign | dollar =>
      refine ensures_advance.bind fun _ _ => hs.bind fun chain hchain => ensures_pure ?_
      split
      · exact Nat.zero_le d
      · exact hchain
    | openParen =>
      exact ensures_advance.bind fun _ _ => hp.bind fun _ hq =>
        ensures_expectClosing.bind fun _ _ => ensures_pure hq
    | _ => exact ensures_unexpected

theorem depth_negated_le (p : Predicate) : (negated p).depth first ≤ 1 + p.depth first := by
  unfold negated
  split
  · exact Nat.zero_le _
  · exact Nat.zero_le _
  · exact le_rfl

theorem ensures_depth_unaryOf (hbelow : IsShallowBelow first room below) {operand : Parse Predicate}
    (hp : Shallow first (operandDepth first room) operand) :
    Shallow first (operandDepth first room) (unaryOf below operand) := by
  have hsign {level : Level} (hlevel : level ∈ below) : Ensures level.unary
      fun p => 1 + p.depth first ≤ operandDepth first room := by
    obtain ⟨n, rfl, hl⟩ := hbelow level hlevel
    refine hl.unary.mono fun p hp => ?_
    have hone := succ_rowsDepth_le first 0 n
    rw [rowsDepth_zero, rowsDepth_zero] at hone
    exact le_trans (Nat.add_le_add_left hp 1) hone
  refine ensures_current.bind fun t _ => ?_
  split
  · exact ensures_nest fun level hlevel => ensures_advance.bind fun _ _ =>
      (hsign hlevel).bind fun p hp => ensures_pure hp
  · exact ensures_nest fun level hlevel => ensures_advance.bind fun _ _ =>
      (hsign hlevel).bind fun p hp => ensures_pure (le_trans (depth_negated_le p) hp)
  · exact hp

/-- Whether a connective nests two operands, the first of them with its own weight. -/
def Nests (first : Nat) (combine : Predicate → Predicate → Predicate) : Prop :=
  ∀ p q : Predicate,
    (combine p q).depth first = max (first + p.depth first) (1 + q.depth first)

/-- **One more operator.** The row before an operator becomes its first operand. Its second operand
and what follows in the row have a level less. -/
theorem rowShallow_chained (hbelow : IsShallowBelow first room below)
    {operator? : Token → Option (Predicate → Predicate → Predicate)}
    (hop : ∀ t, ∀ combine ∈ operator? t, Nests first combine)
    {operand : Level → Parse Predicate}
    (hoperand : ∀ (level : Level) (n : Nat), level.IsShallow first n →
      Shallow first (rowsDepth first kinds n) (operand level))
    {rest : Level → Predicate → Parse Predicate}
    (hrest : ∀ (level : Level) (n : Nat), level.IsShallow first n →
      RowShallow first kinds n (rest level)) :
    RowShallow first kinds room (chained below operator? operand rest) := by
  intro d p hd hp
  refine ensures_current.bind fun t _ => ?_
  split
  · rename_i combine hcombine
    refine ensures_nest fun level hlevel => ensures_advance.bind fun _ _ => ?_
    obtain ⟨n, rfl, hl⟩ := hbelow level hlevel
    have hone := succ_rowsDepth_le first kinds n
    refine (hoperand level n hl).bind fun q hq => ?_
    have hjoined : (combine p q).depth first ≤ d + first := by
      rw [hop t combine hcombine]
      omega
    have hmore := hrest level n hl (d + first) (combine p q) (by omega) hjoined
    rwa [Nat.add_assoc, Nat.add_comm first, ← Nat.mul_succ] at hmore
  · exact ensures_pure (le_trans hp (Nat.le_add_right d _))

/-- With one more kind of operators a phrase is as deep as it is without, and a row on top of that.
-/
theorem shallow_row {x : Parse Predicate} {rest : Predicate → Parse Predicate}
    (hx : Shallow first (rowsDepth first kinds room) x) (hrest : RowShallow first kinds room rest) :
    Shallow first (rowsDepth first (kinds + 1) room) (x >>= rest) := by
  rw [rowsDepth_succ]
  exact hx.bind fun p hp => hrest _ p le_rfl hp

theorem shallow_comparisonOf {sum : Parse Predicate} (hsum : Shallow first d sum) :
    Shallow first d (comparisonOf sum) := by
  refine hsum.bind fun left hleft => ensures_accept.bind fun _ _ => ?_
  split
  · exact ensures_regex.bind fun r _ => ensures_pure hleft
  · refine ensures_current.bind fun t _ => ?_
    split
    · exact ensures_advance.bind fun _ _ => hsum.bind fun right hright =>
        ensures_pure (max_le hleft hright)
    · exact ensures_pure hleft

theorem nests_operation (op : Operation) : Nests first (.operation op) := fun _ _ => rfl

theorem nests_and : Nests first .and := fun _ _ => rfl

theorem nests_or : Nests first .or := fun _ _ => rfl

/-- **One level.** The depths of a level follow from those of the level below it. -/
theorem isShallow_above (hbelow : IsShallowBelow first room below) :
    (Level.above functions below).IsShallow first room := by
  have hpredicate : Ensures (nest below Level.disjunction) fun p =>
      p.depth first ≤ operandDepth first room ∧
        p.depth first + 2 ≤ operandDepth first (room + 1) := by
    refine ensures_nest fun level hlevel => ?_
    obtain ⟨n, rfl, hl⟩ := hbelow level hlevel
    obtain ⟨hlevels, hbracket⟩ := rowsDepth_four_le first n
    exact hl.disjunction.mono fun p hp =>
      ⟨le_trans hp hlevels, le_trans (Nat.add_le_add_right hp 2) hbracket⟩
  have hshallow : Shallow first (operandDepth first room) (nest below Level.disjunction) :=
    hpredicate.mono fun p hp => hp.1
  have hsegments := ensures_depth_segments functions hbelow hshallow
  have hunary := ensures_depth_unaryOf hbelow
    (ensures_depth_primary functions hshallow hsegments)
  have hproductRest : RowShallow first 0 room (chained below _ Level.unary Level.productRest) :=
    rowShallow_chained hbelow (forall_operation? nests_operation productOperation?)
      (fun _ n h => by rw [rowsDepth_zero]; exact h.unary) (fun _ _ h => h.productRest)
  have hproduct := shallow_row (by rwa [rowsDepth_zero]) hproductRest
  have hsumRest := rowShallow_chained hbelow (forall_operation? nests_operation sumOperation?)
    (fun _ _ h => h.product) (fun _ _ h => h.sumRest)
  have hcomparison := shallow_comparisonOf (shallow_row hproduct hsumRest)
  have hconjunctionRest := rowShallow_chained hbelow (forall_connective nests_and .and)
    (fun _ _ h => h.comparison) (fun _ _ h => h.conjunctionRest)
  have hconjunction := shallow_row hcomparison hconjunctionRest
  have hdisjunctionRest := rowShallow_chained hbelow (forall_connective nests_or .or)
    (fun _ _ h => h.conjunction) (fun _ _ h => h.disjunctionRest)
  exact {
    predicate := hpredicate
    segments := hsegments
    unary := hunary
    product := hproduct
    comparison := hcomparison
    conjunction := hconjunction
    disjunction := shallow_row hconjunction hdisjunctionRest
    productRest := hproductRest
    sumRest := hsumRest
    conjunctionRest := hconjunctionRest
    disjunctionRest := hdisjunctionRest }

theorem isShallow_ofRoom (first n : Nat) : (Level.ofRoom functions n).IsShallow first n := by
  induction n with
  | zero => exact isShallow_above (by simp [IsShallowBelow])
  | succ n ih => exact isShallow_above (by simpa [IsShallowBelow] using ih)

/-- **Depth of what is read.** The chain that any text is read to is no deeper than an operand can
be that has all levels to itself. -/
theorem chainDepth_of_parsePath {text : String} {chain : Chain}
    (h : parsePath functions text = .ok chain) (first : Nat) :
    chainDepth first chain ≤ operandDepth first maxNesting := by
  refine Ensures.of_readAll (P := fun c => chainDepth first c ≤ operandDepth first maxNesting) ?_ h
  refine ensures_expect.bind fun _ _ =>
    (isShallow_ofRoom first maxNesting).segments.bind fun c hc => ensures_current.bind fun _ _ => ?_
  split
  · exact ensures_pure hc
  · exact ensures_fail
  · exact ensures_fail
  · exact ensures_unexpected

/-! ## The deepest texts -/

/-- Going into first operands without a count, there is a level for each step. -/
theorem operandDepth_zero (n : Nat) : operandDepth 0 n = n := by
  induction n with
  | zero => rfl
  | succ n ih => simp [operandDepth, ih]

theorem operandDepth_one_succ (n : Nat) : operandDepth 1 (n + 1) = 2 * (n + 1) * n + 1 := by
  induction n with
  | zero => rfl
  | succ n ih =>
    rw [operandDepth, ih, max_eq_right (by omega)]
    ring

theorem Connective.nests {c : Connective} (hc : c.isChained) : Nests first c.combine := by
  cases c with
  | comparison => contradiction
  | operation op => exact nests_operation op
  | and => exact nests_and
  | or => exact nests_or

namespace Formula

variable {f : Formula} {c : Connective} {k : Nat}

/-- A row of operators, each with a one after it, and with a formula at the start. -/
def rowFrom (c : Connective) (f : Formula) : (length : Nat) → Formula
  | 0 => f
  | length + 1 => .binary c (rowFrom c f length) (.integer 1)

/-- Rows of all four kinds of operators, one at the start of the other. -/
def rowsFrom (f : Formula) (length : Nat) : Formula :=
  rowFrom .or (rowFrom .and (rowFrom (.operation .add) (rowFrom (.operation .multiply) f length)
    length) length) length

/-- The deepest operand for some levels. -/
def deepest : (room : Nat) → Formula
  | 0 => .current []
  | 1 => .minus (.current [])
  | room + 2 => .group (rowsFrom (deepest (room + 1)) (room + 1))

/-- Whether a formula holds together at least so strongly, takes no more than some levels, and is
nested to some depth. -/
structure Reaches (f : Formula) (k room d : Nat) : Prop where
  grouped : f.Grouped
  le_strength : k ≤ f.strength
  levels_le : f.levels ≤ room
  depth_eq : f.predicate.depth 1 = d

/-- Each operator of a row takes one more level on the right, and goes one deeper on the left. -/
theorem Reaches.rowFrom_le (hf : f.Reaches (c.strength + 1) room d) (hc : c.isChained)
    (hk : k ≤ room) :
    (rowFrom c f k).Reaches c.strength room (d + k) ∧ (rowFrom c f k).rowLength c.strength = k := by
  induction k with
  | zero =>
    exact ⟨{ hf with le_strength := Nat.le_of_succ_le hf.le_strength },
      rowLength_eq_zero hf.le_strength⟩
  | succ k ih =>
    obtain ⟨hrow, hlength⟩ := ih (by omega)
    have hstrength := c.strength_le_five
    have hlevels := hrow.levels_le
    refine ⟨⟨⟨⟨?_, hrow.grouped⟩, ?_, ?_⟩, le_rfl, ?_, ?_⟩, ?_⟩
    · rw [if_pos hc]
      exact hrow.le_strength
    · exact Nat.lt_of_le_of_lt hstrength (by decide)
    · show 0 ≤ (1 : Int64).toInt
      decide
    · rw [rowFrom, levels, if_pos hc, hlength]
      exact max_le hlevels (by simpa [levels] using hk)
    · have hright : (integer 1).predicate.depth 1 = 0 := rfl
      rw [rowFrom, predicate, Connective.nests hc, hrow.depth_eq, hright]
      omega
    · rw [rowFrom, rowLength, if_pos rfl, hlength]

theorem Reaches.rowFrom (hf : f.Reaches (c.strength + 1) room d) (hc : c.isChained) :
    (rowFrom c f room).Reaches c.strength room (d + room) := (hf.rowFrom_le hc le_rfl).1

theorem Reaches.mono {j : Nat} (hf : f.Reaches j room d) (hk : k ≤ j) : f.Reaches k room d :=
  { hf with le_strength := le_trans hk hf.le_strength }

theorem Reaches.rowsFrom (hf : f.Reaches 6 room d) :
    (rowsFrom f room).Reaches 1 room (d + 4 * room) := by
  have hproduct := hf.rowFrom (c := .operation .multiply) rfl
  have hsum := hproduct.rowFrom (c := .operation .add) rfl
  have hconjunction := (hsum.mono (k := 3) (by decide)).rowFrom (c := .and) rfl
  have hdisjunction := hconjunction.rowFrom (c := .or) rfl
  exact { hdisjunction with depth_eq := by rw [Formula.rowsFrom, hdisjunction.depth_eq]; ring }

/-- **The room can be used up.** The deepest operand for some levels takes no more than these, and
is as deep as an operand can be with them. -/
theorem reaches_deepest (n : Nat) : (deepest n).Reaches 6 n (operandDepth 1 n) := by
  induction n using deepest.induct with
  | case1 => exact ⟨List.forall_mem_nil _, le_rfl, le_rfl, rfl⟩
  | case2 => exact ⟨⟨rfl, le_rfl, List.forall_mem_nil _⟩, le_rfl, le_rfl, rfl⟩
  | case3 n ih =>
    have hrows := ih.rowsFrom
    refine ⟨hrows.grouped, le_rfl, Nat.succ_le_succ hrows.levels_le, ?_⟩
    have hroom : operandDepth 1 (n + 2) = operandDepth 1 (n + 1) + 4 * (n + 1) := by
      rw [operandDepth, one_mul, max_eq_right (by omega)]
    exact hrows.depth_eq.trans hroom.symm

/-- Every formula starts with a token that starts an operand. -/
theorem startsOperand_front :
    ∀ (f : Formula) (ts : List Token), startsOperand (front (f.tokens ++ ts))
  | binary c l r, ts => by
    rw [tokens, List.append_assoc]
    exact startsOperand_front l _
  | integer _, _ | string _, _ | boolean _, _ | null, _ | current _, _ | root _, _ | group _, _
  | not _, _ | minus _, _ => rfl

/-- Every predicate that the levels are enough for can be the argument of a call. -/
theorem exists_contains (functions : Registry) (hf : f.Grouped) (hlevels : f.levels < maxNesting) :
    ∃ text, parsePath functions text = .ok [.call (.builtin .contains) [f.predicate]] := by
  have hwritten : ∀ t ∈ .mark .dollar :: .mark .dot :: wordToken "contains" :: .mark .openParen ::
      (f.tokens ++ [.mark .closeParen]), t.IsWritten := by
    simp only [List.forall_mem_cons, List.forall_mem_append]
    exact ⟨isWritten_mark (by simp), isWritten_mark (by simp),
      isWritten_word (.of_toList rfl (by decide)), isWritten_mark (by simp),
      isWritten_of_mem_tokens f hf, isWritten_mark (by simp), List.forall_mem_nil _⟩
  refine ⟨_, readAll_of_takes (spells_spaced hwritten).tokens?_lexemes ?_⟩
  have hargument : Takes (ofRoom functions maxNesting).predicate (f.tokens ++ [.mark .closeParen])
      [.mark .closeParen] f.predicate := by
    have hroom : maxNesting = 63 + 1 := rfl
    have hread : TakesIf (f.levels ≤ 63) (ofRoom functions 63).disjunction
        (f.tokens ++ [.mark .closeParen]) [.mark .closeParen] f.predicate :=
      (isRead f hf).disjunction (by simp [Query.strength])
    rw [hroom, predicate_succ]
    exact hread.takes (Nat.le_of_lt_succ hlevels)
  have hresolve : functions.resolve? (Function.builtin .contains).name =
      some (.builtin .contains) := by
    rw [Registry.resolve?, Function.name, Builtin.ofName?_name]
  have hcall : Takes (segment? functions (below functions maxNesting)
      (ofRoom functions maxNesting).predicate)
      (.mark .dot :: wordToken "contains" :: .mark .openParen ::
        (f.tokens ++ [.mark .closeParen])) [] (some [.call (.builtin .contains) [f.predicate]]) :=
    takes_selectorCall (f := .builtin .contains) hresolve rfl fun o =>
      takes_arguments (startsOperand_front f _)
        (takes_separated hargument (.nil (takes_furtherItem_none (by simp)))) o
  have hchain : Takes (ofRoom functions maxNesting).segments _ []
      [.call (.builtin .contains) [f.predicate]] := takes_segments
    (.cons hcall (by simp) (.nil (takes_segment?_none (by simp [Query.strength]))))
  exact (takes_expect _ _ _).bind (hchain.bind (takes_current.bind takes_pure))

end Formula

end Query

namespace Expression

open Query

/-- **Depth.** In what a text compiles to, unions, filters, computed positions, signs and operators
are nested no deeper than there are levels, if the steps into first operands of operators do not
count. If they count, there still is a greatest depth, which is much greater. -/
theorem depth_bounds (functions : Registry) :
    (∀ text e, compile functions text = .ok e → chainDepth 0 e.selectors ≤ maxNesting) ∧
      IsGreatest {d | ∃ text e, compile functions text = .ok e ∧ chainDepth 1 e.selectors = d}
        (2 * maxNesting * (maxNesting - 1) + 1) := by
  have hbound {first : Nat} {text : String} {e : Expression} (h : compile functions text = .ok e) :
      chainDepth first e.selectors ≤ operandDepth first maxNesting :=
    chainDepth_of_parsePath (compile_eq_ok.1 h).2 first
  refine ⟨fun text e h => (hbound h).trans_eq (operandDepth_zero _), ?_, ?_⟩
  · have hrows := (Formula.reaches_deepest 63).rowsFrom
    obtain ⟨text, htext⟩ := Formula.exists_contains functions hrows.grouped
      (Nat.lt_succ_of_le hrows.levels_le)
    refine ⟨text, ⟨text, _⟩, compile_eq_ok.2 ⟨rfl, htext⟩, ?_⟩
    simp only [chainDepth_singleton, Selector.depth, argumentsDepth, hrows.depth_eq]
    rfl
  · rintro d ⟨text, e, h, rfl⟩
    exact (hbound h).trans_eq (operandDepth_one_succ 63)

set_option maxRecDepth 4000 in
/-- A filter, as many signs as there are levels left, and two operators: the signs are read before
the operators, which then have these levels again. -/
theorem depth_exceeds_levels : ∃ e,
    compile .empty "$[?--------------------------------------------------------------@*1*1]" =
      .ok e ∧ maxNesting < chainDepth 1 e.selectors := by
  refine ⟨⟨_, _⟩, compile_eq_ok.2 ⟨rfl, (readAll_of_lexemes (by cbv) rfl).trans rfl⟩, ?_⟩
  decide

end Expression

end JsonPath

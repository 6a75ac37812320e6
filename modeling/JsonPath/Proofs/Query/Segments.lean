import JsonPath.Evaluation.Expression
import JsonPath.Proofs.Query.Locality
import JsonPath.Proofs.Query.Phrases

/-!
# Segments one after the other

What a path is read to does not change when a bracket comes after it: its segments are read as
before, and then come those of what is in and after the bracket. So paths can be put together, and
it does not matter how many segments there are, since each is read with all the levels there are.

* `Level.IsLocal` — the readers of a level; none of them may go on at the end.
* `localAt_segment?` — a segment ends where a bracket opens as it does at the end.
* `parsePath_append` — two paths put together.
* `Expression.compile_segments` — a path and any number of segments in brackets after it.
-/

namespace JsonPath

namespace Query

open Parse Lexemes

/-! ## Calls -/

variable {functions : Registry} {predicate : Parse Predicate} {k : Nat} {t : Token}
  {next : Token → Prop}

theorem local_arguments (hp : Local AtEnd predicate predicate) (o o' : Nat) :
    Local next (arguments predicate o) (arguments predicate o') := by
  have harguments (o : Nat) : arguments predicate o = (do
      let t ← current
      if t == .mark .closeParen || t == .endOfText then pure [] else separated predicate) >>=
        fun args => do expectClosing .closeParen '(' o; return args := by
    rw [arguments, bind_assoc]
    refine congrArg (current >>= ·) (funext fun t => ?_)
    split <;> rfl
  rw [harguments, harguments]
  refine fun t => (localAt_current_bind ?_ fun _ _ h => h.elim).closed .closeParen '(' o o' id
  split
  · exact localAt_pure
  · exact local_separated hp t

theorem localAt_selectorCall (hp : Local AtEnd predicate predicate) (name : String) (o o' : Nat) :
    LocalAt 1 (.mark .openParen) next (selectorCall functions predicate name o)
      (selectorCall functions predicate name o') := by
  unfold selectorCall resolve
  cases functions.resolve? name with
  | none => exact .of_forall_ne fun _ _ _ h => nomatch h
  | some f =>
    refine localAt_offset_bind fun p p' => (localAt_advance (by simp)).bind fun _ =>
      (local_arguments hp p p').bind fun args => ?_
    split
    · exact fun _ => localAt_failAt
    · exact fun _ => localAt_pure

theorem local_call (hp : Local AtEnd predicate predicate) (name : String) (o o' : Nat) :
    Local next (call functions predicate name o) (call functions predicate name o') := by
  unfold call resolve
  cases functions.resolve? name with
  | none => exact fun _ => .of_forall_ne fun _ _ _ h => nomatch h
  | some f =>
    refine fun t => localAt_offset_bind fun p p' => (local_expect _ _ t).bind fun _ =>
      (local_arguments hp p p').bind fun args => ?_
    split
    · exact fun _ => localAt_failAt
    · exact fun _ => localAt_pure

/-! ## Segments -/

/-- What may come next at the end of a segment. -/
abbrev OpensBracket (t : Token) : Prop := t = .mark .openBracket

theorem ne_endOfText_of_memberName? {name : String} (h : memberName? t = some name) :
    t ≠ .endOfText := by
  rintro rfl
  contradiction

theorem local_dotMember (hp : Local AtEnd predicate predicate)
    (hnext : ∀ t, next t → OpensBracket t) :
    Local next (dotMember functions predicate) (dotMember functions predicate) := by
  have hname (name : String) (o o' : Nat) : Local next
      (do if (← current) == .mark .openParen then selectorCall functions predicate name o
          else return .name name)
      (do if (← current) == .mark .openParen then selectorCall functions predicate name o'
          else return .name name) := by
    intro t
    refine localAt_current_bind ?_ fun _ t' ht' => ?_
    · split
      · rename_i heq
        obtain rfl := beq_iff_eq.1 heq
        exact (localAt_selectorCall hp name o o').zero
      · exact localAt_pure
    · obtain rfl := hnext t' ht'
      rw [if_neg (by simp), if_neg (by simp)]
  intro t
  refine localAt_offset_bind fun o o' => localAt_current_bind ?_ fun _ t' ht' => ?_
  · split
    · exact ((localAt_advance (by simp)).bind fun _ _ => localAt_pure).zero
    · exact ((localAt_advance (by simp)).bind fun _ _ => localAt_pure).zero
    · cases hmember : memberName? t with
      | none => exact localAt_unexpected
      | some name =>
        exact ((localAt_advance (ne_endOfText_of_memberName? hmember)).bind fun _ =>
          hname name o o').zero
  · obtain rfl := hnext t' ht'
    rfl

theorem local_afterDescent (hnext : ∀ t, next t → OpensBracket t) :
    Local next afterDescent afterDescent := by
  intro t
  refine localAt_current_bind ?_ fun _ t' ht' => ?_
  · split
    · exact ((localAt_advance (by simp)).bind fun _ _ => localAt_pure).zero
    · cases hmember : memberName? t with
      | none => exact localAt_pure
      | some name =>
        exact ((localAt_advance (ne_endOfText_of_memberName? hmember)).bind
          fun _ _ => localAt_pure).zero
  · obtain rfl := hnext t' ht'
    rfl

theorem local_signed : Local AtEnd signed signed := by
  refine (local_accept .minus).bind fun negative t => localAt_current_bind ?_ fun _ _ h => h.elim
  split
  · exact ((localAt_advance (by simp)).bind fun _ _ => localAt_pure).zero
  · split
    · exact localAt_unexpected
    · exact localAt_pure

theorem local_sliceStep : Local AtEnd sliceStep sliceStep := by
  refine fun t => localAt_offset_bind fun o o' => (local_signed t).bind fun step => ?_
  split
  · exact fun _ => localAt_failAt
  · exact fun _ => localAt_pure

theorem local_indexOrSlice : Local AtEnd indexOrSlice indexOrSlice := by
  refine local_signed.bind fun start => (local_accept .colon).bind fun colon => ?_
  split
  · refine local_signed.bind fun stop => (local_accept .colon).bind fun colon => ?_
    split
    · exact local_sliceStep.bind fun _ _ => localAt_pure
    · exact fun _ => localAt_pure
  · split
    · exact fun _ => localAt_pure
    · exact fun _ => localAt_unexpected

/-! ## Levels -/

/-- Whether no reader of a level sees what comes after it. -/
structure Level.IsLocal (level : Level) : Prop where
  predicate : Local AtEnd level.predicate level.predicate
  segments : Local AtEnd level.segments level.segments
  unary : Local AtEnd level.unary level.unary
  product : Local AtEnd level.product level.product
  comparison : Local AtEnd level.comparison level.comparison
  conjunction : Local AtEnd level.conjunction level.conjunction
  disjunction : Local AtEnd level.disjunction level.disjunction
  productRest : ∀ p, Local AtEnd (level.productRest p) (level.productRest p)
  sumRest : ∀ p, Local AtEnd (level.sumRest p) (level.sumRest p)
  conjunctionRest : ∀ p, Local AtEnd (level.conjunctionRest p) (level.conjunctionRest p)
  disjunctionRest : ∀ p, Local AtEnd (level.disjunctionRest p) (level.disjunctionRest p)

variable {level : Level} {below : Option Level}

theorem localAt_nest {α : Type} {read : Level → Parse α}
    (h : ∀ level ∈ below, LocalAt k t next (read level) (read level)) :
    LocalAt k t next (nest below read) (nest below read) := by
  cases below with
  | none => exact localAt_fail
  | some level => exact h level rfl

theorem local_bracketItem (hl : level.IsLocal) :
    Local AtEnd (bracketItem level) (bracketItem level) := by
  intro t
  refine localAt_current_bind ?_ fun _ _ h => h.elim
  have hposition : Local AtEnd (do return [← indexOrSlice]) (do return [← indexOrSlice]) :=
    local_indexOrSlice.bind fun _ _ => localAt_pure
  cases t with
  | string | identifier | boolean | null =>
    exact ((localAt_advance (by simp)).bind fun _ _ => localAt_pure).zero
  | integer => exact hposition _
  | float | regex | endOfText => exact localAt_unexpected
  | mark m =>
    cases m with
    | star => exact ((localAt_advance (by simp)).bind fun _ _ => localAt_pure).zero
    | question =>
      exact ((localAt_advance (by simp)).bind fun _ =>
        hl.predicate.bind fun _ _ => localAt_pure).zero
    | openParen =>
      exact localAt_offset_bind fun o o' => ((localAt_advance (by simp)).bind fun _ t =>
        (hl.predicate t).closed .closeParen '(' o o' fun p => [Selector.computed p]).zero
    | atSign => exact ((localAt_advance (by simp)).bind fun _ => hl.segments).zero
    | minus | colon => exact hposition _
    | _ => exact localAt_unexpected

theorem localAt_bracket (hl : level.IsLocal) :
    LocalAt 1 (.mark .openBracket) next (bracket level) (bracket level) :=
  localAt_offset_bind fun o o' => (localAt_advance (by simp)).bind fun _ t =>
    (local_separated (local_bracketItem hl) t).closed .closeBracket '[' o o' ofItems

/-- The tokens that segments start with. -/
def startsSegment (t : Token) : Prop := t = .mark .dot ∨ t = .mark .dotDot ∨ t = .mark .openBracket

/-- **A bracket ends a segment.** A segment is read before a bracket just as it is before the end,
and takes at least one token. -/
theorem localAt_segment? (hbelow : ∀ level ∈ below, level.IsLocal)
    (hp : Local AtEnd predicate predicate) (hnext : ∀ t, next t → OpensBracket t)
    (ht : startsSegment t) :
    LocalAt 1 t next (segment? functions below predicate) (segment? functions below predicate) := by
  refine localAt_current_bind ?_ ?_
  · rcases ht with rfl | rfl | rfl
    · exact (localAt_advance (by simp)).bind fun _ =>
        (local_dotMember hp hnext).bind fun _ _ => localAt_pure
    · exact (localAt_advance (by simp)).bind fun _ =>
        (local_afterDescent hnext).bind fun _ _ => localAt_pure
    · exact (localAt_nest fun level hlevel => localAt_bracket (hbelow level hlevel)).bind
        fun _ _ => localAt_pure
  · rintro rfl
    simp [startsSegment] at ht

theorem segment?_eq_none {L : Lexemes} (h : ¬startsSegment L.token) :
    segment? functions below predicate L = .ok (none, L) := by
  simp only [startsSegment, not_or] at h
  unfold segment?
  rw [current_bind_apply]
  generalize L.token = t at h ⊢
  split
  · exact absurd rfl h.1
  · exact absurd rfl h.2.1
  · exact absurd rfl h.2.2
  · rfl

theorem segment?_ne_none {L L' : Lexemes} (h : startsSegment L.token) :
    segment? functions below predicate L ≠ .ok (none, L') := by
  intro heq
  unfold segment? at heq
  rw [current_bind_apply] at heq
  rcases h with h | h | h
  · rw [h] at heq
    obtain ⟨_, _, -, hmember⟩ := bind_apply_eq_ok.1 heq
    obtain ⟨_, _, -, hnone⟩ := bind_apply_eq_ok.1 hmember
    exact nomatch (Prod.mk.inj (Except.ok.inj hnone)).1
  · rw [h] at heq
    obtain ⟨_, _, -, hafter⟩ := bind_apply_eq_ok.1 heq
    obtain ⟨_, _, -, hnone⟩ := bind_apply_eq_ok.1 hafter
    exact nomatch (Prod.mk.inj (Except.ok.inj hnone)).1
  · rw [h] at heq
    obtain ⟨_, _, -, hnone⟩ := bind_apply_eq_ok.1 heq
    exact nomatch (Prod.mk.inj (Except.ok.inj hnone)).1

theorem repeats_segment? (hbelow : ∀ level ∈ below, level.IsLocal)
    (hp : Local AtEnd predicate predicate) (hnext : ∀ t, next t → OpensBracket t) :
    Repeats startsSegment next (segment? functions below predicate)
      (segment? functions below predicate) where
  notEnd := by simp [startsSegment]
  item _ ht := localAt_segment? hbelow hp hnext ht
  stop _ hL := ⟨segment?_eq_none hL, segment?_eq_none hL⟩

theorem local_segments (functions : Registry) (hbelow : ∀ level ∈ below, level.IsLocal)
    (hp : Local AtEnd predicate predicate) :
    Local AtEnd (List.flatten <$> many (segment? functions below predicate))
      (List.flatten <$> many (segment? functions below predicate)) :=
  (repeats_segment? hbelow hp fun _ h => h.elim).local_many.map List.flatten

/-! ### Predicates -/

theorem local_primary (functions : Registry) {segments : Parse Chain}
    (hp : Local AtEnd predicate predicate)
    (hs : Local AtEnd segments segments) :
    Local AtEnd (primary functions predicate segments) (primary functions predicate segments) := by
  refine fun t => localAt_offset_bind fun o o' => localAt_current_bind ?_ fun _ _ h => h.elim
  cases t with
  | float | integer | string | boolean | null =>
    exact ((localAt_advance (by simp)).bind fun _ _ => localAt_pure).zero
  | identifier name =>
    exact ((localAt_advance (by simp)).bind fun _ => local_call hp name o o').zero
  | regex | endOfText => exact localAt_unexpected
  | mark m =>
    cases m with
    | atSign | dollar =>
      exact ((localAt_advance (by simp)).bind fun _ => hs.bind fun _ _ => localAt_pure).zero
    | openParen =>
      exact ((localAt_advance (by simp)).bind fun _ t =>
        (hp t).closed .closeParen '(' o o' id).zero
    | _ => exact localAt_unexpected

theorem local_unaryOf (hbelow : ∀ level ∈ below, level.IsLocal) {operand : Parse Predicate}
    (hp : Local AtEnd operand operand) :
    Local AtEnd (unaryOf below operand) (unaryOf below operand) := by
  refine fun t => localAt_current_bind ?_ fun _ _ h => h.elim
  have hsign (ht : t ≠ .endOfText) (sign : Predicate → Predicate) : LocalAt 0 t AtEnd
      (nest below fun level => do advance; return sign (← level.unary))
      (nest below fun level => do advance; return sign (← level.unary)) :=
    localAt_nest fun level hlevel => ((localAt_advance ht).bind fun _ =>
      (hbelow level hlevel).unary.bind fun _ _ => localAt_pure).zero
  split
  · exact hsign (by simp) .not
  · exact hsign (by simp) negated
  · exact hp t

theorem local_chained (hbelow : ∀ level ∈ below, level.IsLocal)
    (operator? : Token → Option (Predicate → Predicate → Predicate))
    (hend : operator? .endOfText = none) {operand : Level → Parse Predicate}
    (hoperand : ∀ level : Level, level.IsLocal → Local AtEnd (operand level) (operand level))
    {rest : Level → Predicate → Parse Predicate}
    (hrest : ∀ level : Level, level.IsLocal → ∀ p, Local AtEnd (rest level p) (rest level p))
    (p : Predicate) :
    Local AtEnd (chained below operator? operand rest p)
      (chained below operator? operand rest p) := by
  refine fun t => localAt_current_bind ?_ fun _ _ h => h.elim
  cases hop : operator? t with
  | none => exact localAt_pure
  | some combine =>
    have ht : t ≠ .endOfText := by
      rintro rfl
      rw [hend] at hop
      contradiction
    refine localAt_nest fun level hlevel => ((localAt_advance ht).bind fun _ => ?_).zero
    have hl := hbelow level hlevel
    exact (hoperand level hl).bind fun q => hrest level hl _

theorem local_regex : Local AtEnd regex regex := by
  refine fun t => localAt_current_bind ?_ fun _ _ h => h.elim
  split
  · split
    · exact ((localAt_advance (by simp)).bind fun _ _ => localAt_pure).zero
    · exact localAt_fail
  · exact localAt_unexpected

theorem local_comparisonOf {sum : Parse Predicate} (h : Local AtEnd sum sum) :
    Local AtEnd (comparisonOf sum) (comparisonOf sum) := by
  refine h.bind fun left => (local_accept .matchSign).bind fun found => ?_
  split
  · exact local_regex.bind fun _ _ => localAt_pure
  · refine fun t => localAt_current_bind ?_ fun _ _ h => h.elim
    cases hop : comparison? t with
    | none => exact localAt_pure
    | some op =>
      have ht : t ≠ .endOfText := by
        rintro rfl
        contradiction
      exact ((localAt_advance ht).bind fun _ => h.bind fun _ _ => localAt_pure).zero

/-- **One level.** The readers of a level see no more than those of the level below it. -/
theorem isLocal_above (hbelow : ∀ level ∈ below, level.IsLocal) :
    (Level.above functions below).IsLocal := by
  have hpredicate : Local AtEnd (nest below Level.disjunction) (nest below Level.disjunction) :=
    fun t => localAt_nest fun level hlevel => (hbelow level hlevel).disjunction t
  have hsegments := local_segments functions hbelow hpredicate
  have hunary := local_unaryOf hbelow (local_primary functions hpredicate hsegments)
  have hproductRest := local_chained hbelow
    (fun t => (productOperation? t).map Predicate.operation) rfl
    (fun _ h => h.unary) (fun _ h => h.productRest)
  have hproduct := hunary.bind hproductRest
  have hsumRest := local_chained hbelow
    (fun t => (sumOperation? t).map Predicate.operation) rfl
    (fun _ h => h.product) (fun _ h => h.sumRest)
  have hcomparison := local_comparisonOf (hproduct.bind hsumRest)
  have hconjunctionRest := local_chained hbelow
    (fun t => if t == .mark .and then some .and else none) rfl
    (fun _ h => h.comparison) (fun _ h => h.conjunctionRest)
  have hconjunction := hcomparison.bind hconjunctionRest
  have hdisjunctionRest := local_chained hbelow
    (fun t => if t == .mark .or then some .or else none) rfl
    (fun _ h => h.conjunction) (fun _ h => h.disjunctionRest)
  exact {
    predicate := hpredicate
    segments := hsegments
    unary := hunary
    product := hproduct
    comparison := hcomparison
    conjunction := hconjunction
    disjunction := hconjunction.bind hdisjunctionRest
    productRest := hproductRest
    sumRest := hsumRest
    conjunctionRest := hconjunctionRest
    disjunctionRest := hdisjunctionRest }

theorem isLocal_ofRoom (functions : Registry) (n : Nat) : (Level.ofRoom functions n).IsLocal := by
  induction n with
  | zero => exact isLocal_above (by simp)
  | succ n ih => exact isLocal_above (by simpa using ih)

/-! ## Whole paths -/

theorem isLocal_below (functions : Registry) (n : Nat) :
    ∀ level ∈ Level.below functions n, level.IsLocal := by
  cases n with
  | zero => simp [Level.below]
  | succ n => simpa [Level.below] using isLocal_ofRoom functions n

/-- The segments of paths. -/
abbrev pathSegment? (functions : Registry) : Parse (Option Chain) :=
  segment? functions (Level.below functions maxNesting)
    (Level.ofRoom functions maxNesting).predicate

theorem repeats_pathSegment? (functions : Registry) (hnext : ∀ t, next t → OpensBracket t) :
    Repeats startsSegment next (pathSegment? functions) (pathSegment? functions) :=
  repeats_segment? (isLocal_below functions maxNesting)
    (isLocal_ofRoom functions maxNesting).predicate hnext

theorem length_eq_zero_of_token {L : Lexemes} (h : L.length = 0) : L.token = .endOfText := by
  by_contra htoken
  exact length_ne_zero htoken h

theorem startsAnew_nil : StartsAnew [] := fun _ h => nomatch h

theorem tokensAt_nil (o : Nat) : tokensAt [] o = .done o := by
  rw [tokensAt, Lexemes.read.eq_def]
  rfl

/-- The end of a text may always come next. -/
theorem mayFollow_nil (next : Token → Prop) (o : Nat) (left : Lexemes) :
    MayFollow next (tokensAt [] o) left := by
  rw [tokensAt_nil]
  exact ⟨rfl, fun _ => .inl rfl⟩

/-- Reading that ends at the end of the text leaves nothing. -/
theorem length_eq_zero_of_many {cs : List Char} {o : Nat} {chains : List Chain} {left : Lexemes}
    (hcheck : (tokensAt cs o).check = .ok (tokensAt cs o))
    (hread : many (pathSegment? functions) (tokensAt cs o) = .ok (chains, left))
    (hend : left.token = .endOfText) : left.length = 0 := by
  have hrepeats : Repeats startsSegment AtEnd (pathSegment? functions) (pathSegment? functions) :=
    repeats_pathSegment? functions fun _ h => h.elim
  obtain ⟨hcheckLeft, -, hlong⟩ := hrepeats.local_many _ _ _ _ rfl hcheck hread
  obtain ⟨further, hcontinues⟩ := continues_read startsAnew_nil false cs o o
  obtain ⟨_, -, -, hleft⟩ := hlong _ _ (mayFollow_nil _ further left) hcontinues
  rcases hleft.token hcheckLeft with ⟨htoken, -⟩ | ⟨-, hzero, -⟩
  · exact absurd hend htoken
  · exact hzero

/-- A text that starts with a bracket may come next. -/
theorem mayFollow_openBracket {cs : List Char} (h : cs.head? = some '[') (o : Nat)
    (left : Lexemes) : MayFollow OpensBracket (tokensAt cs o) left := by
  obtain ⟨rest, rfl⟩ := List.head?_eq_some_iff.1 h
  have hbracket : FirstToken ("[".toList ++ rest) (.mark .openBracket) rest :=
    firstToken_mark .openBracket (by simp) trivial
  obtain ⟨here, next, hfirst⟩ := hbracket o
  have htokens : tokensAt ('[' :: rest) o = .more ⟨.mark .openBracket, here⟩ (tokensAt rest next) :=
    hfirst
  rw [htokens]
  exact ⟨rfl, fun _ => .inr rfl⟩

/-- Segments up to the end are read alike wherever they stand. -/
theorem go_pathSegment?_moved {cs : List Char} {o : Nat} {chains : List Chain} {left : Lexemes}
    (hcheck : (tokensAt cs o).check = .ok (tokensAt cs o))
    (hread : many (pathSegment? functions) (tokensAt cs o) = .ok (chains, left))
    (hend : left.length = 0) (o' : Nat) :
    ∃ stop, ∀ fuel, (tokensAt cs o').length < fuel →
      many.go (pathSegment? functions) fuel (tokensAt cs o') = .ok (chains, .done stop) := by
  have hrepeats : Repeats startsSegment AtEnd (pathSegment? functions) (pathSegment? functions) :=
    repeats_pathSegment? functions fun _ h => h.elim
  obtain ⟨hcheckLeft, -, hlong⟩ := hrepeats.go (Nat.lt_succ_self _) hcheck hread
  obtain ⟨stop, hcontinues⟩ := continues_read startsAnew_nil false cs o o'
  rw [List.append_nil] at hcontinues
  refine ⟨stop, fun fuel hfuel => ?_⟩
  obtain ⟨rest, hgo, -, hrest⟩ := hlong _ _ (mayFollow_nil _ stop left) hcontinues fuel hfuel
  rcases hrest.token hcheckLeft with ⟨htoken, -⟩ | ⟨-, -, rfl⟩
  · exact absurd hend (length_ne_zero htoken)
  · rwa [tokensAt_nil] at hgo

/-- A path is a dollar sign and segments up to the end. -/
theorem path_eq_ok {L L' : Lexemes} {chain : Chain} : path functions L = .ok (chain, L') ↔
    ∃ M chains, expect .dollar "'$'" L = .ok ((), M) ∧
      many (pathSegment? functions) M = .ok (chains, L') ∧ L'.token = .endOfText ∧
        chains.flatten = chain := by
  rw [path, Level.segments_eq, map_eq_pure_bind]
  constructor
  · intro h
    obtain ⟨_, M, hdollar, hafter⟩ := bind_apply_eq_ok.1 h
    obtain ⟨c, N, hsegments, hlast⟩ := bind_apply_eq_ok.1 hafter
    obtain ⟨chains, N', hmany, hflat⟩ := bind_apply_eq_ok.1 hsegments
    obtain ⟨rfl, rfl⟩ := Prod.mk.inj (Except.ok.inj hflat)
    rw [current_bind_apply] at hlast
    generalize htoken : N'.token = t at hlast
    split at hlast
    · obtain ⟨rfl, rfl⟩ := Prod.mk.inj (Except.ok.inj hlast)
      exact ⟨M, chains, hdollar, hmany, htoken, rfl⟩
    · contradiction
    · contradiction
    · exact absurd hlast (unexpected_ne_ok _ _ _)
  · rintro ⟨M, chains, hdollar, hmany, hend, rfl⟩
    refine bind_apply_eq_ok.2 ⟨(), M, hdollar, bind_apply_eq_ok.2 ⟨chains.flatten, L', ?_, ?_⟩⟩
    · exact bind_apply_eq_ok.2 ⟨chains, L', hmany, rfl⟩
    · rw [current_bind_apply, hend]
      rfl

theorem expect_more (m : Mark) (expected : String) (o : Nat) (rest : Lexemes) :
    expect m expected (.more ⟨.mark m, o⟩ rest) = rest.check.map fun rest => ((), rest) := by
  change (if Token.mark m == .mark m then advance else unexpected expected : Parse Unit) _ = _
  rw [if_pos (beq_self_eq_true _)]
  rfl

/-- What a path is read to depends on what comes after its dollar sign. -/
theorem parsePath_dollar (functions : Registry) (text : String) :
    ∃ o, ∀ chain, parsePath functions ("$" ++ text) = .ok chain ↔
      (tokensAt text.toList o).check = .ok (tokensAt text.toList o) ∧
        ∃ chains left, many (pathSegment? functions) (tokensAt text.toList o) = .ok (chains, left) ∧
          left.length = 0 ∧ chains.flatten = chain := by
  have hdollar : FirstToken ("$".toList ++ text.toList) (.mark .dollar) text.toList :=
    firstToken_mark .dollar (by simp) trivial
  obtain ⟨here, o, hfirst⟩ := hdollar 0
  have hlexemes : lexemes ("$" ++ text) = .more ⟨.mark .dollar, here⟩ (tokensAt text.toList o) := by
    rw [← hfirst, ← String.toList_append]
    rfl
  refine ⟨o, fun chain => ?_⟩
  have hread : parsePath functions ("$" ++ text) = .ok chain ↔
      ∃ left, path functions (.more ⟨.mark .dollar, here⟩ (tokensAt text.toList o)) =
        .ok (chain, left) := by
    rw [parsePath, readAll_of_lexemes hlexemes rfl]
    cases path functions (.more ⟨.mark .dollar, here⟩ (tokensAt text.toList o)) with
    | error e => simp [Except.map]
    | ok r => simp [Except.map, Prod.ext_iff, eq_comm]
  rw [hread]
  simp only [path_eq_ok, expect_more]
  constructor
  · rintro ⟨left, M, chains, hdollar, hmany, hend, rfl⟩
    cases hcheck : (tokensAt text.toList o).check with
    | error e =>
      rw [hcheck] at hdollar
      contradiction
    | ok N =>
      rw [hcheck] at hdollar
      obtain ⟨-, rfl⟩ := Prod.mk.inj (Except.ok.inj hdollar)
      obtain rfl := check_eq_ok hcheck
      exact ⟨rfl, chains, left, hmany, length_eq_zero_of_many hcheck hmany hend, rfl⟩
  · rintro ⟨hcheck, chains, left, hmany, hleft, rfl⟩
    refine ⟨left, tokensAt text.toList o, chains, ?_, hmany, length_eq_zero_of_token hleft, rfl⟩
    rw [hcheck]
    rfl

/-- **Paths put together.** If two texts are read as paths after a `$`, and the second starts with a
bracket, both in a row are read as the chain of the first and then that of the second. -/
theorem parsePath_append {A B : String} {a b : Chain} (hB : B.toList.head? = some '[')
    (ha : parsePath functions ("$" ++ A) = .ok a) (hb : parsePath functions ("$" ++ B) = .ok b) :
    parsePath functions ("$" ++ (A ++ B)) = .ok (a ++ b) := by
  have hanew : StartsAnew B.toList := fun c hc => by
    rw [hB] at hc
    exact (Option.some.inj hc).symm
  obtain ⟨oA, hpathA⟩ := parsePath_dollar functions A
  obtain ⟨oB, hpathB⟩ := parsePath_dollar functions B
  obtain ⟨oAB, hpathAB⟩ := parsePath_dollar functions (A ++ B)
  obtain ⟨hcheckA, as, leftA, hmanyA, hendA, rfl⟩ := (hpathA a).1 ha
  obtain ⟨hcheckB, bs, leftB, hmanyB, hendB, rfl⟩ := (hpathB b).1 hb
  obtain ⟨o, hcontinues⟩ := continues_read hanew false A.toList oA oAB
  obtain ⟨stop, hfurther⟩ := go_pathSegment?_moved hcheckB hmanyB hendB o
  have hfollow := mayFollow_openBracket hB o leftA
  have hmany := (repeats_pathSegment? functions fun _ h => h).go_append
    (fun _ _ hnone hstarts => segment?_ne_none hstarts hnone) (Nat.lt_succ_self _) hcheckA hmanyA
    hendA hfollow hcontinues hfurther (Nat.lt_succ_self _)
  rw [hpathAB, String.toList_append]
  exact ⟨hcontinues.check hcheckA hfollow.check, as ++ bs, _, hmany, rfl, List.flatten_append⟩

end Query

namespace Expression

open Query

/-- **Segments compile one by one.** A text that compiles may go on with parts that start with a
bracket and compile after a `$`: what comes of the whole is what comes of the text, and then what
comes of each part. -/
theorem compile_segments (functions : Registry) {A : String} {a : Expression}
    (hA : compile functions ("$" ++ A) = .ok a) (parts : List (String × Expression))
    (hparts : ∀ p ∈ parts, p.1.toList.head? = some '[' ∧ compile functions ("$" ++ p.1) = .ok p.2) :
    compile functions ("$" ++ A ++ String.join (parts.map Prod.fst)) =
      .ok ⟨"$" ++ A ++ String.join (parts.map Prod.fst),
        a.selectors ++ (parts.map fun p => p.2.selectors).flatten⟩ := by
  induction parts generalizing A a with
  | nil =>
    obtain ⟨htext, hparse⟩ := compile_eq_ok.1 hA
    refine compile_eq_ok.2 ⟨rfl, ?_⟩
    simpa using hparse
  | cons p parts ih =>
    obtain ⟨⟨hbracket, hp⟩, hrest⟩ := List.forall_mem_cons.1 hparts
    have happend := parsePath_append hbracket (compile_eq_ok.1 hA).2 (compile_eq_ok.1 hp).2
    have hmore := ih (A := A ++ p.1) (a := ⟨"$" ++ (A ++ p.1), a.selectors ++ p.2.selectors⟩)
      (compile_eq_ok.2 ⟨rfl, happend⟩) hrest
    simpa [String.append_assoc] using hmore

/-- A descent at the end, which a bracket follows, a filter with a bracket in its string, and a
union with a call after it. -/
theorem compile_segments_after_descent :
    ∃ a b c, compile .empty ("$" ++ ".a..") = .ok a ∧
      compile .empty ("$" ++ "[?@['['] > 1]") = .ok b ∧
      compile .empty ("$" ++ "['k', -1].length()") = .ok c ∧
      compile .empty
          ("$" ++ ".a.." ++ String.join ["[?@['['] > 1]", "['k', -1].length()"]) =
        .ok ⟨"$" ++ ".a.." ++ String.join ["[?@['['] > 1]", "['k', -1].length()"],
          a.selectors ++ [b.selectors, c.selectors].flatten⟩ := by
  obtain ⟨a, ha⟩ : ∃ a, compile .empty ("$" ++ ".a..") = .ok a :=
    ⟨⟨_, _⟩, compile_eq_ok.2 ⟨rfl, (readAll_of_lexemes (by cbv) rfl).trans rfl⟩⟩
  obtain ⟨b, hb⟩ : ∃ b, compile .empty ("$" ++ "[?@['['] > 1]") = .ok b :=
    ⟨⟨_, _⟩, compile_eq_ok.2 ⟨rfl, (readAll_of_lexemes (by cbv) rfl).trans rfl⟩⟩
  obtain ⟨c, hc⟩ : ∃ c, compile .empty ("$" ++ "['k', -1].length()") = .ok c :=
    ⟨⟨_, _⟩, compile_eq_ok.2 ⟨rfl, (readAll_of_lexemes (by cbv) rfl).trans rfl⟩⟩
  refine ⟨a, b, c, ha, hb, hc, compile_segments .empty ha
    [("[?@['['] > 1]", b), ("['k', -1].length()", c)] fun p hp => ?_⟩
  rcases List.mem_pair.1 hp with rfl | rfl
  · exact ⟨by simp, hb⟩
  · exact ⟨by simp, hc⟩

end Expression

end JsonPath

import JsonPath.Proofs.Number.Range
import JsonPath.Proofs.Query.Coincidence
import JsonPath.Proofs.Query.Integers

/-!
# Opposites of what is read

Every 64-bit integer has an opposite but the least one. Reading takes opposites without a check, at
two places: of the digits after a sign in brackets, and of the operand after a minus sign if that is
an integer. Digits are not negative. An operand may have any number of signs and parentheses of its
own; but what comes of them is again digits or the opposite of something that was read, and so it is
never the least integer.

What is never done can be replaced by anything. So the grammar is taken with an arbitrary way of
taking opposites, and compared level by level with the grammar itself: as long as integers that have
an opposite get it, nothing that is read from a text is different.

* `Lexemes.RestOf` — the points that reading a text comes to.
* `parsePathWith`, `parsePredicateWith` — reading with another way of taking opposites.
* `coincides_aboveWith`, `coincides_ofRoomWith` — one level along the other.
* `negation_never_overflows` — whatever the least integer is negated to, it makes no difference.
-/

namespace JsonPath.Query

open Parse

/-! ## Points of reading -/

/-- The tokens that are left at some point of reading a text: all of them, or what is left of those
at another point after the current one is passed. Readers change the tokens in no other way. -/
inductive Lexemes.RestOf (text : String) : Lexemes → Prop where
  | start {L : Lexemes} (h : (lexemes text).check = .ok L) : RestOf text L
  | pass {L L' : Lexemes} (hL : RestOf text L) (h : advance L = .ok ((), L')) : RestOf text L'

/-- The tokens are sound at every point. -/
theorem Lexemes.RestOf.sound {text : String} {L : Lexemes} (h : L.RestOf text) : L.Sound := by
  induction h with
  | start h => exact sound_check (sound_read false _) h
  | pass _ h ih => exact (ensures_advance _ ih () _ h).2

/-! ## Taking opposites -/

/-- A way of taking the opposite of an integer. -/
abbrev Negation : Type := Int64 → Parse Int64

/-- Whether integers get their opposite, all but the least one. -/
def Negation.IsExact (negate : Negation) : Prop :=
  ∀ n, n ≠ Int64.minValue → negate n = pure (-n)

/-- Takes the opposite if it is a 64-bit integer, and else does something else. -/
def oppositeOr (other : Parse Int64) : Negation := fun n =>
  match Number.ofInt? (-n.toInt) with
  | some opposite => pure opposite
  | none => other

theorem isExact_oppositeOr (other : Parse Int64) : (oppositeOr other).IsExact := by
  intro n hn
  have hfits : Number.Fits (-n.toInt) := Number.fits_neg_iff.2 hn
  rw [oppositeOr, Number.ofInt?_of_fits hfits, Int64.ofInt_neg, Int64.ofInt_toInt]

/-! ## The grammar with any opposites -/

/-- An integer with an optional sign, if one comes next. -/
def signedWith (negate : Negation) : Parse (Option Int64) := do
  let negative ← accept .minus
  match ← current with
  | .integer n =>
    advance
    if negative then return some (← negate n) else return some n
  | _ => if negative then unexpected "integer" else return none

/-- The step of a slice, after its second colon. -/
def sliceStepWith (negate : Negation) : Parse (Option Int64) := do
  let offset ← Parse.offset
  let step ← signedWith negate
  if step == some 0 then failAt offset .zeroSliceStep else return step

/-- A position, or the bounds of a slice. -/
def indexOrSliceWith (negate : Negation) : Parse Selector := do
  let start ← signedWith negate
  if ← accept .colon then
    let stop ← signedWith negate
    let step ← if ← accept .colon then sliceStepWith negate else pure none
    return .slice ⟨start, stop, step⟩
  else
    match start with
    | some i => return .index i
    | none => unexpected "index"

/-- One item in brackets. -/
def bracketItemWith (negate : Negation) (level : Level) : Parse Chain := do
  match ← current with
  | .string name => advance; return [.name name]
  | .mark .star => advance; return [.wildElement]
  | .mark .question => advance; return [.filter (← level.predicate)]
  | .mark .openParen =>
    let openOffset ← Parse.offset
    advance
    let p ← level.predicate
    expectClosing .closeParen '(' openOffset
    return [.computed p]
  | .mark .atSign => advance; level.segments
  | .integer _ | .mark .minus | .mark .colon => return [← indexOrSliceWith negate]
  | t =>
    match memberName? t with
    | some name => advance; return [.name name]
    | none => unexpected "selector"

/-- Items in brackets, on the level they are nested in. -/
def bracketWith (negate : Negation) (level : Level) : Parse Selector := do
  let openOffset ← Parse.offset
  advance
  let items ← separated (bracketItemWith negate level)
  expectClosing .closeBracket '[' openOffset
  return ofItems items

/-- One segment, if one comes next. -/
def segmentWith? (negate : Negation) (functions : Registry) (below : Option Level)
    (predicate : Parse Predicate) : Parse (Option Chain) := do
  match ← current with
  | .mark .dot => advance; return some [← dotMember functions predicate]
  | .mark .dotDot => advance; return some (.descent :: (← afterDescent))
  | .mark .openBracket => return some [← nest below (bracketWith negate)]
  | _ => return none

/-- The negative of an operand. -/
def negatedWith (negate : Negation) : Predicate → Parse Predicate
  | .literal (.int n) => return .literal (.int (← negate n))
  | p => return negated p

/-- An operand with its unary operators. -/
def unaryWith (negate : Negation) (below : Option Level) (primary : Parse Predicate) :
    Parse Predicate := do
  match ← current with
  | .mark .not => nest below fun level => do
    advance
    return .not (← level.unary)
  | .mark .minus => nest below fun level => do
    advance
    negatedWith negate (← level.unary)
  | _ => primary

/-- The level above another one. Rows of operators take no opposites themselves. -/
def Level.aboveWith (negate : Negation) (functions : Registry) (below : Option Level) : Level :=
  let plain := Level.above functions below
  let segments := List.flatten <$> many (segmentWith? negate functions below plain.predicate)
  let unary := unaryWith negate below (primary functions plain.predicate segments)
  let product := unary >>= plain.productRest
  let comparison := comparisonOf (product >>= plain.sumRest)
  let conjunction := comparison >>= plain.conjunctionRest
  let disjunction := conjunction >>= plain.disjunctionRest
  { plain with segments, unary, product, comparison, conjunction, disjunction }

/-- The level with room for some levels below it. -/
def Level.ofRoomWith (negate : Negation) (functions : Registry) : Nat → Level
  | 0 => Level.aboveWith negate functions none
  | room + 1 => Level.aboveWith negate functions (some (Level.ofRoomWith negate functions room))

/-- A path and nothing more. -/
def pathWith (negate : Negation) (functions : Registry) : Parse Chain := do
  expect .dollar "'$'"
  let chain ← (Level.ofRoomWith negate functions maxNesting).segments
  match ← current with
  | .endOfText => return chain
  | .mark .closeBracket => fail (.unbalancedBracket ']')
  | .mark .closeParen => fail (.unbalancedBracket ')')
  | _ => unexpected "'.', '..', '[' or end of expression"

/-- A predicate and nothing more. -/
def predicateOnlyWith (negate : Negation) (functions : Registry) : Parse Predicate := do
  let p ← (Level.ofRoomWith negate functions maxNesting).predicate
  if (← current) == .endOfText then return p else unexpected "end of expression"

/-- Reads a path with opposites of some kind. -/
def parsePathWith (negate : Negation) (functions : Registry) (text : String) :
    Except ParseError Chain :=
  readAll (pathWith negate functions) text

/-- Reads a predicate with opposites of some kind. -/
def parsePredicateWith (negate : Negation) (functions : Registry) (text : String) :
    Except ParseError Predicate :=
  readAll (predicateOnlyWith negate functions) text

/-! ## In brackets -/

variable {negate : Negation} {functions : Registry} {l m : Level} {below below' : Option Level}
  {p q : Parse Predicate}

theorem coincide_signed (h : negate.IsExact) : Coincide (signedWith negate) signed := by
  refine coincide_step ensures_accept fun negative _ => coincide_step ensures_current fun t ht => ?_
  cases t with
  | integer n =>
    refine coincide_step ensures_advance fun _ _ => ?_
    cases negative with
    | false => exact coincide_pure (some n)
    | true =>
      -- digits are not negative, so they have an opposite
      rw [if_pos rfl, if_pos rfl, h n (ne_minValue ht), pure_bind]
      exact coincide_pure (some (-n))
  | _ =>
    cases negative with
    | false => exact coincide_pure none
    | true => exact coincide_unexpected _

theorem coincide_sliceStep (h : negate.IsExact) : Coincide (sliceStepWith negate) sliceStep := by
  refine coincide_step ensures_offset fun offset _ => (coincide_signed h).bind fun step => ?_
  split
  · exact coincide_failAt _ _
  · exact coincide_pure step

theorem coincide_indexOrSlice (h : negate.IsExact) :
    Coincide (indexOrSliceWith negate) indexOrSlice := by
  refine (coincide_signed h).bind fun start => coincide_step ensures_accept fun found _ => ?_
  split
  · refine (coincide_signed h).bind fun stop => coincide_step ensures_accept fun more _ => ?_
    dsimp only
    split
    · exact (coincide_sliceStep h).bind fun step => coincide_pure _
    · exact (coincide_pure none).bind fun step => coincide_pure _
  · split
    · exact coincide_pure _
    · exact coincide_unexpected _

theorem coincide_bracketItem (h : negate.IsExact) (hlevel : l.Coincides m) :
    Coincide (bracketItemWith negate l) (bracketItem m) := by
  have hposition : Coincide (do return [← indexOrSliceWith negate]) (do return [← indexOrSlice]) :=
    (coincide_indexOrSlice h).bind fun s => coincide_pure [s]
  refine coincide_step ensures_current fun t _ => ?_
  cases t with
  | string | identifier | boolean | null =>
    exact coincide_step ensures_advance fun _ _ => coincide_pure _
  | integer => exact hposition
  | float | regex | endOfText => exact coincide_unexpected _
  | mark m =>
    cases m with
    | star => exact coincide_step ensures_advance fun _ _ => coincide_pure _
    | question =>
      exact coincide_step ensures_advance fun _ _ => hlevel.predicate.bind fun _ => coincide_pure _
    | openParen =>
      refine coincide_step ensures_offset fun _ _ => coincide_step ensures_advance fun _ _ => ?_
      exact hlevel.predicate.bind fun _ =>
        coincide_step ensures_expectClosing fun _ _ => coincide_pure _
    | atSign => exact coincide_step ensures_advance fun _ _ => hlevel.segments
    | minus | colon => exact hposition
    | _ => exact coincide_unexpected _

theorem coincide_bracket (h : negate.IsExact) (hlevel : l.Coincides m) :
    Coincide (bracketWith negate l) (bracket m) :=
  coincide_step ensures_offset fun _ _ => coincide_step ensures_advance fun _ _ =>
    (coincide_separated (coincide_bracketItem h hlevel)).bind fun items =>
      coincide_step ensures_expectClosing fun _ _ => coincide_pure (ofItems items)

theorem coincide_segment? (functions : Registry) (h : negate.IsExact)
    (hbelow : Option.Rel Level.Coincides below below') (hp : Coincide p q) :
    Coincide (segmentWith? negate functions below p) (segment? functions below' q) := by
  have hbracket : Coincide (nest below (bracketWith negate)) (nest below' bracket) :=
    coincide_nest hbelow fun _ _ _ hlevel => coincide_bracket h hlevel
  refine coincide_step ensures_current fun t _ => ?_
  cases t with
  | mark m =>
    cases m with
    | dot =>
      exact coincide_step ensures_advance fun _ _ => (coincide_dotMember hp).bind fun s =>
        coincide_pure (some [s])
    | dotDot =>
      exact coincide_step ensures_advance fun _ _ =>
        coincide_step (closed_isReadable functions).ensures_afterDescent fun chain _ =>
          coincide_pure (some (.descent :: chain))
    | openBracket => exact hbracket.bind fun s => coincide_pure (some [s])
    | _ => exact coincide_pure none
  | _ => exact coincide_pure none

/-! ## After a minus sign -/

theorem negatedWith_eq (h : negate.IsExact) {operand : Predicate} (hoperand : operand.IsReadable) :
    negatedWith negate operand = pure (negated operand) := by
  unfold negatedWith
  split
  · rename_i n
    rw [h n hoperand, pure_bind]
    rfl
  · rfl

/-- The operand that a sign stands before was read one level down, from sound tokens, and so it has
an opposite. -/
theorem coincide_unary (h : negate.IsExact) (hbelow : Option.Rel Level.Coincides below below')
    (hreadable : ∀ level ∈ below', Ensures level.unary Predicate.IsReadable)
    (hp : Coincide p q) : Coincide (unaryWith negate below p) (unaryOf below' q) := by
  refine coincide_step ensures_current fun t _ => ?_
  cases t with
  | mark mark =>
    cases mark with
    | not =>
      exact coincide_nest hbelow fun _ _ _ hlevel => coincide_step ensures_advance fun _ _ =>
        hlevel.unary.bind fun operand => coincide_pure (Predicate.not operand)
    | minus =>
      refine coincide_nest hbelow fun _ m hm hlevel => coincide_step ensures_advance fun _ _ =>
        hlevel.unary.bind_of (hreadable m hm) fun operand hoperand => ?_
      rw [negatedWith_eq h hoperand]
      exact coincide_pure (negated operand)
    | _ => exact hp
  | _ => exact hp

/-! ## Levels -/

/-- **One level.** It makes no difference on a level what the least integer is negated to, if it
makes none on the level below. -/
theorem coincides_aboveWith (h : negate.IsExact) (hbelow : Option.Rel Level.Coincides below below')
    (hreadable : ∀ level ∈ below', Ensures level.unary Predicate.IsReadable) :
    (Level.aboveWith negate functions below).Coincides (Level.above functions below') := by
  have hpredicate : Coincide (nest below Level.disjunction) (nest below' Level.disjunction) :=
    coincide_nest hbelow fun _ _ _ hlevel => hlevel.disjunction
  have hsegments := (coincide_many (coincide_segment? functions h hbelow hpredicate)).map
    List.flatten
  have hunary := coincide_unary h hbelow hreadable
    (coincide_primary functions hpredicate hsegments)
  have hproductRest := coincide_chained hbelow
    (fun t => (productOperation? t).map Predicate.operation)
    (fun _ _ hlevel => hlevel.unary) (fun _ _ hlevel => hlevel.productRest)
  have hproduct := hunary.bind hproductRest
  have hsumRest := coincide_chained hbelow (fun t => (sumOperation? t).map Predicate.operation)
    (fun _ _ hlevel => hlevel.product) (fun _ _ hlevel => hlevel.sumRest)
  have hcomparison := coincide_comparisonOf (hproduct.bind hsumRest)
  have hconjunctionRest := coincide_chained hbelow
    (fun t => if t == .mark .and then some .and else none)
    (fun _ _ hlevel => hlevel.comparison) (fun _ _ hlevel => hlevel.conjunctionRest)
  have hconjunction := hcomparison.bind hconjunctionRest
  have hdisjunctionRest := coincide_chained hbelow
    (fun t => if t == .mark .or then some .or else none)
    (fun _ _ hlevel => hlevel.conjunction) (fun _ _ hlevel => hlevel.disjunctionRest)
  exact {
    predicate := hpredicate
    segments := hsegments
    unary := hunary
    product := hproduct
    comparison := hcomparison
    conjunction := hconjunction
    disjunction := hconjunction.bind hdisjunctionRest
    productRest := hproductRest
    sumRest := hsumRest
    conjunctionRest := hconjunctionRest
    disjunctionRest := hdisjunctionRest }

theorem ensures_unary_ofRoom (functions : Registry) (room : Nat) :
    Ensures (Level.ofRoom functions room).unary Predicate.IsReadable :=
  ((closed_isReadable functions).sound_ofRoom room).unary

theorem coincides_ofRoomWith (h : negate.IsExact) (room : Nat) :
    (Level.ofRoomWith negate functions room).Coincides (Level.ofRoom functions room) := by
  induction room with
  | zero => exact coincides_aboveWith h .none (by simp)
  | succ room ih =>
    refine coincides_aboveWith h (.some ih) fun level hlevel => ?_
    obtain rfl := Option.some.inj hlevel
    exact ensures_unary_ofRoom functions room

/-! ## Whole texts -/

theorem Parse.Coincide.readAll {α : Type} {x y : Parse α} (h : Coincide x y) (text : String) :
    readAll x text = readAll y text := by
  unfold Query.readAll
  cases hcheck : (lexemes text).check with
  | error e => rfl
  | ok L =>
    have heq := (h L (Lexemes.RestOf.start hcheck).sound).1
    change (x L >>= fun r => _) = (y L >>= fun r => _)
    rw [heq]

theorem parsePathWith_eq (h : negate.IsExact) (text : String) :
    parsePathWith negate functions text = parsePath functions text := by
  refine Coincide.readAll ?_ text
  refine coincide_step ensures_expect fun _ _ =>
    (coincides_ofRoomWith h maxNesting).segments.bind fun chain => ?_
  refine coincide_step ensures_current fun t _ => ?_
  cases t with
  | endOfText => exact coincide_pure chain
  | mark m =>
    cases m with
    | closeBracket | closeParen => exact coincide_fail _
    | _ => exact coincide_unexpected _
  | _ => exact coincide_unexpected _

theorem parsePredicateWith_eq (h : negate.IsExact) (text : String) :
    parsePredicateWith negate functions text = parsePredicate functions text := by
  refine Coincide.readAll ?_ text
  refine (coincides_ofRoomWith h maxNesting).predicate.bind fun p =>
    coincide_step ensures_current fun t _ => ?_
  split
  · exact coincide_pure p
  · exact coincide_unexpected _

/-- **Negation never overflows.** At every point of reading any text, an integer that comes next is
not negative, and neither an integer with a sign nor an operand with its unary operators is read as
the least integer, however signs and parentheses are nested. So whatever is done in place of
negating the least integer, at no point does reading an integer with a sign or an operand come to
it, and neither does reading the whole text as a path or as a predicate. -/
theorem negation_never_overflows (functions : Registry) (text : String) :
    (∀ L : Lexemes, L.RestOf text →
      (∀ n, L.token = .integer n → 0 ≤ n.toInt) ∧
      (∀ n L', signed L = .ok (some n, L') → Int64.minValue.toInt < n.toInt) ∧
      (∀ room n L', (Level.ofRoom functions room).unary L = .ok (.literal (.int n), L') →
        Int64.minValue.toInt < n.toInt) ∧
      ∀ other : Parse Int64, signedWith (oppositeOr other) L = signed L ∧
        ∀ room, (Level.ofRoomWith (oppositeOr other) functions room).unary L =
          (Level.ofRoom functions room).unary L) ∧
    ∀ other : Parse Int64,
      parsePathWith (oppositeOr other) functions text = parsePath functions text ∧
      parsePredicateWith (oppositeOr other) functions text = parsePredicate functions text := by
  constructor
  · intro L hL
    have hsound := hL.sound
    refine ⟨fun n hn => ?_, fun n L' hread => ?_, fun room n L' hread => ?_, fun other => ?_⟩
    · have htoken := (ensures_current L hsound L.token L rfl).1
      rw [hn] at htoken
      exact htoken
    · exact Number.minValue_lt_iff.2 ((ensures_signed L hsound _ L' hread).1 n rfl)
    · exact Number.minValue_lt_iff.2 (ensures_unary_ofRoom functions room L hsound _ L' hread).1
    · have hexact := isExact_oppositeOr other
      exact ⟨(coincide_signed hexact L hsound).1,
        fun room => ((coincides_ofRoomWith hexact room).unary L hsound).1⟩
  · intro other
    have hexact := isExact_oppositeOr other
    exact ⟨parsePathWith_eq hexact text, parsePredicateWith_eq hexact text⟩

/-- Both signs are applied, the inner one to digits and the outer one to what is in parentheses. -/
theorem negation_never_overflows_nested :
    ∃ L M : Lexemes,
      L.RestOf "-(-9223372036854775807)" ∧ M.RestOf "-(-9223372036854775807)" ∧
      (Level.ofRoom .empty 3).unary L = .ok (.literal (.int Int64.maxValue), .done 23) ∧
      Int64.minValue.toInt < Int64.maxValue.toInt ∧
      signed M = .ok (some (-Int64.maxValue), .more ⟨.mark .closeParen, 22⟩ (.done 23)) ∧
      Int64.minValue.toInt < (-Int64.maxValue).toInt ∧
      ∀ other : Parse Int64,
        parsePredicateWith (oppositeOr other) .empty "-(-9223372036854775807)" =
          .ok (.literal (.int Int64.maxValue)) := by
  have hlexemes : lexemes "-(-9223372036854775807)" =
      .more ⟨.mark .minus, 0⟩ (.more ⟨.mark .openParen, 1⟩ (.more ⟨.mark .minus, 2⟩
        (.more ⟨.integer Int64.maxValue, 3⟩ (.more ⟨.mark .closeParen, 22⟩ (.done 23))))) := by cbv
  have hL := Lexemes.RestOf.start (congrArg Lexemes.check hlexemes)
  have hM := (hL.pass rfl).pass rfl
  obtain ⟨hpoints, hwhole⟩ := negation_never_overflows .empty "-(-9223372036854775807)"
  obtain ⟨-, -, hunary, -⟩ := hpoints _ hL
  obtain ⟨-, hsigned, -⟩ := hpoints _ hM
  refine ⟨_, _, hL, hM, rfl, hunary 3 _ _ rfl, rfl, hsigned _ _ rfl, fun other => ?_⟩
  rw [(hwhole other).2, parsePredicate_of_lexemes hlexemes rfl]
  rfl

/-- On tokens that are those of no text, what is done for the least integer is seen. -/
example : signedWith (oppositeOr (failAt 7 .zeroSliceStep))
      (.more ⟨.mark .minus, 0⟩ (.more ⟨.integer Int64.minValue, 1⟩ (.done 20))) =
        .error ⟨.zeroSliceStep, 7⟩ ∧
    signed (.more ⟨.mark .minus, 0⟩ (.more ⟨.integer Int64.minValue, 1⟩ (.done 20))) =
      .ok (some Int64.minValue, .done 20) := ⟨rfl, rfl⟩

end JsonPath.Query

import JsonPath.Evaluation.Expression
import JsonPath.Location.Text
import JsonPath.Proofs.Query.Locality
import JsonPath.Proofs.Query.Places

/-!
# Where errors point

An expression or a path that cannot be read is refused at the place of what is wrong: the character
that is not expected, the bracket that is not closed, the name of a function that there is not, and
the end of the text if something misses there. A reader reports the place of its current token or of
one that it keeps from before, and it looks at that token when it keeps its place; so the token that
is current is followed along with what the reader does.

* `PointsAt` — a reader reports faults at their places, from a current token on.
* `PointsAt.bind`, `pointsAt_current_bind`, `pointsAt_offset_bind` — the rules; the last two know
  the token.
* `Level.Points` — all readers of a level do so.
* `errors_pointInto` — the errors of whole texts.
-/

namespace JsonPath

namespace Query

variable {text : List Char} {L L' : Lexemes} {e : ParseError}

/-! ## Current tokens -/

/-- Whether tokens stand in a text, and the first one can be looked at. -/
structure Lexemes.Ready (text : List Char) (L : Lexemes) : Prop where
  check : L.check = .ok L
  standIn : L.StandIn text

theorem ready_of_check (h : L.StandIn text) (hcheck : L.check = .ok L') : L'.Ready text := by
  obtain rfl := Lexemes.check_eq_ok hcheck
  exact ⟨hcheck, h⟩

theorem pointsInto_of_check (h : L.StandIn text) (hcheck : L.check = .error e) :
    e.PointsInto text := by
  cases L with
  | more | done => contradiction
  | fault fault =>
    obtain rfl := Except.error.inj hcheck
    exact h

theorem Lexemes.Ready.standsAt (h : L.Ready text) : L.token.StandsAt text L.offset := by
  obtain ⟨hcheck, hstand⟩ := h
  cases L with
  | more => exact hstand.1
  | done => exact hstand
  | fault => contradiction

/-- What comes after the current token; after the end there is still the end. -/
theorem Lexemes.Ready.exists_tail (h : L.Ready text) :
    ∃ rest : Lexemes, L.tail = rest.check ∧ rest.StandIn text := by
  cases L with
  | more l rest => exact ⟨rest, rfl, h.standIn.2⟩
  | done | fault => exact ⟨_, rfl, h.standIn⟩

namespace Parse

/-! ## Rules -/

variable {α β : Type} {t : Token} {x : Parse α} {f : α → Parse β} {fault : ParseFault} {o : Nat}

/-- Whether a reader that starts at a token leaves tokens that stand in a text, or else reports an
error that points into it. -/
def PointsAt (text : List Char) (t : Token) (x : Parse α) : Prop :=
  ∀ L : Lexemes, L.token = t → L.Ready text →
    (∃ a L', x L = .ok (a, L') ∧ L'.Ready text) ∨ ∃ e, x L = .error e ∧ e.PointsInto text

/-- The same from any token on. -/
abbrev Points (text : List Char) (x : Parse α) : Prop := ∀ t, PointsAt text t x

theorem pointsAt_pure {a : α} : PointsAt text t (pure a) := fun L _ hL => .inl ⟨a, L, rfl, hL⟩

/-- A reader that only goes on at one of the tokens it may start at. -/
theorem PointsAt.bind_of_ne_ok (hx : PointsAt text t x) {t' : Token}
    (hne : t ≠ t' → ∀ L r, L.token = t → x L ≠ .ok r) (hf : t = t' → ∀ a, Points text (f a)) :
    PointsAt text t (x >>= f) := by
  intro L ht hL
  rcases hx L ht hL with ⟨a, M, hread, hM⟩ | ⟨e, hread, he⟩
  · -- at any other token there is no result
    have htoken : t = t' := by_contra fun h => hne h L _ ht hread
    rcases hf htoken a M.token M rfl hM with ⟨b, L', hnext, hL'⟩ | ⟨e, hnext, he⟩
    · exact .inl ⟨b, L', by rw [bind_apply, hread]; exact hnext, hL'⟩
    · exact .inr ⟨e, by rw [bind_apply, hread]; exact hnext, he⟩
  · exact .inr ⟨e, by rw [bind_apply, hread]; rfl, he⟩

theorem PointsAt.bind (hx : PointsAt text t x) (hf : ∀ a, Points text (f a)) :
    PointsAt text t (x >>= f) :=
  hx.bind_of_ne_ok (fun hne => absurd rfl hne) fun _ => hf

theorem Points.bind (hx : Points text x) (hf : ∀ a, Points text (f a)) : Points text (x >>= f) :=
  fun t => (hx t).bind hf

theorem Points.map (hx : Points text x) (g : α → β) : Points text (g <$> x) := by
  rw [map_eq_pure_bind]
  exact hx.bind fun _ _ => pointsAt_pure

theorem pointsAt_current_bind {f : Token → Parse β} (h : PointsAt text t (f t)) :
    PointsAt text t (current >>= f) := by
  rintro L rfl hL
  exact h L rfl hL

theorem pointsAt_offset_bind {f : Nat → Parse β}
    (h : ∀ o, t.StandsAt text o → PointsAt text t (f o)) : PointsAt text t (offset >>= f) := by
  rintro L rfl hL
  exact h L.offset hL.standsAt L rfl hL

theorem pointsAt_failAt (h : ParseError.PointsInto text ⟨fault, o⟩) :
    PointsAt text t (failAt o fault : Parse α) := fun _ _ _ => .inr ⟨_, rfl, h⟩

theorem pointsAt_fail (h : ∀ o, t.StandsAt text o → fault.StandsAt text o) :
    PointsAt text t (fail fault : Parse α) := by
  rintro L rfl hL
  exact .inr ⟨_, rfl, hL.standsAt.offset_le, h _ hL.standsAt⟩

theorem points_unexpected {expected : String} : Points text (unexpected expected : Parse α) := by
  intro t L _ hL
  have hstands := hL.standsAt
  unfold unexpected
  split
  · rename_i htoken
    exact .inr ⟨_, rfl, hstands.offset_le, hstands.atEnd.1 htoken⟩
  · rename_i hne
    exact .inr ⟨_, rfl, hstands.offset_le, hstands.offset_lt hne⟩

theorem points_advance : Points text advance := by
  intro t L _ hL
  obtain ⟨rest, htail, hrest⟩ := hL.exists_tail
  rw [advance, htail]
  cases hcheck : rest.check with
  | error e => exact .inr ⟨e, rfl, pointsInto_of_check hrest hcheck⟩
  | ok L' => exact .inl ⟨(), L', rfl, ready_of_check hrest hcheck⟩

theorem points_expect {m : Mark} {expected : String} : Points text (expect m expected) := by
  refine fun t => pointsAt_current_bind ?_
  split
  · exact points_advance t
  · exact points_unexpected t

/-- If errors after a mark point into the text, so do those where the mark must come first. -/
theorem pointsAt_expect_bind {m : Mark} {expected : String} {f : Unit → Parse β}
    (h : t = .mark m → Points text (f ())) : PointsAt text t (expect m expected >>= f) :=
  (points_expect t).bind_of_ne_ok (fun ht _ r hL => expect_ne_ok (hL ▸ ht) r) fun ht _ => h ht

theorem points_accept {m : Mark} : Points text (accept m) := by
  refine fun t => pointsAt_current_bind ?_
  split
  · exact (points_advance t).bind fun _ _ => pointsAt_pure
  · exact pointsAt_pure

/-- The opening bracket is kept with its place. -/
theorem points_expectClosing {close : Mark} {openChar : Char} (h : text[o]? = some openChar) :
    Points text (expectClosing close openChar o) := by
  refine fun t => pointsAt_current_bind ?_
  split
  · obtain ⟨hlt, -⟩ := List.getElem?_eq_some_iff.1 h
    exact pointsAt_failAt ⟨hlt.le, h⟩
  · exact points_expect t

theorem points_many {one : Parse (Option α)} (h : Points text one) : Points text (many one) := by
  have hgo : ∀ fuel, Points text (many.go one fuel) := by
    intro fuel
    induction fuel with
    | zero => exact fun _ => pointsAt_pure
    | succ fuel ih =>
      rw [many_go_succ]
      refine h.bind fun r => ?_
      cases r with
      | none => exact fun _ => pointsAt_pure
      | some a => exact ih.bind fun _ _ => pointsAt_pure
  exact fun t L => hgo (L.length + 1) t L

theorem points_separated {item : Parse α} (h : Points text item) :
    Points text (separated item) := by
  have hfurther : Points text (furtherItem item) := by
    refine points_accept.bind fun found => ?_
    split
    · exact h.bind fun _ _ => pointsAt_pure
    · exact fun _ => pointsAt_pure
  exact h.bind fun _ => (points_many hfurther).bind fun _ _ => pointsAt_pure

end Parse

open Parse

/-! ## Calls -/

variable {functions : Registry} {predicate : Parse Predicate} {t t' : Token} {o : Nat}
  {name : String} {α β : Type}

/-- If errors after a call point into the text, so do those of a function that is not found. -/
theorem pointsAt_resolve_bind (hname : t'.StandsAt text o) (hmember : memberName? t' = some name)
    {f : Function → Parse β} (h : ∀ g, PointsAt text t (f g)) :
    PointsAt text t (resolve functions name o >>= f) := by
  unfold resolve
  split
  · rw [pure_bind]
    exact h _
  · have hfault : PointsAt text t (failAt o (.unknownFunction name) : Parse β) :=
      pointsAt_failAt ⟨hname.offset_le, hname.name_prefix hmember⟩
    exact hfault

theorem points_arguments (hp : Points text predicate) (h : text[o]? = some '(') :
    Points text (arguments predicate o) := by
  refine fun t => pointsAt_current_bind ?_
  have hclose (args : List Predicate) :
      Points text (do expectClosing .closeParen '(' o; return args) :=
    (points_expectClosing h).bind fun _ _ => pointsAt_pure
  dsimp only
  split
  · exact hclose [] t
  · exact (points_separated hp t).bind hclose

theorem pointsAt_selectorCall (hp : Points text predicate) (hname : t'.StandsAt text o)
    (hmember : memberName? t' = some name) :
    PointsAt text (.mark .openParen) (selectorCall functions predicate name o) := by
  refine pointsAt_resolve_bind hname hmember fun f => pointsAt_offset_bind fun p hopen =>
    (points_advance _).bind fun _ => (points_arguments hp (hopen.getElem? rfl)).bind fun args => ?_
  split
  · exact fun _ => pointsAt_failAt ⟨hname.offset_le, hname.name_prefix hmember⟩
  · exact fun _ => pointsAt_pure

theorem points_call (hp : Points text predicate) (hname : t'.StandsAt text o)
    (hmember : memberName? t' = some name) : Points text (call functions predicate name o) := by
  refine fun t => pointsAt_resolve_bind hname hmember fun f => pointsAt_offset_bind fun p hopen =>
    pointsAt_expect_bind fun hmark => ?_
  subst hmark
  refine (points_arguments hp (hopen.getElem? rfl)).bind fun args => ?_
  split
  · exact fun _ => pointsAt_failAt ⟨hname.offset_le, hname.name_prefix hmember⟩
  · exact fun _ => pointsAt_pure

/-! ## Selectors -/

theorem points_dotMember (hp : Points text predicate) :
    Points text (dotMember functions predicate) := by
  refine fun t => pointsAt_offset_bind fun o hname => pointsAt_current_bind ?_
  split
  · exact (points_advance _).bind fun _ _ => pointsAt_pure
  · exact (points_advance _).bind fun _ _ => pointsAt_pure
  · cases hmember : memberName? t with
    | none => exact points_unexpected t
    | some name =>
      refine (points_advance t).bind fun _ t' => pointsAt_current_bind ?_
      split
      · rename_i heq
        obtain rfl := beq_iff_eq.1 heq
        exact pointsAt_selectorCall hp hname hmember
      · exact pointsAt_pure

theorem points_afterDescent : Points text afterDescent := by
  refine fun t => pointsAt_current_bind ?_
  split
  · exact (points_advance _).bind fun _ _ => pointsAt_pure
  · cases memberName? t with
    | none => exact pointsAt_pure
    | some name => exact (points_advance t).bind fun _ _ => pointsAt_pure

theorem points_signed : Points text signed := by
  refine points_accept.bind fun negative t => pointsAt_current_bind ?_
  split
  · exact (points_advance _).bind fun _ _ => pointsAt_pure
  · split
    · exact points_unexpected t
    · exact pointsAt_pure

theorem points_sliceStep : Points text sliceStep := by
  refine fun t => pointsAt_offset_bind fun o hstep => (points_signed t).bind fun step => ?_
  split
  · exact fun _ => pointsAt_failAt ⟨hstep.offset_le, trivial⟩
  · exact fun _ => pointsAt_pure

theorem points_indexOrSlice : Points text indexOrSlice := by
  refine points_signed.bind fun start => points_accept.bind fun colon => ?_
  split
  · refine points_signed.bind fun stop => points_accept.bind fun colon => ?_
    dsimp only
    split
    · exact points_sliceStep.bind fun _ _ => pointsAt_pure
    · exact fun _ => pointsAt_pure
  · split
    · exact fun _ => pointsAt_pure
    · exact points_unexpected

/-! ## Levels -/

/-- Whether all readers of a level report faults at their places. -/
structure Level.Points (text : List Char) (level : Level) : Prop where
  predicate : Parse.Points text level.predicate
  segments : Parse.Points text level.segments
  unary : Parse.Points text level.unary
  product : Parse.Points text level.product
  comparison : Parse.Points text level.comparison
  conjunction : Parse.Points text level.conjunction
  disjunction : Parse.Points text level.disjunction
  productRest : ∀ p, Parse.Points text (level.productRest p)
  sumRest : ∀ p, Parse.Points text (level.sumRest p)
  conjunctionRest : ∀ p, Parse.Points text (level.conjunctionRest p)
  disjunctionRest : ∀ p, Parse.Points text (level.disjunctionRest p)

variable {level : Level} {below : Option Level}

theorem pointsAt_nest {read : Level → Parse α} (h : ∀ level ∈ below, PointsAt text t (read level)) :
    PointsAt text t (nest below read) := by
  unfold nest
  split
  · exact h _ rfl
  · exact pointsAt_fail fun _ _ => trivial

theorem points_bracketItem (hl : level.Points text) : Points text (bracketItem level) := by
  have hposition : Points text (do return [← indexOrSlice]) :=
    points_indexOrSlice.bind fun _ _ => pointsAt_pure
  refine fun t => pointsAt_current_bind ?_
  cases t with
  | string | identifier | boolean | null =>
    exact (points_advance _).bind fun _ _ => pointsAt_pure
  | integer => exact hposition _
  | float | regex | endOfText => exact points_unexpected _
  | mark m =>
    cases m with
    | star => exact (points_advance _).bind fun _ _ => pointsAt_pure
    | question =>
      exact (points_advance _).bind fun _ => hl.predicate.bind fun _ _ => pointsAt_pure
    | openParen =>
      refine pointsAt_offset_bind fun o hopen => (points_advance _).bind fun _ => ?_
      exact hl.predicate.bind fun _ =>
        (points_expectClosing (hopen.getElem? rfl)).bind fun _ _ => pointsAt_pure
    | atSign => exact (points_advance _).bind fun _ => hl.segments
    | minus | colon => exact hposition _
    | _ => exact points_unexpected _

theorem pointsAt_bracket (hl : level.Points text) :
    PointsAt text (.mark .openBracket) (bracket level) :=
  pointsAt_offset_bind fun _ hopen => (points_advance _).bind fun _ =>
    (points_separated (points_bracketItem hl)).bind fun _ =>
      (points_expectClosing (hopen.getElem? rfl)).bind fun _ _ => pointsAt_pure

theorem points_segment? (functions : Registry) (hbelow : ∀ level ∈ below, level.Points text)
    (hp : Points text predicate) : Points text (segment? functions below predicate) := by
  refine fun t => pointsAt_current_bind ?_
  split
  · exact (points_advance _).bind fun _ => (points_dotMember hp).bind fun _ _ => pointsAt_pure
  · exact (points_advance _).bind fun _ => points_afterDescent.bind fun _ _ => pointsAt_pure
  · exact (pointsAt_nest fun level hlevel => pointsAt_bracket (hbelow level hlevel)).bind
      fun _ _ => pointsAt_pure
  · exact pointsAt_pure

/-! ## Predicates -/

variable {segments : Parse Chain}

theorem points_primary (functions : Registry) (hp : Points text predicate)
    (hs : Points text segments) : Points text (primary functions predicate segments) := by
  refine fun t => pointsAt_offset_bind fun o hstands => pointsAt_current_bind ?_
  cases t with
  | float | string | boolean | null | integer =>
    exact (points_advance _).bind fun _ _ => pointsAt_pure
  | identifier name => exact (points_advance _).bind fun _ => points_call hp hstands rfl
  | regex | endOfText => exact points_unexpected _
  | mark m =>
    cases m with
    | atSign | dollar =>
      exact (points_advance _).bind fun _ => hs.bind fun _ _ => pointsAt_pure
    | openParen =>
      exact (points_advance _).bind fun _ => hp.bind fun _ =>
        (points_expectClosing (hstands.getElem? rfl)).bind fun _ _ => pointsAt_pure
    | _ => exact points_unexpected _

theorem points_unaryOf (hbelow : ∀ level ∈ below, level.Points text) {operand : Parse Predicate}
    (hp : Points text operand) : Points text (unaryOf below operand) := by
  have hsigned (g : Predicate → Predicate) (t : Token) :
      PointsAt text t (nest below fun level => do advance; return g (← level.unary)) :=
    pointsAt_nest fun level hlevel => (points_advance t).bind fun _ =>
      (hbelow level hlevel).unary.bind fun _ _ => pointsAt_pure
  refine fun t => pointsAt_current_bind ?_
  split
  · exact hsigned _ _
  · exact hsigned _ _
  · exact hp t

theorem points_chained (hbelow : ∀ level ∈ below, level.Points text)
    (operator? : Token → Option (Predicate → Predicate → Predicate))
    {operand : Level → Parse Predicate}
    (hoperand : ∀ level : Level, level.Points text → Points text (operand level))
    {rest : Level → Predicate → Parse Predicate}
    (hrest : ∀ level : Level, level.Points text → ∀ p, Points text (rest level p))
    (left : Predicate) : Points text (chained below operator? operand rest left) := by
  refine fun t => pointsAt_current_bind ?_
  split
  · exact pointsAt_nest fun level hlevel => (points_advance t).bind fun _ =>
      (hoperand level (hbelow level hlevel)).bind fun _ => hrest level (hbelow level hlevel) _
  · exact pointsAt_pure

theorem fault_regexLiteral {pattern flags : String} {fault : ParseFault}
    (h : regexLiteral pattern flags = .error fault) (hslash : text[o]? = some '/') :
    fault.StandsAt text o := by
  unfold regexLiteral at h
  split at h
  · obtain rfl := Except.error.inj h
    exact hslash
  · split at h
    · contradiction
    · obtain rfl := Except.error.inj h
      exact hslash

theorem points_regex : Points text regex := by
  refine fun t => pointsAt_current_bind ?_
  split
  · split
    · exact (points_advance _).bind fun _ _ => pointsAt_pure
    · rename_i hfault
      exact pointsAt_fail fun o ho => fault_regexLiteral hfault (getElem?_of_prefix_drop ho.opening)
  · exact points_unexpected t

theorem points_comparisonOf {sum : Parse Predicate} (hsum : Points text sum) :
    Points text (comparisonOf sum) := by
  refine hsum.bind fun left => points_accept.bind fun found => ?_
  split
  · exact points_regex.bind fun _ _ => pointsAt_pure
  · refine fun t => pointsAt_current_bind ?_
    split
    · exact (points_advance t).bind fun _ => hsum.bind fun _ _ => pointsAt_pure
    · exact pointsAt_pure

/-- A level reports faults at their places if the one below it does. -/
theorem points_above (functions : Registry) (hbelow : ∀ level ∈ below, level.Points text) :
    (Level.above functions below).Points text := by
  have hpredicate : Points text (nest below Level.disjunction) := fun _ =>
    pointsAt_nest fun level hlevel => (hbelow level hlevel).disjunction _
  have hsegments := (points_many (points_segment? functions hbelow hpredicate)).map List.flatten
  have hunary := points_unaryOf hbelow (points_primary functions hpredicate hsegments)
  have hproductRest := points_chained hbelow
    (fun t => (productOperation? t).map Predicate.operation)
    (fun _ h => h.unary) (fun _ h => h.productRest)
  have hproduct := hunary.bind hproductRest
  have hsumRest := points_chained hbelow
    (fun t => (sumOperation? t).map Predicate.operation)
    (fun _ h => h.product) (fun _ h => h.sumRest)
  have hcomparison := points_comparisonOf (hproduct.bind hsumRest)
  have hconjunctionRest := points_chained hbelow
    (fun t => if t == .mark .and then some .and else none)
    (fun _ h => h.comparison) (fun _ h => h.conjunctionRest)
  have hconjunction := hcomparison.bind hconjunctionRest
  have hdisjunctionRest := points_chained hbelow
    (fun t => if t == .mark .or then some .or else none)
    (fun _ h => h.conjunction) (fun _ h => h.disjunctionRest)
  exact {
    predicate := hpredicate
    segments := hsegments
    unary := hunary
    product := hproduct
    comparison := hcomparison
    conjunction := hconjunction
    disjunction := hconjunction.bind hdisjunctionRest
    productRest := hproductRest
    sumRest := hsumRest
    conjunctionRest := hconjunctionRest
    disjunctionRest := hdisjunctionRest }

theorem points_ofRoom (functions : Registry) (n : Nat) :
    (Level.ofRoom functions n).Points text := by
  induction n with
  | zero => exact points_above functions (by simp)
  | succ n ih => exact points_above functions (by simpa using ih)

/-! ## Whole expressions -/

theorem points_path (functions : Registry) : Points text (path functions) := by
  refine fun t => pointsAt_expect_bind fun _ => ?_
  refine (points_ofRoom functions maxNesting).segments.bind fun chain t => pointsAt_current_bind ?_
  split
  · exact pointsAt_pure
  · exact pointsAt_fail fun _ hclose => hclose.getElem? rfl
  · exact pointsAt_fail fun _ hclose => hclose.getElem? rfl
  · exact points_unexpected t

theorem points_predicateOnly (functions : Registry) : Points text (predicateOnly functions) := by
  refine (points_ofRoom functions maxNesting).predicate.bind fun p t => pointsAt_current_bind ?_
  split
  · exact pointsAt_pure
  · exact points_unexpected t

/-- A whole text is read by a reader that reports faults at their places. -/
theorem Parse.Points.of_readAll {read : Parse α} {text : String} (hread : Points text.toList read)
    (h : readAll read text = .error e) : e.PointsInto text.toList := by
  have hstand := standIn_lexemes text
  cases hcheck : (lexemes text).check with
  | error fault =>
    rw [readAll, hcheck] at h
    obtain rfl := Except.error.inj h
    exact pointsInto_of_check hstand hcheck
  | ok tokens =>
    obtain rfl := Lexemes.check_eq_ok hcheck
    rw [readAll_of_lexemes rfl hcheck] at h
    rcases hread _ _ rfl ⟨hcheck, hstand⟩ with ⟨a, L', hresult, -⟩ | ⟨fault, hresult, hfault⟩
    · rw [hresult] at h
      contradiction
    · rw [hresult] at h
      obtain rfl := Except.error.inj h
      exact hfault

end Query

/-! ## Paths -/

namespace Path

open Text (Cursor)

variable {text : List Char} {c c' : Cursor} {s : Step} {e : ParseError}

/-- Whether an error of a path points into its text. If a bracket is not closed, the end of the text
is told. -/
def ErrorPoints (text : List Char) (e : ParseError) : Prop :=
  e.PointsInto text ∨ e = ⟨.unbalancedBracket '[', text.length⟩

theorem pointsInto_unexpected (h : c.IsIn text) (expected : String) :
    (unexpected c expected).PointsInto text := by
  unfold unexpected
  split
  · rename_i found rest hrest
    exact h.pointsInto (h.offset_lt hrest)
  · rename_i hrest
    exact h.pointsInto (h.offset_eq hrest)

theorem readBracketed_cases (h : c.IsIn text) :
    (∃ s n, readBracketed c = .ok (s, c.advance n)) ∨
      ∃ e, readBracketed c = .error e ∧ e.PointsInto text := by
  unfold readBracketed
  split
  · rename_i first rest hrest
    split
    · rename_i hquote
      have hquote : first = '"' ∨ first = '\'' := by simpa [or_comm] using hquote
      split
      · exact .inl ⟨_, _, rfl⟩
      · rename_i hfault
        exact .inr ⟨_, rfl, h.pointsInto_quoteError hrest hquote hfault⟩
      · rename_i hfault
        exact .inr ⟨_, rfl, h.pointsInto_quoteError hrest hquote hfault⟩
    · split
      · dsimp only
        split
        · exact .inl ⟨_, _, rfl⟩
        · refine .inr ⟨_, rfl, h.pointsInto ?_⟩
          rw [ParseFault.StandsAt, String.toList_ofList, ← h.rest_eq]
          exact List.takeWhile_prefix _
      · exact .inr ⟨_, rfl, pointsInto_unexpected h _⟩
  · exact .inr ⟨_, rfl, pointsInto_unexpected h _⟩

theorem closeBracket_cases (h : c.IsIn text) :
    closeBracket c = .ok (c.advance 1) ∨ ∃ e, closeBracket c = .error e ∧ ErrorPoints text e := by
  unfold closeBracket
  split
  · exact .inl rfl
  · rename_i hrest
    exact .inr ⟨_, rfl, .inr (by rw [h.offset_eq hrest])⟩
  · exact .inr ⟨_, rfl, .inl (pointsInto_unexpected h _)⟩

theorem readStep_cases (h : c.IsIn text) :
    (∃ s c', readStep c = .ok (s, c') ∧ c'.IsIn text) ∨
      ∃ e, readStep c = .error e ∧ ErrorPoints text e := by
  unfold readStep
  split
  · have hname := h.advance 1
    dsimp only
    split
    · exact .inl ⟨_, _, rfl, hname.advance _⟩
    · exact .inr ⟨_, rfl, .inl (pointsInto_unexpected hname _)⟩
  · have hinside := (h.advance 1).skipWhile Text.isBlank
    rcases readBracketed_cases hinside with ⟨s, n, hread⟩ | ⟨e, hread, he⟩
    · have hafter := (hinside.advance n).skipWhile Text.isBlank
      rw [hread]
      rcases closeBracket_cases hafter with hclose | ⟨e, hclose, he⟩
      · refine .inl ⟨s, _, ?_, hafter.advance 1⟩
        simp only [bind, Except.bind, hclose]
        rfl
      · refine .inr ⟨e, ?_, he⟩
        simp only [bind, Except.bind, hclose]
    · refine .inr ⟨e, ?_, .inl he⟩
      rw [hread]
      rfl
  · exact .inr ⟨_, rfl, .inl (pointsInto_unexpected h _)⟩

theorem errorPoints_readSteps {fuel : Nat} (h : c.IsIn text) (hread : readSteps fuel c = .error e) :
    ErrorPoints text e := by
  induction fuel generalizing c with
  | zero => contradiction
  | succ fuel ih =>
    unfold readSteps at hread
    split at hread
    · contradiction
    · rcases readStep_cases h with ⟨s, c', hstep, hc'⟩ | ⟨fault, hstep, hfault⟩
      · rw [hstep] at hread
        change readSteps fuel c' >>= (fun steps => pure (s :: steps)) = _ at hread
        cases hsteps : readSteps fuel c' with
        | ok steps =>
          rw [hsteps] at hread
          contradiction
        | error fault =>
          rw [hsteps] at hread
          obtain rfl := Except.error.inj hread
          exact ih hc' hsteps
      · rw [hstep] at hread
        obtain rfl := Except.error.inj hread
        exact hfault

theorem errorPoints_of_parse {text : String} (h : parse text = .error e) :
    ErrorPoints text.toList e := by
  have hstart := Cursor.isIn_start text
  unfold parse at h
  dsimp only at h
  split at h
  · cases hsteps : readSteps (Cursor.start text).rest.length ((Cursor.start text).advance 1) with
    | error fault =>
      rw [hsteps] at h
      obtain rfl := Except.error.inj h
      exact errorPoints_readSteps (hstart.advance 1) hsteps
    | ok steps =>
      rw [hsteps] at h
      contradiction
  · obtain rfl := Except.error.inj h
    exact .inl (pointsInto_unexpected hstart _)

end Path

/-! ## All errors -/

/-- **Places of errors.** If a text is refused as an expression or as a predicate, with any
functions, the error is at a place in the text and tells of what stands there: the character that it
names, the bracket that it calls unbalanced, or the end of the text if that is what is not expected.
If it is refused as a path, so is the error, unless a bracket is not closed, which is told at the
end of the text. -/
theorem errors_pointInto (text : String) :
    (∀ functions e, Expression.compile functions text = .error e → e.PointsInto text.toList) ∧
    (∀ functions e, Query.parsePredicate functions text = .error e → e.PointsInto text.toList) ∧
    ∀ e, Path.parse text = .error e →
      e.PointsInto text.toList ∨ e = ⟨.unbalancedBracket '[', text.length⟩ := by
  refine ⟨fun functions e h => ?_, fun functions e h => ?_, fun e h => ?_⟩
  · refine Query.Parse.Points.of_readAll (Query.points_path functions) ?_
    unfold Expression.compile Query.parsePath at h
    cases hread : Query.readAll (Query.path functions) text with
    | ok chain =>
      rw [hread] at h
      contradiction
    | error fault =>
      rw [hread] at h
      rw [Except.error.inj h]
  · exact Query.Parse.Points.of_readAll (Query.points_predicateOnly functions) h
  · have hpoints := Path.errorPoints_of_parse h
    rwa [Path.ErrorPoints, String.length_toList] at hpoints

/-- A bracket that is not closed in an expression, an operand that misses after a comparison, and in
a path an escape that stands for nothing. -/
theorem errors_pointInto_cases :
    (ParseError.mk (.unbalancedBracket '[') 3).PointsInto "$.a[1".toList ∧
      (ParseError.mk (.unexpectedEnd "operand") 6).PointsInto "@.a > ".toList ∧
      (ParseError.mk (.invalidEscape 'x') 5).PointsInto "$[  '\\x']".toList := by
  refine ⟨(errors_pointInto "$.a[1").1 .empty _ ?_, (errors_pointInto "@.a > ").2.1 .empty _ ?_,
    ((errors_pointInto "$[  '\\x']").2.2 ⟨.invalidEscape 'x', 5⟩ (by cbv)).resolve_right
      (by decide)⟩
  · have hread : Query.parsePath .empty "$.a[1" = .error ⟨.unbalancedBracket '[', 3⟩ :=
      (Query.readAll_of_lexemes (by cbv) rfl).trans rfl
    rw [Expression.compile, hread]
    rfl
  · exact (Query.parsePredicate_of_lexemes (by cbv) rfl).trans rfl

end JsonPath

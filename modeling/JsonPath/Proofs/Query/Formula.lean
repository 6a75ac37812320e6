import JsonPath.Proofs.Query.Nesting
import JsonPath.Proofs.Query.Spelling

/-!
# Formulas

A formula is how a predicate may be written with operators between operands: parentheses stand where
the strength of the operators and grouping from the left require them, and anywhere else they may.
What is written is read, and as this predicate, unless there are not enough levels. Parentheses and
signs take a level each, and so does each operator of a row. An operator is read on the level that
the row before it ends on, so the levels of a row add up from the left; this is the measure that
the recursion along a formula carries.

* `Formula` — operands, operators and parentheses, as they stand in a text.
* `Formula.Grouped` — whether the parentheses are enough.
* `Formula.IsRead` — how the tokens of a formula are read, alone and in a row.
* `parsePredicate_of_writes` — the predicate that is written is read.
-/

namespace JsonPath.Query

open Parse Level

/-- Operands and operators as they stand in a text, with parentheses. -/
inductive Formula where
  | integer (n : Int64)
  | string (s : String)
  | boolean (b : Bool)
  | null
  /-- The node, or members of members of it. -/
  | current (names : List String)
  /-- The root of the document, or members of members of it. -/
  | root (names : List String)
  | group (f : Formula)
  | not (f : Formula)
  | minus (f : Formula)
  | binary (c : Connective) (left right : Formula)

namespace Formula

/-- The predicate that is written. -/
def predicate : Formula → Predicate
  | integer n => .literal (.int n)
  | string s => .literal (.string s)
  | boolean b => .literal (.bool b)
  | null => .literal .null
  | current names => if names.isEmpty then .current else .fromCurrent (names.map .name)
  | root names => if names.isEmpty then .root else .fromRoot (names.map .name)
  | group f => f.predicate
  | not f => .not f.predicate
  | minus f => .negate f.predicate
  | binary c l r => c.combine l.predicate r.predicate

/-- Names after dots. -/
def nameTokens (names : List String) : List Token :=
  names.flatMap fun name => [.mark .dot, wordToken name]

def tokens : Formula → List Token
  | integer n => [.integer n]
  | string s => [.string s]
  | boolean b => [.boolean b]
  | null => [.null]
  | current names => .mark .atSign :: nameTokens names
  | root names => .mark .dollar :: nameTokens names
  | group f => .mark .openParen :: (f.tokens ++ [.mark .closeParen])
  | not f => .mark .not :: f.tokens
  | minus f => .mark .minus :: f.tokens
  | binary c l r => l.tokens ++ .mark c.mark :: r.tokens

/-- How strongly a formula holds together. -/
def strength : Formula → Nat
  | binary c _ _ => c.strength
  | _ => 6

/-- Whether parentheses stand wherever they have to. Operators in a row are grouped from the left,
and comparisons do not stand in a row. The sign of a number would be part of it. -/
def Grouped : Formula → Prop
  | integer n => 0 ≤ n.toInt
  | string _ | boolean _ | null => True
  | current names | root names => ∀ name ∈ names, IsWord name
  | group f => f.Grouped
  | not f => 6 ≤ f.strength ∧ f.Grouped
  | minus f => f.predicate.isNumber = false ∧ 6 ≤ f.strength ∧ f.Grouped
  | binary c l r =>
    ((if c.isChained then c.strength else c.strength + 1) ≤ l.strength ∧ l.Grouped) ∧
      c.strength < r.strength ∧ r.Grouped

/-- How many operators of some strength stand in a row at the left. -/
def rowLength (k : Nat) : Formula → Nat
  | binary c l _ => if c.strength = k then l.rowLength k + 1 else 0
  | _ => 0

/-- How many levels a formula nests. -/
def levels : Formula → Nat
  | group f | not f | minus f => f.levels + 1
  | binary c l r =>
    if c.isChained then max l.levels (r.levels + l.rowLength c.strength + 1)
    else max l.levels r.levels
  | _ => 0

end Formula

variable {functions : Registry} {n : Nat} {ts us : List Token} {f : Formula}

namespace Formula

theorem strength_bounds (f : Formula) : 1 ≤ f.strength ∧ f.strength ≤ 6 := by
  cases f with
  | binary c l r => exact ⟨c.one_le_strength, Nat.le_succ_of_le c.strength_le_five⟩
  | _ => simp [strength]

theorem rowLength_eq_zero {k : Nat} (h : k < f.strength) : f.rowLength k = 0 := by
  cases f with
  | binary c l r => exact if_neg (Nat.ne_of_gt h)
  | _ => rfl

/-- How a formula is read: as a phrase of its strength before what binds less, and as the start of a
row, which goes on with as many levels less as there are operators before. -/
structure IsRead (functions : Registry) (f : Formula) : Prop where
  phrase : ∀ {n rest}, Query.strength (front rest) < f.strength →
    TakesIf (f.levels ≤ n) ((ofRoom functions n).phrase f.strength) (f.tokens ++ rest) rest
      f.predicate
  row : ∀ {n rest us q} {more : Prop}, (∃ c : Connective, c.isChained ∧ c.strength = f.strength) →
    Query.strength (front rest) ≤ f.strength →
      (∀ m, m + f.rowLength f.strength = n →
        TakesIf more ((ofRoom functions m).row f.strength f.predicate) rest us q) →
      TakesIf (f.levels ≤ n ∧ more) ((ofRoom functions n).phrase f.strength) (f.tokens ++ rest) us q

namespace IsRead

variable {c : Connective} {l r : Formula} {rest : List Token} {q : Predicate} {more : Prop}

theorem of_operand (hstrength : f.strength = 6)
    (h : ∀ {n rest}, Query.strength (front rest) < 6 →
      TakesIf (f.levels ≤ n) (ofRoom functions n).unary (f.tokens ++ rest) rest f.predicate) :
    f.IsRead functions where
  phrase hstop := by
    rw [hstrength] at hstop ⊢
    exact h hstop
  row hrow _ _ := by
    obtain ⟨c, -, hc⟩ := hrow
    have := c.strength_le_five
    omega

theorem operand (hf : f.IsRead functions) (hstrength : 6 ≤ f.strength)
    (hstop : Query.strength (front rest) < 6) :
    TakesIf (f.levels ≤ n) (ofRoom functions n).unary (f.tokens ++ rest) rest f.predicate := by
  have h := hf.phrase (n := n) (lt_of_lt_of_le hstop hstrength)
  rwa [le_antisymm f.strength_bounds.2 hstrength] at h

/-- Before what binds nothing, every formula is a whole predicate. -/
theorem disjunction (hf : f.IsRead functions) (hstop : Query.strength (front rest) < 1) :
    TakesIf (f.levels ≤ n) (ofRoom functions n).disjunction (f.tokens ++ rest) rest f.predicate := by
  have hphrase := hf.phrase (n := n) (lt_of_lt_of_le hstop f.strength_bounds.1)
  exact takesIf_phrase (k := 1) hphrase le_rfl f.strength_bounds.1 f.strength_bounds.2 hstop

/-- A formula that holds together as strongly as an operator needs starts a row of it. -/
theorem atRow (hf : f.IsRead functions) (hc : c.isChained) (hstrength : c.strength ≤ f.strength)
    (hstop : Query.strength (front rest) ≤ c.strength)
    (h : ∀ m, m + f.rowLength c.strength = n →
      TakesIf more ((ofRoom functions m).row c.strength f.predicate) rest us q) :
    TakesIf (f.levels ≤ n ∧ more) ((ofRoom functions n).phrase c.strength) (f.tokens ++ rest) us
      q := by
  rcases Nat.lt_or_eq_of_le hstrength with hlt | heq
  · have hphrase : TakesIf (f.levels ≤ n) ((ofRoom functions n).phrase (c.strength + 1))
        (f.tokens ++ rest) rest f.predicate :=
      takesIf_phrase (hf.phrase (by omega)) (by omega) hlt f.strength_bounds.2 (by omega)
    rw [phrase_eq functions n c.one_le_strength c.strength_le_five]
    exact hphrase.bind (h n (by rw [rowLength_eq_zero hlt, Nat.add_zero]))
  · rw [heq] at hstop h ⊢
    exact hf.row ⟨c, hc, heq⟩ hstop h

/-- The right operand is read a level below where the row before the operator ends. -/
theorem binary_row (hl : l.IsRead functions) (hr : r.IsRead functions) (hc : c.isChained)
    (hleft : c.strength ≤ l.strength) (hright : c.strength < r.strength)
    (hstop : Query.strength (front rest) ≤ c.strength)
    (h : ∀ m, m + (l.rowLength c.strength + 1) = n → TakesIf more
      ((ofRoom functions m).row c.strength (c.combine l.predicate r.predicate)) rest us q) :
    TakesIf (l.levels ≤ n ∧ r.levels + l.rowLength c.strength + 1 ≤ n ∧ more)
      ((ofRoom functions n).phrase c.strength) (l.tokens ++ .mark c.mark :: (r.tokens ++ rest)) us
      q := by
  refine hl.atRow hc hleft (by simp) fun m hm => ?_
  refine takesIf_row hc (fun hroom => by omega) fun j hj => ?_
  have hoperand : TakesIf (r.levels ≤ j) ((ofRoom functions j).phrase (c.strength + 1))
      (r.tokens ++ rest) rest r.predicate :=
    takesIf_phrase (hr.phrase (by omega)) (by omega) hright r.strength_bounds.2 (by omega)
  exact (hoperand.bind (h j (by omega))).congr (and_congr_left fun _ => by omega)

theorem chained (hl : l.IsRead functions) (hr : r.IsRead functions) (hc : c.isChained)
    (hleft : c.strength ≤ l.strength) (hright : c.strength < r.strength) :
    (binary c l r).IsRead functions := by
  have hrow : ∀ {n rest us q} {more : Prop}, Query.strength (front rest) ≤ c.strength →
      (∀ m, m + (binary c l r).rowLength c.strength = n → TakesIf more
        ((ofRoom functions m).row c.strength (c.combine l.predicate r.predicate)) rest us q) →
      TakesIf ((binary c l r).levels ≤ n ∧ more) ((ofRoom functions n).phrase c.strength)
        ((binary c l r).tokens ++ rest) us q := by
    intro n rest us q more hstop h
    rw [rowLength, if_pos rfl] at h
    have hread := binary_row hl hr hc hleft hright hstop h
    rw [tokens, List.append_assoc, List.cons_append]
    refine hread.congr ?_
    rw [levels, if_pos hc, max_le_iff, and_assoc]
  refine ⟨fun hstop => ?_, fun _ hstop h => hrow hstop h⟩
  exact (hrow (Nat.le_of_lt hstop) fun m _ => (takes_row hstop).takesIf trivial).congr (by simp)

theorem comparison {op : Comparison} (hl : l.IsRead functions) (hr : r.IsRead functions)
    (hleft : 4 ≤ l.strength) (hright : 4 ≤ r.strength) :
    (binary (.comparison op) l r).IsRead functions where
  phrase {n rest} hstop := by
    have hstop : Query.strength (front rest) < 3 := hstop
    have hop : Query.strength (.mark op.mark) = 3 := (Connective.comparison op).strength_mark
    have hfirst : TakesIf (l.levels ≤ n) ((ofRoom functions n).phrase 4)
        (l.tokens ++ .mark op.mark :: (r.tokens ++ rest)) (.mark op.mark :: (r.tokens ++ rest))
        l.predicate :=
      takesIf_phrase (hl.phrase (by rw [front_cons, hop]; omega)) (by omega) hleft
        l.strength_bounds.2 (by rw [front_cons, hop]; omega)
    have hsecond : TakesIf (r.levels ≤ n) ((ofRoom functions n).phrase 4) (r.tokens ++ rest) rest
        r.predicate :=
      takesIf_phrase (hr.phrase (by omega)) (by omega) hright r.strength_bounds.2 (by omega)
    rw [tokens, List.append_assoc, List.cons_append]
    refine TakesIf.congr ?_ (max_le_iff (a := l.levels) (b := r.levels))
    rw [strength, Connective.strength, phrase_eq functions n (by omega) (by omega)]
    exact hfirst.bind (takesIf_comparisonRest op hsecond)
  row hrow _ _ := by
    obtain ⟨c, hc, hstrength⟩ := hrow
    exact absurd hstrength (Connective.strength_ne_three hc)

end IsRead

/-! ## Reading formulas -/

theorem nameTokens_cons (name : String) (names : List String) :
    nameTokens (name :: names) = .mark .dot :: wordToken name :: nameTokens names := rfl

theorem takesMany_names (names : List String) {rest : List Token}
    (hstop : Query.strength (front rest) < 6) :
    TakesMany (segment? functions (below functions n) (ofRoom functions n).predicate)
      (nameTokens names ++ rest) rest ((names.map Selector.name).map fun s => [s]) := by
  induction names with
  | nil => exact .nil (takes_segment?_none hstop)
  | cons name names ih =>
    have hfront : front (nameTokens names ++ rest) ≠ .mark .openParen := by
      cases names with
      | nil => exact ne_mark_of_strength hstop
      | cons => simp [nameTokens]
    rw [nameTokens_cons, List.cons_append, List.cons_append]
    refine .cons (takes_dotName hfront) ?_ ih
    simp only [List.length_append, List.length_cons]
    omega

/-- **Formulas.** What is written with enough parentheses is read as it is grouped. -/
theorem isRead : ∀ f : Formula, f.Grouped → f.IsRead functions
  | integer n, _ => .of_operand rfl fun {_ rest} _ =>
    (takes_literal (v := .int n) rfl rest).takesIf (Nat.zero_le _)
  | string s, _ => .of_operand rfl fun {_ rest} _ =>
    (takes_literal (v := .string s) rfl rest).takesIf (Nat.zero_le _)
  | boolean b, _ => .of_operand rfl fun {_ rest} _ =>
    (takes_literal (v := .bool b) rfl rest).takesIf (Nat.zero_le _)
  | null, _ => .of_operand rfl fun {_ rest} _ =>
    (takes_literal (v := .null) rfl rest).takesIf (Nat.zero_le _)
  | current names, _ => .of_operand rfl fun {n rest} hstop => by
    have h : Takes (ofRoom functions n).unary _ rest _ :=
      takes_fromCurrent (takes_segments (takesMany_names names hstop))
    rw [List.isEmpty_map] at h
    exact h.takesIf (Nat.zero_le _)
  | root names, _ => .of_operand rfl fun {n rest} hstop => by
    have h : Takes (ofRoom functions n).unary _ rest _ :=
      takes_fromRoot (takes_segments (takesMany_names names hstop))
    rw [List.isEmpty_map] at h
    exact h.takesIf (Nat.zero_le _)
  | group f, hf => .of_operand rfl fun {n rest} _ => by
    rw [tokens, List.cons_append, List.append_assoc]
    refine takesIf_parenthesized (fun h => Nat.lt_of_lt_of_le (Nat.succ_pos _) h) fun m hm => ?_
    have hclose : Query.strength (front (.mark .closeParen :: rest)) < 1 := by
      simp [Query.strength]
    exact ((isRead f hf).disjunction hclose).congr (by rw [levels]; omega)
  | not f, hf => .of_operand rfl fun {n rest} hstop => by
    refine takesIf_not (fun h => Nat.lt_of_lt_of_le (Nat.succ_pos _) h) fun m hm => ?_
    exact ((isRead f hf.2).operand hf.1 hstop).congr (by rw [levels]; omega)
  | minus f, hf => .of_operand rfl fun {n rest} hstop => by
    rw [predicate, ← negated_eq_negate hf.1]
    refine takesIf_minus (fun h => Nat.lt_of_lt_of_le (Nat.succ_pos _) h) fun m hm => ?_
    exact ((isRead f hf.2.2).operand hf.2.1 hstop).congr (by rw [levels]; omega)
  | binary c l r, hf => by
    have hl := isRead l hf.1.2
    have hr := isRead r hf.2.2
    have hleft := hf.1.1
    cases c with
    | comparison op => exact .comparison hl hr hleft hf.2.1
    | _ => exact .chained hl hr rfl hleft hf.2.1

/-! ## Texts -/

/-- Whether a text is a formula of a predicate: the parentheses are enough, and the text spells the
tokens of the formula, with blanks between them. -/
structure Writes (f : Formula) (p : Predicate) (text : String) : Prop where
  grouped : f.Grouped
  predicate : f.predicate = p
  spells : Spells f.tokens text.toList

theorem isWritten_of_mem_nameTokens {names : List String} (h : ∀ name ∈ names, IsWord name) :
    ∀ t ∈ nameTokens names, t.IsWritten := by
  intro t ht
  obtain ⟨name, hname, ht⟩ := List.mem_flatMap.1 ht
  rcases List.mem_pair.1 ht with rfl | rfl
  · exact isWritten_mark (by simp)
  · exact isWritten_word (h name hname)

theorem isWritten_of_mem_tokens : ∀ f : Formula, f.Grouped → ∀ t ∈ f.tokens, t.IsWritten
  | integer n, hf => List.forall_mem_singleton.2 (isWritten_integer hf)
  | string s, _ => List.forall_mem_singleton.2 (isWritten_string s)
  | boolean true, _ => List.forall_mem_singleton.2
    (isWritten_word (show IsWord "true" from .of_toList rfl (by decide)))
  | boolean false, _ => List.forall_mem_singleton.2
    (isWritten_word (show IsWord "false" from .of_toList rfl (by decide)))
  | null, _ => List.forall_mem_singleton.2
    (isWritten_word (show IsWord "null" from .of_toList rfl (by decide)))
  | current _, hf | root _, hf =>
    List.forall_mem_cons.2 ⟨isWritten_mark (by simp), isWritten_of_mem_nameTokens hf⟩
  | group f, hf => by
    refine List.forall_mem_cons.2 ⟨isWritten_mark (by simp), List.forall_mem_append.2 ?_⟩
    exact ⟨isWritten_of_mem_tokens f hf, List.forall_mem_singleton.2 (isWritten_mark (by simp))⟩
  | not f, hf =>
    List.forall_mem_cons.2 ⟨isWritten_mark (by simp), isWritten_of_mem_tokens f hf.2⟩
  | minus f, hf =>
    List.forall_mem_cons.2 ⟨isWritten_mark (by simp), isWritten_of_mem_tokens f hf.2.2⟩
  | binary c l r, hf => by
    refine List.forall_mem_append.2 ⟨isWritten_of_mem_tokens l hf.1.2, List.forall_mem_cons.2 ?_⟩
    exact ⟨isWritten_mark c.mark_ne_matchSign, isWritten_of_mem_tokens r hf.2.2⟩

/-- Every formula with enough parentheses can be written. -/
theorem writes_spaced (hf : f.Grouped) : f.Writes f.predicate (spaced f.tokens) :=
  ⟨hf, rfl, spells_spaced (isWritten_of_mem_tokens f hf)⟩

end Formula

/-! ## The predicates with formulas -/

/-- Whether a value is a literal without a sign or a point. -/
def IsPlainLiteral : Value → Prop
  | .int n => 0 ≤ n.toInt
  | .null | .bool _ | .string _ => True
  | .float _ | .array _ | .object _ => False

/-- Whether a chain consists of names that may stand after dots. -/
def IsNamed (chain : Chain) : Prop :=
  chain ≠ [] ∧ ∃ names : List String, (∀ name ∈ names, IsWord name) ∧ names.map .name = chain

/-- Whether a predicate is built with operators from literals and named members. Only numbers take a
sign into themselves. -/
def Predicate.IsPlain : Predicate → Prop
  | .literal v => IsPlainLiteral v
  | .current | .root => True
  | .fromCurrent chain | .fromRoot chain => IsNamed chain
  | .comparison _ l r | .operation _ l r | .and l r | .or l r => l.IsPlain ∧ r.IsPlain
  | .negate p => p.isNumber = false ∧ p.IsPlain
  | .not p => p.IsPlain
  | .search _ _ | .call _ _ => False

namespace Formula

/-- A formula in parentheses if it holds together less strongly than it has to. -/
def atLeast (k : Nat) (f : Formula) : Formula := if k ≤ f.strength then f else group f

theorem atLeast_spec {k : Nat} (hk : k ≤ 6) (hf : f.Grouped) :
    k ≤ (f.atLeast k).strength ∧ (f.atLeast k).Grouped ∧ (f.atLeast k).predicate = f.predicate := by
  unfold atLeast
  split_ifs with h
  · exact ⟨h, hf, rfl⟩
  · exact ⟨hk, hf, rfl⟩

theorem isPlain_predicate : ∀ f : Formula, f.Grouped → f.predicate.IsPlain
  | integer _, hf => hf
  | string _, _ | boolean _, _ | null, _ => trivial
  | current names, hf | root names, hf => by
    rw [predicate]
    split_ifs with hnames
    · trivial
    · exact ⟨by simpa using hnames, names, hf, rfl⟩
  | group f, hf => isPlain_predicate f hf
  | not f, hf => isPlain_predicate f hf.2
  | minus f, hf => ⟨hf.1, isPlain_predicate f hf.2.2⟩
  | binary c l r, hf => by
    have hl := isPlain_predicate l hf.1.2
    have hr := isPlain_predicate r hf.2.2
    cases c <;> exact ⟨hl, hr⟩

/-- Two operands that have formulas, with an operator between them. -/
theorem exists_binary (c : Connective) {p q : Predicate}
    (hp : ∃ f : Formula, f.Grouped ∧ f.predicate = p)
    (hq : ∃ f : Formula, f.Grouped ∧ f.predicate = q) :
    ∃ f : Formula, f.Grouped ∧ f.predicate = c.combine p q := by
  obtain ⟨l, hl, rfl⟩ := hp
  obtain ⟨r, hr, rfl⟩ := hq
  have hc := c.strength_le_five
  obtain ⟨hleft, hl, hpl⟩ := atLeast_spec (k := if c.isChained then c.strength else c.strength + 1)
    (by split_ifs <;> omega) hl
  obtain ⟨hright, hr, hpr⟩ := atLeast_spec (k := c.strength + 1) (by omega) hr
  exact ⟨binary c _ _, ⟨⟨hleft, hl⟩, hright, hr⟩, by rw [predicate, hpl, hpr]⟩

end Formula

open Formula

theorem exists_formula : ∀ p : Predicate, p.IsPlain → ∃ f : Formula, f.Grouped ∧ f.predicate = p
  | .literal (.int n), hp => ⟨integer n, hp, rfl⟩
  | .literal (.string s), _ => ⟨string s, trivial, rfl⟩
  | .literal (.bool b), _ => ⟨boolean b, trivial, rfl⟩
  | .literal .null, _ => ⟨null, trivial, rfl⟩
  | .current, _ => ⟨current [], List.forall_mem_nil _, rfl⟩
  | .root, _ => ⟨root [], List.forall_mem_nil _, rfl⟩
  | .fromCurrent chain, hp => by
    obtain ⟨hne, names, hnames, rfl⟩ := hp
    exact ⟨current names, hnames, if_neg (by simpa using hne)⟩
  | .fromRoot chain, hp => by
    obtain ⟨hne, names, hnames, rfl⟩ := hp
    exact ⟨root names, hnames, if_neg (by simpa using hne)⟩
  | .comparison op l r, hp =>
    exists_binary (.comparison op) (exists_formula l hp.1) (exists_formula r hp.2)
  | .operation op l r, hp =>
    exists_binary (.operation op) (exists_formula l hp.1) (exists_formula r hp.2)
  | .and l r, hp => exists_binary .and (exists_formula l hp.1) (exists_formula r hp.2)
  | .or l r, hp => exists_binary .or (exists_formula l hp.1) (exists_formula r hp.2)
  | .negate p, hp => by
    obtain ⟨f, hf, rfl⟩ := exists_formula p hp.2
    obtain ⟨hstrength, hf, hpredicate⟩ := atLeast_spec le_rfl hf
    rw [← hpredicate] at hp ⊢
    exact ⟨minus _, ⟨hp.1, hstrength, hf⟩, rfl⟩
  | .not p, hp => by
    obtain ⟨f, hf, rfl⟩ := exists_formula p hp
    obtain ⟨hstrength, hf, hpredicate⟩ := atLeast_spec le_rfl hf
    rw [← hpredicate]
    exact ⟨not _, ⟨hstrength, hf⟩, rfl⟩

/-- Exactly the predicates that are built with operators from literals and named members have
formulas. -/
theorem isPlain_iff_exists_writes {p : Predicate} :
    p.IsPlain ↔ ∃ f text, Formula.Writes f p text := by
  constructor
  · intro hp
    obtain ⟨f, hf, rfl⟩ := exists_formula p hp
    exact ⟨f, _, writes_spaced hf⟩
  · rintro ⟨f, text, hf, rfl, -⟩
    exact isPlain_predicate f hf

/-! ## Reading the texts -/

/-- **Precedence.** A predicate is read from each of its formulas, if there are as many levels as
this nests; the predicate as a whole takes one. Otherwise the nesting is what reading reports. -/
theorem parsePredicate_of_writes {p : Predicate} {text : String} (h : f.Writes p text) :
    (f.levels < maxNesting → parsePredicate functions text = .ok p) ∧
      (maxNesting ≤ f.levels →
        ∃ o, parsePredicate functions text = .error ⟨.nestingTooDeep maxNesting, o⟩) := by
  have hphrase : TakesIf (f.levels ≤ 63) (ofRoom functions 63).disjunction (f.tokens ++ []) []
      f.predicate := (isRead f h.grouped).disjunction Nat.one_pos
  rw [List.append_nil, h.predicate] at hphrase
  have hread : TakesIf (f.levels ≤ 63) (predicateOnly functions) f.tokens [] p :=
    hphrase.bindTakes (takes_current.bind takes_pure)
  refine ⟨fun hlevels => ?_, fun hlevels => ?_⟩
  · exact readAll_of_takes h.spells.tokens?_lexemes (hread.takes (Nat.le_of_lt_succ hlevels))
  · exact readAll_of_tooDeep h.spells.tokens?_lexemes (hread.tooDeep (Nat.not_le_of_lt hlevels))

/-- Operators of all strengths in one text, in rows and with more parentheses than there have to be:
the product comes before the differences, and these are grouped from the left. -/
theorem parsePredicate_of_writes_all :
    ∃ f, Writes f
        (.or
          (.and
            (.comparison .lessEqual
              (.operation .subtract
                (.operation .subtract (.fromCurrent [.name "a", .name "true"])
                  (.operation .multiply (.literal (.int 2)) (.negate (.negate .root))))
                (.literal (.int 10)))
              (.literal (.string "x y")))
            (.not (.or (.literal (.bool true)) (.literal .null))))
          (.fromRoot [.name "b"]))
        "@ . a . true - 2 * - - $ - 10 <= \"x y\" && ! ( true || null ) || ( $ . b ) " ∧
      f.levels < maxNesting ∧ parsePredicate .empty
        "@ . a . true - 2 * - - $ - 10 <= \"x y\" && ! ( true || null ) || ( $ . b ) " =
          .ok f.predicate := by
  have hwrites := writes_spaced (f := .binary .or
    (.binary .and
      (.binary (.comparison .lessEqual)
        (.binary (.operation .subtract)
          (.binary (.operation .subtract) (.current ["a", "true"])
            (.binary (.operation .multiply) (.integer 2) (.minus (.minus (.root [])))))
          (.integer 10))
        (.string "x y"))
      (.not (.group (.binary .or (.boolean true) .null))))
    (.group (.root ["b"]))) ?grouped
  · exact ⟨_, hwrites, by decide, (parsePredicate_of_writes hwrites).1 (by decide)⟩
  · have hwords : (IsWord "a" ∧ IsWord "true") ∧ IsWord "b" :=
      ⟨⟨.of_toList rfl (by decide), .of_toList rfl (by decide)⟩, .of_toList rfl (by decide)⟩
    simpa [Grouped, Formula.strength, Connective.strength, Connective.isChained,
      Formula.predicate, Predicate.isNumber] using hwords

end JsonPath.Query

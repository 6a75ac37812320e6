import JsonPath.Proofs.Query.Numbers
import JsonPath.Query.Grammar

/-!
# The tokens of written chains and predicates

What a chain or a predicate is written as can be read as tokens again, and these are found here from
its structure, side by side with the characters. Only what reading can give has a written form: the
least integer, for one, would be written with digits that are no integer.

* `Predicate.WellFormed` — what reading a text can give.
* `Predicate.tokens` — the tokens of the written form.
* `lexes_predicate` — the written form consists of these tokens.
-/

namespace JsonPath.Query

/-! ## What reading can give -/

/-- Whether a value is written as one literal. -/
def IsLiteral : Value → Prop
  | .int n => n ≠ Int64.minValue
  | .array _ | .object _ => False
  | .null | .bool _ | .float _ | .string _ => True

/-- Whether bounds and step, where given, have a written form. -/
structure Slice.WellFormed (s : Slice) : Prop where
  start : ∀ n ∈ s.start, n ≠ Int64.minValue
  stop : ∀ n ∈ s.stop, n ≠ Int64.minValue
  step : ∀ n ∈ s.step, n ≠ Int64.minValue ∧ n ≠ 0

/-- Whether a regular expression is one that its own pattern and flags give. -/
structure RegexLiteral.WellFormed (r : RegexLiteral) : Prop where
  source : IsPattern r.source.toList
  literal : regexLiteral r.source r.flags = .ok r

/-- Whether a name stands for a function and can be written. -/
structure IsKnown (functions : Registry) (f : Function) : Prop where
  name : IsWord f.name
  resolve : functions.resolve? f.name = some f

/-- Whether a predicate is a number, which takes a minus sign into itself. -/
def Predicate.isNumber : Predicate → Bool
  | .literal (.int _) | .literal (.float _) => true
  | _ => false

mutual

/-- Whether reading can give a selector. -/
def Selector.WellFormed (functions : Registry) : Selector → Prop
  | .index i => i ≠ Int64.minValue
  | .slice s => s.WellFormed
  | .union members =>
    members ≠ [] ∧ (∀ s, members ≠ [[s]]) ∧ UnionWellFormed functions members
  | .filter p => p.WellFormed functions
  | .call f args =>
    IsKnown functions f ∧ selectorArityFault? f args.length = none ∧
      ArgumentsWellFormed functions args
  | .computed p => p.WellFormed functions
  | .name _ | .wildMember | .wildElement | .descent => True

def ChainWellFormed (functions : Registry) : List Selector → Prop
  | [] => True
  | s :: rest => s.WellFormed functions ∧ ChainWellFormed functions rest

def UnionWellFormed (functions : Registry) : List (List Selector) → Prop
  | [] => True
  | chain :: rest => ChainWellFormed functions chain ∧ UnionWellFormed functions rest

/-- Whether reading can give a predicate. -/
def Predicate.WellFormed (functions : Registry) : Predicate → Prop
  | .literal v => IsLiteral v
  | .current | .root => True
  | .fromCurrent chain | .fromRoot chain => chain ≠ [] ∧ ChainWellFormed functions chain
  | .comparison _ l r | .operation _ l r | .and l r | .or l r =>
    l.WellFormed functions ∧ r.WellFormed functions
  | .negate p => p.isNumber = false ∧ p.WellFormed functions
  | .not p => p.WellFormed functions
  | .search p r => p.WellFormed functions ∧ r.WellFormed
  | .call f args =>
    IsKnown functions f ∧ wordToken f.name = .identifier f.name ∧
      callArityFault? f args.length = none ∧ ArgumentsWellFormed functions args

def ArgumentsWellFormed (functions : Registry) : List Predicate → Prop
  | [] => True
  | p :: rest => p.WellFormed functions ∧ ArgumentsWellFormed functions rest

end

/-! ## Tokens -/

/-- The tokens of a literal. -/
def literalTokens : Value → List Token
  | .null => [.null]
  | .bool b => [.boolean b]
  | .int n => intTokens n
  | .float x => floatTokens x
  | .string s => [.string s]
  | .array _ | .object _ => []

/-- The tokens of a bound that may be left out. -/
def boundTokens : Option Int64 → List Token
  | none => []
  | some n => intTokens n

def Slice.tokens (s : Slice) : List Token :=
  boundTokens s.start ++ .mark .colon :: boundTokens s.stop ++
    (s.step.map fun n => .mark .colon :: intTokens n).getD []

def Comparison.mark : Comparison → Mark
  | equal => .equal
  | notEqual => .notEqual
  | less => .less
  | lessEqual => .lessEqual
  | greater => .greater
  | greaterEqual => .greaterEqual

def Operation.mark : Operation → Mark
  | add => .plus
  | subtract => .minus
  | multiply => .star
  | divide => .slash
  | modulo => .percent

/-- The tokens of a binary operation in parentheses. -/
def groupedTokens (left : List Token) (op : Mark) (right : List Token) : List Token :=
  .mark .openParen :: (left ++ .mark op :: (right ++ [.mark .closeParen]))

mutual

/-- The tokens of a selector. -/
def Selector.tokens : Selector → List Token
  | .wildMember => [.mark .dot, .mark .star]
  | .descent => [.mark .dotDot]
  | .call f args =>
    .mark .dot :: wordToken f.name :: .mark .openParen ::
      (argumentTokens args ++ [.mark .closeParen])
  | .union members => .mark .openBracket :: (unionTokens members ++ [.mark .closeBracket])
  | .name s => [.mark .openBracket, .string s, .mark .closeBracket]
  | .wildElement => [.mark .openBracket, .mark .star, .mark .closeBracket]
  | .index i => .mark .openBracket :: (intTokens i ++ [.mark .closeBracket])
  | .slice s => .mark .openBracket :: (s.tokens ++ [.mark .closeBracket])
  | .filter p =>
    .mark .openBracket :: .mark .question :: .mark .openParen ::
      (p.tokens ++ [.mark .closeParen, .mark .closeBracket])
  | .computed p =>
    .mark .openBracket :: .mark .openParen ::
      (p.tokens ++ [.mark .closeParen, .mark .closeBracket])

/-- The tokens of a chain. -/
def chainTokens : List Selector → List Token
  | [] => []
  | s :: rest => s.tokens ++ chainTokens rest

/-- The tokens of one member of a union. -/
def memberTokens : List Selector → List Token
  | [.name s] => [.string s]
  | [.wildMember] => [.mark .star]
  | [.wildElement] => [.mark .star]
  | [.index i] => intTokens i
  | [.slice s] => s.tokens
  | [.filter p] => .mark .question :: .mark .openParen :: (p.tokens ++ [.mark .closeParen])
  | [.computed p] => .mark .openParen :: (p.tokens ++ [.mark .closeParen])
  | [] => [.mark .atSign]
  | s :: rest => .mark .atSign :: (s.tokens ++ chainTokens rest)

/-- The tokens of the members of a union. -/
def unionTokens : List (List Selector) → List Token
  | [] => []
  | [chain] => memberTokens chain
  | chain :: rest => memberTokens chain ++ .mark .comma :: unionTokens rest

/-- The tokens of a predicate. -/
def Predicate.tokens : Predicate → List Token
  | .literal v => literalTokens v
  | .current => [.mark .atSign]
  | .root => [.mark .dollar]
  | .fromCurrent chain => .mark .atSign :: chainTokens chain
  | .fromRoot chain => .mark .dollar :: chainTokens chain
  | .comparison op l r => l.tokens ++ .mark op.mark :: r.tokens
  | .operation op l r => groupedTokens l.tokens op.mark r.tokens
  | .negate p => .mark .minus :: p.tokens
  | .and l r => groupedTokens l.tokens .and r.tokens
  | .or l r => groupedTokens l.tokens .or r.tokens
  | .not p => .mark .not :: p.tokens
  | .search p r => p.tokens ++ [.mark .matchSign, .regex r.source r.flags]
  | .call f args =>
    wordToken f.name :: .mark .openParen :: (argumentTokens args ++ [.mark .closeParen])

/-- The tokens of the arguments of a call. -/
def argumentTokens : List Predicate → List Token
  | [] => []
  | [p] => p.tokens
  | p :: rest => p.tokens ++ .mark .comma :: argumentTokens rest

end

variable {cs rest : List Char} {ts : List Token} {functions : Registry}

/-! ## Written forms and their tokens -/

theorem Comparison.text_mark (op : Comparison) : op.mark.text = op.text := by cases op <;> rfl

theorem Operation.text_mark (op : Operation) : op.mark.text = op.text := by cases op <;> rfl

theorem Comparison.mark_ne_matchSign (op : Comparison) : op.mark ≠ .matchSign := by
  cases op <;> decide

theorem Operation.mark_ne_matchSign (op : Operation) : op.mark ≠ .matchSign := by
  cases op <;> decide

/-- The tokens that operands start with. -/
def startsOperand : Token → Bool
  | .mark .atSign | .mark .dollar | .mark .openParen | .mark .minus | .mark .not => true
  | .mark _ | .regex _ _ | .endOfText => false
  | .float _ | .integer _ | .string _ | .boolean _ | .null | .identifier _ => true

theorem exists_head_literalTokens {v : Value} (hv : IsLiteral v) :
    ∃ t ts, literalTokens v = t :: ts ∧ startsOperand t := by
  cases v with
  | int n =>
    rw [literalTokens, intTokens]
    split <;> exact ⟨_, _, rfl, rfl⟩
  | float x =>
    rw [literalTokens, floatTokens]
    split
    · exact ⟨_, _, rfl, rfl⟩
    · split <;> exact ⟨_, _, rfl, rfl⟩
  | array => exact absurd hv id
  | object => exact absurd hv id
  | _ => exact ⟨_, _, rfl, rfl⟩

/-- Every predicate starts with a token that starts an operand. -/
theorem Predicate.exists_head_tokens :
    ∀ p : Predicate, p.WellFormed functions → ∃ t ts, p.tokens = t :: ts ∧ startsOperand t
  | .literal v, hp => exists_head_literalTokens hp
  | .comparison op l r, hp => by
    obtain ⟨t, ts, hl, ht⟩ := l.exists_head_tokens hp.1
    exact ⟨t, ts ++ .mark op.mark :: r.tokens, by simp [Predicate.tokens, hl], ht⟩
  | .search p r, hp => by
    obtain ⟨t, ts, hp, ht⟩ := p.exists_head_tokens hp.1
    exact ⟨t, ts ++ [.mark .matchSign, .regex r.source r.flags], by simp [Predicate.tokens, hp], ht⟩
  | .call f args, hp => ⟨.identifier f.name, _, by rw [Predicate.tokens, hp.2.1], rfl⟩
  | .current, _ | .root, _ | .fromCurrent _, _ | .fromRoot _, _ | .operation _ _ _, _
  | .negate _, _ | .and _ _, _ | .or _ _, _ | .not _, _ => ⟨_, _, rfl, rfl⟩

theorem Predicate.tokens_ne_nil {p : Predicate} (hp : p.WellFormed functions) : p.tokens ≠ [] := by
  obtain ⟨t, ts, hts, -⟩ := p.exists_head_tokens hp
  simp [hts]

/-- No predicate starts with a mark that starts no operand. -/
theorem Predicate.head_tokens_ne {p : Predicate} (hp : p.WellFormed functions) {m : Mark}
    (hm : startsOperand (.mark m) = false) (ts : List Token) :
    (p.tokens ++ ts).head? ≠ some (.mark m) := by
  obtain ⟨t, us, hus, ht⟩ := p.exists_head_tokens hp
  rw [hus]
  rintro heq
  obtain rfl : t = .mark m := Option.some.inj heq
  simp [hm] at ht

/-- A mark of one character that starts no longer mark. -/
theorem Lexes.punctuation {c : Char} (m : Mark) (hc : m.text.toList = [c])
    (hm : m ∉ [.dot, .not, .less, .greater, .matchSign]) (h : Lexes rest ts) :
    Lexes (c :: rest) (.mark m :: ts) := by
  have hends : m.EndsBefore rest := by cases m <;> simp_all [Mark.EndsBefore]
  have hmark := h.mark m (by rintro rfl; simp at hm) hends
  rwa [hc] at hmark

/-- An operator between blanks is one token, before any others. -/
theorem Lexes.operator (m : Mark) (hm : m ≠ .matchSign) (h : Lexes cs ts) (hts : ts ≠ []) :
    Lexes (' ' :: (m.text.toList ++ ' ' :: cs)) (.mark m :: ts) := by
  have hends : m.EndsBefore (' ' :: cs) := by cases m <;> simp [Mark.EndsBefore]
  exact ((h.blank hts).mark m hm hends).blank (List.cons_ne_nil _ _)

/-- An operation in parentheses consists of the tokens of its sides, of its operator and of the
parentheses. -/
theorem Lexes.grouped {left right : List Char} {leftTokens rightTokens : List Token} (m : Mark)
    (hm : m ≠ .matchSign) (hne : rightTokens ≠ [])
    (hleft : ∀ {rest ts}, EndsWord rest → Lexes rest ts → Lexes (left ++ rest) (leftTokens ++ ts))
    (hright : ∀ {rest ts}, EndsWord rest → Lexes rest ts →
      Lexes (right ++ rest) (rightTokens ++ ts))
    (h : Lexes rest ts) :
    Lexes (groupedChars left m.text right ++ rest)
      (groupedTokens leftTokens m rightTokens ++ ts) := by
  have hclose : Lexes (')' :: rest) (.mark .closeParen :: ts) :=
    h.punctuation .closeParen rfl (by decide)
  have hop := (hright (.cons (by decide)) hclose).operator m hm (by simp [hne])
  have hopen := (hleft (.cons (by decide)) hop).punctuation (c := '(') .openParen rfl (by decide)
  simpa [groupedChars, infixChars, groupedTokens] using hopen

/-- A literal is written as one token, or two where it has a sign. -/
theorem lexes_literal {v : Value} (hv : IsLiteral v) (hrest : EndsWord rest) (h : Lexes rest ts) :
    Lexes ((Json.compact v).toList ++ rest) (literalTokens v ++ ts) := by
  cases v with
  | null => exact h.word "null" (.of_toList rfl (by decide)) hrest
  | bool b =>
    cases b with
    | true => exact h.word "true" (.of_toList rfl (by decide)) hrest
    | false => exact h.word "false" (.of_toList rfl (by decide)) hrest
  | int n => exact lexes_intChars hv hrest h
  | float x => exact lexes_floatText x hrest h
  | string s =>
    simp only [Json.compact, Json.scalarText, String.toList_ofList]
    exact (firstToken_string s rest).lexes h
  | array => exact absurd hv id
  | object => exact absurd hv id

theorem lexes_bound {b : Option Int64} (hb : ∀ n ∈ b, n ≠ Int64.minValue) (hrest : EndsWord rest)
    (h : Lexes rest ts) :
    Lexes ((b.map Slice.intChars).getD [] ++ rest) (boundTokens b ++ ts) := by
  cases b with
  | none => exact h
  | some n => exact lexes_intChars (hb n rfl) hrest h

theorem lexes_slice {s : Slice} (hs : s.WellFormed) (hrest : EndsWord rest) (h : Lexes rest ts) :
    Lexes (s.chars ++ rest) (s.tokens ++ ts) := by
  obtain ⟨start, stop, step⟩ := s
  have hstep : Lexes ((step.map fun n => ':' :: Slice.intChars n).getD [] ++ rest)
      ((step.map fun n => .mark .colon :: intTokens n).getD [] ++ ts) ∧
      EndsWord ((step.map fun n => ':' :: Slice.intChars n).getD [] ++ rest) := by
    cases step with
    | none => exact ⟨h, hrest⟩
    | some n =>
      exact ⟨(lexes_intChars (hs.step n rfl).1 hrest h).punctuation .colon rfl (by decide),
        .cons (by decide)⟩
  have hstop := lexes_bound hs.stop hstep.2 hstep.1
  have hcolon := hstop.punctuation (c := ':') .colon rfl (by decide)
  have hstart := lexes_bound hs.start (.cons (by decide)) hcolon
  simpa [Slice.chars, Slice.tokens] using hstart

theorem eq_of_markHere?_equal {m : Mark} (h : markHere? ('=' :: cs) = some m) :
    m = .equal ∨ m = .matchSign := by
  unfold markHere? at h
  split at h
  all_goals first
    | exact .inl (Option.some.inj h).symm
    | exact .inr (Option.some.inj h).symm
    | contradiction
    | (rename_i heq
       exact absurd (List.cons.inj heq).1 (by decide))

/-- A text that starts with `=` starts with one of two operators, if with any token. -/
theorem Lexes.head_ne_equal (h : Lexes cs ts) (hequal : ts.head? ≠ some (.mark .equal))
    (hmatch : ts.head? ≠ some (.mark .matchSign)) : cs.head? ≠ some '=' := by
  intro hhead
  obtain ⟨cs, rfl⟩ := List.head?_eq_some_iff.1 hhead
  have hskip := Text.Cursor.skipWhile_of_head (p := Text.isBlank) (c := '=') (by decide) cs 0
  have h := h 0
  cases hmark : markHere? ('=' :: cs) with
  | none =>
    have hquote : ('=' == '"' || '=' == '\'') = false := by decide
    have hstart : Text.isIdentifierStart '=' = false := by decide
    have hdigit : '='.isDigit = false := by decide
    have hscan : nextToken ⟨'=' :: cs, 0⟩ =
        ⟨.error ⟨.unexpectedCharacter '=', 0⟩, ⟨'=' :: cs, 0⟩⟩ := by
      rw [nextToken, hskip]
      simp only [hmark, hquote, hstart, hdigit, Bool.false_eq_true, if_false]
    rw [tokensAt, Lexemes.read.eq_def] at h
    simp only [Bool.false_eq_true, if_false, hscan] at h
    exact absurd h (by simp [Lexemes.tokens?])
  | some m =>
    have hm := eq_of_markHere?_equal hmark
    have hscan : nextToken ⟨'=' :: cs, 0⟩ = .token ⟨'=' :: cs, 0⟩ (.mark m) m.text.length := by
      rw [nextToken, hskip]
      simp only [hmark]
    have hlength : 0 < m.text.length := by rcases hm with rfl | rfl <;> decide
    rw [tokensAt, read_of_scan ((if_neg Bool.false_ne_true).trans hscan)
      (by rw [Text.Cursor.length_advance, List.length_cons]; omega) (by simp), Lexemes.tokens?,
      Option.map_eq_some_iff] at h
    obtain ⟨others, -, rfl⟩ := h
    rcases hm with rfl | rfl
    · exact hequal rfl
    · exact hmatch rfl

/-- What stands between brackets keeps its tokens. -/
theorem Lexes.bracketed (inner : List Char) (innerTokens : List Token)
    (hinner : ∀ {rest ts}, EndsWord rest → Lexes rest ts →
      Lexes (inner ++ rest) (innerTokens ++ ts))
    (h : Lexes rest ts) :
    Lexes ('[' :: (inner ++ ']' :: rest))
      (.mark .openBracket :: (innerTokens ++ .mark .closeBracket :: ts)) :=
  (hinner (.cons (by decide)) (h.punctuation .closeBracket rfl (by decide))).punctuation
    .openBracket rfl (by decide)

theorem Lexes.parenthesized {inner : List Char} {innerTokens : List Token}
    (hinner : ∀ {rest ts}, EndsWord rest → Lexes rest ts →
      Lexes (inner ++ rest) (innerTokens ++ ts))
    (h : Lexes rest ts) :
    Lexes ('(' :: (inner ++ ')' :: rest))
      (.mark .openParen :: (innerTokens ++ .mark .closeParen :: ts)) :=
  (hinner (.cons (by decide)) (h.punctuation .closeParen rfl (by decide))).punctuation
    .openParen rfl (by decide)

/-- A call consists of the name of the function, and of its arguments in parentheses. -/
theorem Lexes.call {f : Function} {args : List Char} {argTokens : List Token} (hf : IsWord f.name)
    (hargs : ∀ {rest ts}, EndsWord rest → Lexes rest ts → Lexes (args ++ rest) (argTokens ++ ts))
    (h : Lexes rest ts) :
    Lexes (f.name.toList ++ '(' :: (args ++ ')' :: rest))
      (wordToken f.name :: .mark .openParen :: (argTokens ++ .mark .closeParen :: ts)) :=
  (Lexes.parenthesized hargs h).word f.name hf (.cons (by decide))

theorem argumentTokens_ne_nil {p : Predicate} {args : List Predicate}
    (h : ArgumentsWellFormed functions (p :: args)) : argumentTokens (p :: args) ≠ [] := by
  cases args with
  | nil => exact p.tokens_ne_nil h.1
  | cons q args => simp [argumentTokens]

/-- Flags are letters. -/
theorem isAlpha_of_regexFlags {f g : Regex.Flags} {flags : List Char}
    (h : regexFlags f flags = .ok g) : ∀ c ∈ flags, c.isAlpha := by
  induction f, flags using regexFlags.induct with
  | case1 => simp
  | case2 f rest ih | case3 f rest ih | case4 f rest ih =>
    exact List.forall_mem_cons.2 ⟨by decide, ih h⟩
  | case5 f other rest hi hm hs =>
    rw [regexFlags.eq_5 f other rest hi hm hs] at h
    contradiction

theorem RegexLiteral.WellFormed.isAlpha_of_mem_flags {r : RegexLiteral} (hr : r.WellFormed) :
    ∀ c ∈ r.flags.toList, c.isAlpha := by
  have h := hr.literal
  unfold regexLiteral at h
  split at h
  · contradiction
  · rename_i hflags
    exact isAlpha_of_regexFlags hflags

mutual

theorem lexes_selector : ∀ (s : Selector), s.WellFormed functions → ∀ {rest ts}, Lexes rest ts →
    Lexes (s.chars ++ rest) (s.tokens ++ ts)
  | .name name, _, rest, ts, h => by
    have hinner := Lexes.bracketed (quotedName name) [.string name]
      (fun _ h => (firstToken_name name _).lexes h) h
    simpa [Selector.chars, Selector.tokens] using hinner
  | .wildMember, _, rest, ts, h => by
    have hstar := h.punctuation .star rfl (by decide)
    exact hstar.mark .dot (by decide) (by simp [Mark.EndsBefore])
  | .wildElement, _, rest, ts, h => by
    have hinner := Lexes.bracketed ['*'] [.mark .star]
      (fun _ h => h.punctuation .star rfl (by decide)) h
    simpa [Selector.chars, Selector.tokens] using hinner
  | .index i, hs, rest, ts, h => by
    have hinner := Lexes.bracketed _ _ (fun hrest h => lexes_intChars hs hrest h) h
    simpa [Selector.chars, Selector.tokens] using hinner
  | .slice s, hs, rest, ts, h => by
    have hinner := Lexes.bracketed _ _ (fun hrest h => lexes_slice hs hrest h) h
    simpa [Selector.chars, Selector.tokens] using hinner
  | .descent, _, rest, ts, h => h.mark .dotDot (by decide) trivial
  | .union members, hs, rest, ts, h => by
    have hinner := Lexes.bracketed _ _ (fun hrest h => lexes_union members hs.2.2 hrest h) h
    simpa [Selector.chars, Selector.tokens] using hinner
  | .filter p, hs, rest, ts, h => by
    have hinner := Lexes.bracketed ('?' :: '(' :: (p.chars ++ [')']))
      (.mark .question :: .mark .openParen :: (p.tokens ++ [.mark .closeParen])) (fun _ h => by
        have hgroup := Lexes.parenthesized (fun hrest h => lexes_predicate p hs hrest h) h
        simpa using hgroup.punctuation (c := '?') .question rfl (by decide)) h
    simpa [Selector.chars, Selector.tokens] using hinner
  | .call f args, hs, rest, ts, h => by
    have hcall := Lexes.call hs.1.name (fun hrest h => lexes_arguments args hs.2.2 hrest h) h
    have hdot : Lexes ('.' :: (f.name.toList ++ '(' :: (argumentChars args ++ ')' :: rest))) _ :=
      hcall.mark .dot (by decide) (hs.1.name.head_ne_dot _)
    simpa [Selector.chars, Selector.tokens] using hdot
  | .computed p, hs, rest, ts, h => by
    have hinner := Lexes.bracketed ('(' :: (p.chars ++ [')']))
      (.mark .openParen :: (p.tokens ++ [.mark .closeParen]))
      (fun _ h => by
        simpa using Lexes.parenthesized (fun hrest h => lexes_predicate p hs hrest h) h) h
    simpa [Selector.chars, Selector.tokens] using hinner

theorem lexes_chain : ∀ (chain : List Selector), ChainWellFormed functions chain →
    ∀ {rest ts}, Lexes rest ts → Lexes (chainChars chain ++ rest) (chainTokens chain ++ ts)
  | [], _, rest, ts, h => by simpa [chainChars, chainTokens] using h
  | s :: chain, hs, rest, ts, h => by
    have hs := lexes_selector s hs.1 (lexes_chain chain hs.2 h)
    simpa [chainChars, chainTokens] using hs

theorem lexes_member : ∀ (chain : List Selector), ChainWellFormed functions chain →
    ∀ {rest ts}, EndsWord rest → Lexes rest ts →
      Lexes (memberChars chain ++ rest) (memberTokens chain ++ ts)
  | [.name s], _, rest, ts, _, h => by
    simpa [memberChars, memberTokens] using (firstToken_name s rest).lexes h
  | [.wildMember], _, rest, ts, _, h | [.wildElement], _, rest, ts, _, h =>
    h.punctuation .star rfl (by decide)
  | [.index i], hs, rest, ts, hrest, h => lexes_intChars hs.1 hrest h
  | [.slice s], hs, rest, ts, hrest, h => lexes_slice hs.1 hrest h
  | [.filter p], hs, rest, ts, hrest, h => by
    simpa [memberChars, memberTokens] using
      (Lexes.parenthesized (fun hrest h => lexes_predicate p hs.1 hrest h) h).punctuation (c := '?')
        .question rfl (by decide)
  | [.computed p], hs, rest, ts, hrest, h => by
    simpa [memberChars, memberTokens] using
      Lexes.parenthesized (fun hrest h => lexes_predicate p hs.1 hrest h) h
  | [], _, rest, ts, _, h => h.punctuation .atSign rfl (by decide)
  | [.descent], _, rest, ts, _, h =>
    (h.mark .dotDot (by decide) trivial).punctuation .atSign rfl (by decide)
  | [.union members], hs, rest, ts, _, h => by
    have hunion := (lexes_selector (.union members) hs.1 h).punctuation (c := '@') .atSign rfl
      (by decide)
    simpa [memberChars, memberTokens, chainChars, chainTokens] using hunion
  | [.call f args], hs, rest, ts, _, h => by
    have hcall := (lexes_selector (.call f args) hs.1 h).punctuation (c := '@') .atSign rfl
      (by decide)
    simpa [memberChars, memberTokens, chainChars, chainTokens] using hcall
  | s :: t :: chain, hs, rest, ts, _, h => by
    have hchain := lexes_selector s hs.1 (lexes_chain (t :: chain) hs.2 h)
    have hpath := hchain.punctuation (c := '@') .atSign rfl (by decide)
    cases s <;> simpa [memberChars, memberTokens] using hpath

theorem lexes_union : ∀ (members : List (List Selector)), UnionWellFormed functions members →
    ∀ {rest ts}, EndsWord rest → Lexes rest ts →
      Lexes (unionChars members ++ rest) (unionTokens members ++ ts)
  | [], _, rest, ts, _, h => by simpa [unionChars, unionTokens] using h
  | [chain], hs, rest, ts, hrest, h => lexes_member chain hs.1 hrest h
  | chain :: next :: members, hs, rest, ts, hrest, h => by
    have hnext := lexes_union (next :: members) hs.2 hrest h
    have hchain := lexes_member chain hs.1 (.cons (by decide))
      (hnext.punctuation (c := ',') .comma rfl (by decide))
    simpa [unionChars, unionTokens] using hchain

/-- The written form of a predicate, and whatever comes after it that cannot belong to a word at its
end, is its tokens and those of the rest. -/
theorem lexes_predicate : ∀ (p : Predicate), p.WellFormed functions → ∀ {rest ts}, EndsWord rest →
    Lexes rest ts → Lexes (p.chars ++ rest) (p.tokens ++ ts)
  | .literal v, hp, rest, ts, hrest, h => lexes_literal hp hrest h
  | .current, _, rest, ts, _, h => h.punctuation .atSign rfl (by decide)
  | .root, _, rest, ts, _, h => h.punctuation .dollar rfl (by decide)
  | .fromCurrent chain, hp, rest, ts, _, h =>
    (lexes_chain chain hp.2 h).punctuation .atSign rfl (by decide)
  | .fromRoot chain, hp, rest, ts, _, h =>
    (lexes_chain chain hp.2 h).punctuation .dollar rfl (by decide)
  | .comparison op l r, hp, rest, ts, hrest, h => by
    have hop := (lexes_predicate r hp.2 hrest h).operator op.mark op.mark_ne_matchSign
      (by simp [r.tokens_ne_nil hp.2])
    rw [op.text_mark] at hop
    simpa [Predicate.chars, Predicate.tokens, infixChars] using
      lexes_predicate l hp.1 (.cons (by decide)) hop
  | .operation op l r, hp, rest, ts, _, h => by
    rw [Predicate.chars, Predicate.tokens, ← op.text_mark]
    exact h.grouped op.mark op.mark_ne_matchSign (r.tokens_ne_nil hp.2)
      (fun hrest h => lexes_predicate l hp.1 hrest h)
      (fun hrest h => lexes_predicate r hp.2 hrest h)
  | .and l r, hp, rest, ts, _, h =>
    h.grouped .and (by decide) (r.tokens_ne_nil hp.2)
      (fun hrest h => lexes_predicate l hp.1 hrest h)
      (fun hrest h => lexes_predicate r hp.2 hrest h)
  | .or l r, hp, rest, ts, _, h =>
    h.grouped .or (by decide) (r.tokens_ne_nil hp.2)
      (fun hrest h => lexes_predicate l hp.1 hrest h)
      (fun hrest h => lexes_predicate r hp.2 hrest h)
  | .negate p, hp, rest, ts, hrest, h => (lexes_predicate p hp.2 hrest h).minus
  | .not p, hp, rest, ts, hrest, h => by
    have hinner := lexes_predicate p hp hrest h
    exact hinner.mark .not (by decide)
      (hinner.head_ne_equal (p.head_tokens_ne hp rfl _) (p.head_tokens_ne hp rfl _))
  | .search p r, hp, rest, ts, hrest, h => by
    have hregex := Lexes.search hp.2.source (hp.2.isAlpha_of_mem_flags) hrest h
    have hsearch := lexes_predicate p hp.1 (.cons (by decide)) (hregex.blank (List.cons_ne_nil _ _))
    simpa [Predicate.chars, Predicate.tokens, RegexLiteral.chars_eq] using hsearch
  | .call f args, hp, rest, ts, _, h => by
    have hcall := Lexes.call hp.1.name (fun hrest h => lexes_arguments args hp.2.2.2 hrest h) h
    simpa [Predicate.chars, Predicate.tokens] using hcall

theorem lexes_arguments : ∀ (args : List Predicate), ArgumentsWellFormed functions args →
    ∀ {rest ts}, EndsWord rest → Lexes rest ts →
      Lexes (argumentChars args ++ rest) (argumentTokens args ++ ts)
  | [], _, rest, ts, _, h => by simpa [argumentChars, argumentTokens] using h
  | [p], hs, rest, ts, hrest, h => lexes_predicate p hs.1 hrest h
  | p :: q :: args, hs, rest, ts, hrest, h => by
    have hnext := lexes_arguments (q :: args) hs.2 hrest h
    have hcomma := (hnext.blank (by simp [argumentTokens_ne_nil hs.2])).punctuation (c := ',')
      .comma rfl (by decide)
    simpa [argumentChars, argumentTokens] using lexes_predicate p hs.1 (.cons (by decide)) hcomma

end

/-- **The written form of a predicate** consists of its tokens. -/
theorem tokens?_lexemes_text {p : Predicate} (hp : p.WellFormed functions) :
    (lexemes p.text).tokens? = some p.tokens := by
  have h := lexes_predicate p hp .nil lexes_nil 0
  simpa [tokensAt, lexemes, Text.Cursor.start, Predicate.text] using h

end JsonPath.Query

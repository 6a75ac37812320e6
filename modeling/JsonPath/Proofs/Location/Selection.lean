import JsonPath.Evaluation.Expression
import JsonPath.Proofs.Location.Spelling
import JsonPath.Proofs.Query.Phrases

/-!
# Paths as expressions

What is read as a path is an expression too. It compiles to one selector for each step, and finds
the value at the path and nothing else, except that where an array has no member named `length` its
length is found. That is no place in the document, and there is nothing below it.

* `parsePath_of_pathTokens` — the segments of a path are read one by one.
* `selectChain_steps` — the selectors of steps follow the steps.
* `Expression.compile_path` — a path as an expression.
-/

namespace JsonPath

open Query Query.Parse Query.Level

variable {functions : Registry} {n : Nat} {sel : Selector} {chain : Chain} {ts us : List Token}

/-! ## Reading -/

theorem StepTokens.length_pos (h : StepTokens sel ts) : 0 < ts.length := by
  cases h <;> simp

theorem StepTokens.takes (h : StepTokens sel ts) (hus : front us ≠ .mark .openParen) :
    Takes (segment? functions (below functions (n + 1)) (ofRoom functions (n + 1)).predicate)
      (ts ++ us) us (some [sel]) := by
  cases h with
  | dotted name => exact takes_dotName hus
  | quoted name => exact takes_bracket_single _ (takes_item_name _ name _)
  | @index i hi =>
    have hindex : Takes (bracketItem (ofRoom functions n))
        (intTokens i ++ .mark .closeBracket :: us) (.mark .closeBracket :: us) [.index i] :=
      takes_item_index (by simp)
    rw [intTokens, if_neg (Int.not_lt.2 hi)] at hindex
    exact takes_bracket_single _ hindex

theorem PathTokens.front_ne (h : PathTokens chain ts) : front ts ≠ .mark .openParen := by
  cases h with
  | nil => simp
  | cons hs _ => cases hs <;> simp

theorem PathTokens.takesMany (h : PathTokens chain ts) :
    TakesMany (segment? functions (Level.below functions (n + 1))
      (ofRoom functions (n + 1)).predicate) ts [] (chain.map fun s => [s]) := by
  induction h with
  | nil => exact .nil (takes_segment?_none (by simp [strength]))
  | cons hs htail ih =>
    refine .cons (hs.takes htail.front_ne) ?_ ih
    have := hs.length_pos
    simp only [List.length_append]
    omega

/-- A dollar sign and segments are a path, up to the end of the text. -/
theorem parsePath_of_takesMany {text : String}
    (htext : (lexemes text).tokens? = some (.mark .dollar :: ts))
    (h : TakesMany (segment? functions (Level.below functions maxNesting)
      (ofRoom functions maxNesting).predicate) ts [] (chain.map fun s => [s])) :
    parsePath functions text = .ok chain :=
  readAll_of_takes htext ((takes_expect _ _ ts).bind ((takes_segments h).bind
    (takes_current.bind takes_pure)))

/-- If reading the segments fails, so does reading the path. -/
theorem parsePath_of_failsMany {text : String} {fault : ParseFault}
    (htext : (lexemes text).tokens? = some (.mark .dollar :: ts))
    (h : FailsMany (segment? functions (Level.below functions maxNesting)
      (ofRoom functions maxNesting).predicate) ts fault) :
    ∃ o, parsePath functions text = .error ⟨fault, o⟩ :=
  readAll_of_fails htext ((takes_expect _ _ ts).bind_fails ((fails_segments h).bind _))

theorem parsePath_of_pathTokens {text : String} (h : PathTokens chain ts)
    (htext : Spells (.mark .dollar :: ts) text.toList) : parsePath functions text = .ok chain :=
  parsePath_of_takesMany htext.tokens?_lexemes (h.takesMany (n := 63))

/-! ## Evaluation -/

namespace Query

variable {ctx : Context} {steps : List Step} {s : Step} {m : Node}

theorem isPlain_of_step? (h : sel.step? = some s) : s.IsPlain := by
  cases sel with
  | name name =>
    obtain rfl := Option.some.inj h
    trivial
  | index i =>
    rw [Selector.step?] at h
    split at h
    · obtain rfl := Option.some.inj h
      trivial
    · contradiction
  | _ => contradiction

/-- The selector of a step does not count nodes. -/
theorem stage_of_step? (h : sel.step? = some s) (ns : List Node) :
    stage ctx sel ns = collect (sel.select ctx) ns := by
  have hcount : sel.isCount = false := by
    cases sel <;> first | rfl | contradiction
  rw [stage, if_neg (by simp [hcount])]

theorem select_index {i : Int64} (h : (Selector.index i).step? = some s) (m : Node) :
    (Selector.index i).select ctx m = .ok ((s.get? m.value).map (m.part s)).toList := by
  rw [Selector.step?] at h
  split at h
  · rename_i hi
    obtain rfl := Option.some.inj h
    rw [Selector.select, Node.elementAt?, if_neg (Int.not_lt.2 hi), if_neg (Int.not_lt.2 hi)]
    rfl
  · contradiction

/-- A selector that is a step finds the part that the step leads to. -/
theorem select_of_get? (h : sel.step? = some s) {v : Value} (hv : s.get? m.value = some v) :
    sel.select ctx m = .ok [m.part s v] := by
  cases sel with
  | name name =>
    obtain rfl := Option.some.inj h
    have hmember : m.value.member? name = some v := hv
    rw [Selector.select, memberOrLength, Node.member?, hmember]
    rfl
  | index i =>
    rw [select_index h, hv]
    rfl
  | _ => contradiction

/-- Where a step leads nowhere nothing is found, but for the length of an array. -/
theorem select_of_get?_none (h : sel.step? = some s) (hnone : s.get? m.value = none) :
    sel.select ctx m = .ok [] ∨ ∃ items, s = .name "length" ∧ m.value = .array items ∧
      sel.select ctx m = .ok [Node.synthetic (.ofNat items.length)] := by
  cases sel with
  | name name =>
    obtain rfl := Option.some.inj h
    have hmember : m.value.member? name = none := hnone
    rw [Selector.select, memberOrLength, Node.member?, hmember]
    dsimp only [Option.map_none]
    split_ifs with hlength
    · rw [beq_iff_eq.1 hlength]
      cases hvalue : m.value with
      | array items => exact .inr ⟨items, rfl, rfl, rfl⟩
      | _ => exact .inl rfl
    · exact .inl rfl
  | index i =>
    rw [select_index h, hnone]
    exact .inl rfl
  | _ => contradiction

theorem selectChain_nil_of_steps (h : chain.map Selector.step? = steps.map some) :
    selectChain ctx chain [] = .ok [] := by
  induction chain generalizing steps with
  | nil => rfl
  | cons sel chain ih =>
    cases steps with
    | nil => contradiction
    | cons s steps =>
      obtain ⟨hsel, hchain⟩ := List.cons.inj h
      rw [selectChain_cons, stage_of_step? hsel]
      exact ih hchain

/-- There is nothing below the length of an array. -/
theorem selectChain_length (h : chain.map Selector.step? = steps.map some) (hne : steps ≠ [])
    (k : Nat) : selectChain ctx chain [Node.synthetic (.ofNat k)] = .ok [] := by
  cases chain with
  | nil => exact absurd (List.map_eq_nil_iff.1 h.symm) hne
  | cons sel chain =>
    cases steps with
    | nil => contradiction
    | cons s steps =>
      obtain ⟨hsel, hchain⟩ := List.cons.inj h
      have hscalar : ∀ items, Value.ofNat k ≠ .array items := by
        intro items
        unfold Value.ofNat
        split <;> simp
      have hnone : s.get? (Value.ofNat k) = none := by
        have hplain := isPlain_of_step? hsel
        unfold Value.ofNat
        split <;> cases s <;> first | rfl | contradiction
      rw [selectChain_cons, stage_of_step? hsel, collect_singleton]
      rcases select_of_get?_none (m := Node.synthetic (.ofNat k)) hsel hnone with
        hselect | ⟨items, -, hitems, -⟩
      · rw [hselect]
        exact selectChain_nil_of_steps hchain
      · exact absurd hitems (hscalar items)

/-- **Following steps.** The selectors of some steps find what the steps lead to. If they lead
nowhere, nothing is found, unless the last of them asks an array for its length. -/
theorem selectChain_steps (ctx : Context) (h : chain.map Selector.step? = steps.map some)
    (m : Node) :
    (∀ v, Path.follow steps m.value = some v →
      selectChain ctx chain [m] = .ok [⟨v, m.path.map fun q => ⟨q.steps ++ steps⟩⟩]) ∧
    (Path.follow steps m.value = none → selectChain ctx chain [m] = .ok [] ∨
      ∃ init items, steps = init ++ [.name "length"] ∧
        Path.follow init m.value = some (.array items) ∧
        selectChain ctx chain [m] = .ok [Node.synthetic (.ofNat items.length)]) := by
  induction chain generalizing steps m with
  | nil =>
    obtain rfl : steps = [] := by simpa using h.symm
    refine ⟨fun v hv => ?_, fun hnone => ?_⟩
    · obtain rfl := Option.some.inj hv
      simp [selectChain]
    · contradiction
  | cons sel chain ih =>
    cases steps with
    | nil => contradiction
    | cons s steps =>
      obtain ⟨hsel, hchain⟩ := List.cons.inj h
      rw [selectChain_cons, stage_of_step? hsel, collect_singleton, Path.follow]
      cases hget : s.get? m.value with
      | some w =>
        obtain ⟨hfound, hmissing⟩ := ih hchain (m.part s w)
        rw [select_of_get? hsel hget]
        refine ⟨fun v hv => ?_, fun hnone => ?_⟩
        · refine (hfound v hv).trans ?_
          cases m with
          | mk value path => cases path <;> simp [Node.part, Path.child]
        · rcases hmissing hnone with hempty | ⟨init, items, rfl, hitems, hlength⟩
          · exact .inl hempty
          · refine .inr ⟨s :: init, items, rfl, ?_, hlength⟩
            rw [Path.follow, hget]
            exact hitems
      | none =>
        refine ⟨fun v hv => by contradiction, fun _ => ?_⟩
        rcases select_of_get?_none hsel hget with hselect | ⟨items, rfl, hitems, hselect⟩
        · rw [hselect]
          exact .inl (selectChain_nil_of_steps hchain)
        · rw [hselect]
          by_cases hlast : steps = []
          · subst hlast
            obtain rfl : chain = [] := by simpa using hchain
            exact .inr ⟨[], items, rfl, congrArg some hitems, rfl⟩
          · exact .inl (selectChain_length hchain hlast _)

end Query

namespace Expression

/-- **Paths as expressions.** A text that is read as a path whose positions a 64-bit integer can
hold compiles, to the steps of the path. Evaluated on any document it finds the value at the path,
with this path and nothing else. If there is no value it finds nothing, unless the path ends with
the name `length` after that of an array: it finds the length then, which has no place in the
document. -/
theorem compile_path (functions : Registry) {text : String} {p : Path}
    (h : Path.parse text = .ok p)
    (hfits : ∀ i, Step.index i ∈ p.steps → i ≤ Int64.maxValue.toInt) :
    ∃ e, compile functions text = .ok e ∧ e.selectors.map Selector.step? = p.steps.map some ∧
      ∀ (maxDepth : Nat) (document : Value),
        (∀ v, p.get? document = some v → e.evaluateTo maxDepth document = .ok [⟨v, some p⟩]) ∧
        (p.get? document = none → e.evaluateTo maxDepth document = .ok [] ∨
          ∃ (q : Path) (items : List Value), p = q.childName "length" ∧
            q.get? document = some (.array items) ∧
            e.evaluateTo maxDepth document = .ok [Node.synthetic (.ofNat items.length)]) := by
  obtain ⟨cs, htext, hspelled⟩ := Path.spelled_of_parse h
  have hsteps : ∀ s ∈ p.steps, s.InRange := by
    intro s hs
    cases s with
    | index i => exact hfits i hs
    | _ => trivial
  obtain ⟨chain, ts, hchain, htokens, hspells⟩ := hspelled.exists_tokens hsteps
  have hdollar : Spells (.mark .dollar :: ts) text.toList := by
    rw [htext]
    exact .cons (List.forall_mem_nil _) (.mark (m := .dollar) (by simp) trivial) hspells
  refine ⟨⟨text, chain⟩, ?_, hchain, fun maxDepth document => ?_⟩
  · exact compile_eq_ok.2 ⟨rfl, parsePath_of_pathTokens htokens hdollar⟩
  · obtain ⟨hfound, hmissing⟩ := selectChain_steps ⟨document, maxDepth⟩ hchain
      (Node.root document)
    refine ⟨hfound, fun hnone => (hmissing hnone).imp_right ?_⟩
    rintro ⟨init, items, hlast, hitems, hlength⟩
    exact ⟨⟨init⟩, items, congrArg Path.mk hlast, hitems, hlength⟩

set_option maxRecDepth 10000 in
/-- A name that is a word for a literal after a dot, and a position with a zero in front. -/
theorem compile_path_spelled :
    ∃ p e, Path.parse "$.null[01]" = .ok p ∧
      (∀ i, Step.index i ∈ p.steps → i ≤ Int64.maxValue.toInt) ∧
      compile .empty "$.null[01]" = .ok e ∧
      e.evaluateTo 8 (.object [("null", .array [.int 0, .bool true])]) =
        .ok [⟨.bool true, some p⟩] := by
  have hparse : Path.parse "$.null[01]" = .ok ⟨[.name "null", .index 1]⟩ := rfl
  have hfits : ∀ i, Step.index i ∈ [Step.name "null", .index 1] → i ≤ Int64.maxValue.toInt := by
    intro i hi
    obtain rfl : i = 1 := by simpa using hi
    decide
  obtain ⟨e, he, -, hevaluate⟩ := compile_path .empty hparse hfits
  exact ⟨_, e, hparse, hfits, he, (hevaluate 8 _).1 (.bool true) rfl⟩

end Expression

end JsonPath

import JsonPath.Evaluation.Expression
import JsonPath.Proofs.Query.RoundTrip

/-!
# Written chains read back

A chain of names, positions, slices, stars, descents and unions of such chains has no predicates in
it, so nothing but the brackets of its written form nests. After a dollar sign that form is a path,
and what it compiles to is the chain, but for both stars being written alike in a union.

* `ChainIsPlain` — whether there are no predicates and no functions in a chain.
* `bracketDepth` — how deep brackets nest among tokens, which for a written chain are its levels.
* `Expression.compile_chainText` — the chain of an expression is compiled again from its own text.
-/

namespace JsonPath

namespace Query

open Parse Level

/-! ## Chains without predicates -/

mutual

/-- Whether there are no predicates and no functions in a selector. -/
def Selector.IsPlain : Selector → Prop
  | .union members => UnionIsPlain members
  | .filter _ | .call _ _ | .computed _ => False
  | .name _ | .wildMember | .wildElement | .index _ | .slice _ | .descent => True

def ChainIsPlain : List Selector → Prop
  | [] => True
  | s :: rest => s.IsPlain ∧ ChainIsPlain rest

def UnionIsPlain : List (List Selector) → Prop
  | [] => True
  | chain :: rest => ChainIsPlain chain ∧ UnionIsPlain rest

end

mutual

theorem Selector.IsPlain.unambiguous : ∀ {s : Selector}, s.IsPlain → s.Unambiguous
  | .union _, h => UnionIsPlain.unambiguous h
  | .name _, _ | .wildMember, _ | .wildElement, _ | .index _, _ | .slice _, _ | .descent, _ =>
    trivial

theorem ChainIsPlain.unambiguous : ∀ {chain : List Selector}, ChainIsPlain chain →
    ChainUnambiguous chain
  | [], _ => trivial
  | _ :: _, h => ⟨Selector.IsPlain.unambiguous h.1, ChainIsPlain.unambiguous h.2⟩

theorem UnionIsPlain.unambiguous : ∀ {members : List (List Selector)}, UnionIsPlain members →
    UnionUnambiguous members
  | [], _ => trivial
  | _ :: _, h => ⟨ChainIsPlain.unambiguous h.1, UnionIsPlain.unambiguous h.2⟩

end

/-! ### Stars -/

mutual

/-- Whether no member of a union in a selector is the star of members by itself. -/
def Selector.IsStarless : Selector → Prop
  | .union members => UnionIsStarless members
  | _ => True

def ChainIsStarless : List Selector → Prop
  | [] => True
  | s :: rest => s.IsStarless ∧ ChainIsStarless rest

def UnionIsStarless : List (List Selector) → Prop
  | [] => True
  | chain :: rest => (chain ≠ [.wildMember] ∧ ChainIsStarless chain) ∧ UnionIsStarless rest

end

theorem rereadMember_eq {chain : Chain} (h : chain ≠ [.wildMember]) :
    rereadMember chain = rereadChain chain := by
  unfold rereadMember
  split
  · contradiction
  · rfl
  · rfl

mutual

theorem reread_eq_self_iff : ∀ s : Selector, s.IsPlain → (s.reread = s ↔ s.IsStarless)
  | .union members, h => by
    rw [Selector.reread, Selector.union.injEq, Selector.IsStarless]
    exact rereadUnion_eq_self_iff members h
  | .name _, _ | .wildMember, _ | .wildElement, _ | .index _, _ | .slice _, _ | .descent, _ =>
    iff_of_true rfl trivial

theorem rereadChain_eq_self_iff : ∀ chain : List Selector, ChainIsPlain chain →
    (rereadChain chain = chain ↔ ChainIsStarless chain)
  | [], _ => iff_of_true rfl trivial
  | s :: chain, h => by
    rw [rereadChain, List.cons.injEq, ChainIsStarless, reread_eq_self_iff s h.1,
      rereadChain_eq_self_iff chain h.2]

theorem rereadUnion_eq_self_iff : ∀ members : List (List Selector), UnionIsPlain members →
    (rereadUnion members = members ↔ UnionIsStarless members)
  | [], _ => iff_of_true rfl trivial
  | chain :: members, h => by
    rw [rereadUnion, List.cons.injEq, UnionIsStarless, rereadUnion_eq_self_iff members h.2]
    refine and_congr_left fun _ => ?_
    by_cases hstar : chain = [.wildMember]
    · subst hstar
      simp [rereadMember]
    · rw [rereadMember_eq hstar, rereadChain_eq_self_iff chain h.1]
      simp [hstar]

end

/-! ## Brackets -/

/-- The greatest depth of brackets among some tokens, of which some are open already. -/
def bracketDepth : (depth : Nat) → List Token → Nat
  | depth, [] => depth
  | depth, .mark .openBracket :: ts => bracketDepth (depth + 1) ts
  | depth, .mark .closeBracket :: ts => max depth (bracketDepth (depth - 1) ts)
  | depth, _ :: ts => bracketDepth depth ts

/-- Whether a token opens or closes a bracket. -/
def Token.isBracket : Token → Bool
  | .mark .openBracket | .mark .closeBracket => true
  | _ => false

variable {d : Nat} {ts us : List Token} {t : Token}

theorem bracketDepth_cons (h : t.isBracket = false) :
    bracketDepth d (t :: ts) = bracketDepth d ts := by
  cases t with
  | mark m => cases m <;> first | rfl | contradiction
  | _ => rfl

theorem le_bracketDepth (d : Nat) (ts : List Token) : d ≤ bracketDepth d ts := by
  fun_induction bracketDepth d ts <;> omega

theorem bracketDepth_append (h : ts.any Token.isBracket = false) :
    bracketDepth d (ts ++ us) = bracketDepth d us := by
  induction ts with
  | nil => rfl
  | cons t ts ih =>
    rw [List.any_cons, Bool.or_eq_false_iff] at h
    rw [List.cons_append, bracketDepth_cons h.1, ih h.2]

theorem isBracket_intTokens (i : Int64) : (intTokens i).any Token.isBracket = false := by
  unfold intTokens
  split <;> rfl

theorem isBracket_sliceTokens (s : Slice) : s.tokens.any Token.isBracket = false := by
  have hbound (b : Option Int64) : (boundTokens b).any Token.isBracket = false := by
    cases b with
    | none => rfl
    | some i => exact isBracket_intTokens i
  obtain ⟨start, stop, step⟩ := s
  cases step <;> simp [Slice.tokens, hbound, isBracket_intTokens, Token.isBracket]

/-- Brackets around some tokens are one deeper than the tokens. -/
theorem bracketDepth_bracketed {levels : Nat}
    (h : ∀ us, bracketDepth (d + 1) (ts ++ us) = max (d + 1 + levels) (bracketDepth (d + 1) us))
    (us : List Token) :
    bracketDepth d (.mark .openBracket :: (ts ++ [.mark .closeBracket]) ++ us) =
      max (d + (levels + 1)) (bracketDepth d us) := by
  have hclose : bracketDepth (d + 1) (.mark .closeBracket :: us) =
      max (d + 1) (bracketDepth d us) := rfl
  rw [List.cons_append, List.append_assoc, bracketDepth, List.singleton_append, h, hclose]
  omega

/-- Brackets around tokens that are no brackets are one deep. -/
theorem bracketDepth_item (ts : List Token) (h : ts.any Token.isBracket = false)
    (us : List Token) : bracketDepth d (.mark .openBracket :: (ts ++ [.mark .closeBracket]) ++ us) =
      max (d + 1) (bracketDepth d us) := by
  have hinner (us : List Token) :
      bracketDepth (d + 1) (ts ++ us) = max (d + 1 + 0) (bracketDepth (d + 1) us) := by
    rw [bracketDepth_append h, Nat.add_zero, max_eq_right (le_bracketDepth _ _)]
  exact bracketDepth_bracketed hinner us

mutual

theorem bracketDepth_selector : ∀ s : Selector, s.IsPlain → ∀ (d : Nat) (us : List Token),
    bracketDepth d (s.tokens ++ us) = max (d + s.levels) (bracketDepth d us)
  | .name _, _, _, us => bracketDepth_item [.string _] rfl us
  | .wildElement, _, _, us => bracketDepth_item [.mark .star] rfl us
  | .index i, _, _, us => bracketDepth_item _ (isBracket_intTokens i) us
  | .slice s, _, _, us => bracketDepth_item _ (isBracket_sliceTokens s) us
  | .wildMember, _, d, us | .descent, _, d, us => (max_eq_right (le_bracketDepth d us)).symm
  | .union members, h, d, us => bracketDepth_bracketed (bracketDepth_union members h (d + 1)) us

theorem bracketDepth_chain : ∀ chain : List Selector, ChainIsPlain chain →
    ∀ (d : Nat) (us : List Token),
      bracketDepth d (chainTokens chain ++ us) = max (d + chainLevels chain) (bracketDepth d us)
  | [], _, d, us => (max_eq_right (le_bracketDepth d us)).symm
  | s :: chain, h, d, us => by
    rw [chainTokens, List.append_assoc, bracketDepth_selector s h.1,
      bracketDepth_chain chain h.2, chainLevels]
    omega

theorem bracketDepth_member : ∀ chain : List Selector, ChainIsPlain chain →
    ∀ (d : Nat) (us : List Token),
      bracketDepth d (memberTokens chain ++ us) = max (d + memberLevels chain) (bracketDepth d us)
  | [.name _], _, d, us | [.wildMember], _, d, us | [.wildElement], _, d, us =>
    (max_eq_right (le_bracketDepth d us)).symm
  | [.index i], _, d, us =>
    (bracketDepth_append (isBracket_intTokens i)).trans (max_eq_right (le_bracketDepth d us)).symm
  | [.slice s], _, d, us =>
    (bracketDepth_append (isBracket_sliceTokens s)).trans (max_eq_right (le_bracketDepth d us)).symm
  | [], _, d, us => (max_eq_right (le_bracketDepth d us)).symm
  | [.descent], _, d, us => (max_eq_right (le_bracketDepth d us)).symm
  | [.union members], h, d, us => by
    have hunion := bracketDepth_selector (.union members) h.1 d us
    simpa [memberTokens, memberLevels, chainTokens, chainLevels, bracketDepth] using hunion
  | s :: t :: chain, h, d, us => by
    have hfirst := bracketDepth_selector s h.1 d (chainTokens (t :: chain) ++ us)
    have hchain := bracketDepth_chain (t :: chain) h.2 d us
    have htokens : bracketDepth d (memberTokens (s :: t :: chain) ++ us) =
        bracketDepth d (s.tokens ++ (chainTokens (t :: chain) ++ us)) := by
      rw [← List.append_assoc]
      cases s <;> rfl
    have hlevels : memberLevels (s :: t :: chain) = max s.levels (chainLevels (t :: chain)) := by
      cases s <;> rfl
    rw [htokens, hfirst, hchain, hlevels]
    omega

theorem bracketDepth_union : ∀ members : List (List Selector), UnionIsPlain members →
    ∀ (d : Nat) (us : List Token),
      bracketDepth d (unionTokens members ++ us) = max (d + unionLevels members) (bracketDepth d us)
  | [], _, d, us => (max_eq_right (le_bracketDepth d us)).symm
  | [chain], h, d, us => by
    rw [unionTokens, bracketDepth_member chain h.1, unionLevels, unionLevels, Nat.max_zero]
  | chain :: next :: members, h, d, us => by
    have hmore := bracketDepth_union (next :: members) h.2 d us
    have htokens : unionTokens (chain :: next :: members) =
        memberTokens chain ++ .mark .comma :: unionTokens (next :: members) := rfl
    have hlevels : unionLevels (chain :: next :: members) =
        max (memberLevels chain) (unionLevels (next :: members)) := rfl
    rw [htokens, List.append_assoc, bracketDepth_member chain h.1, List.cons_append,
      bracketDepth_cons rfl, hmore, hlevels]
    omega

end

/-- In the written form of a chain without predicates the levels are those of brackets. -/
theorem bracketDepth_chainTokens {chain : Chain} (h : ChainIsPlain chain) :
    bracketDepth 0 (chainTokens chain) = chainLevels chain := by
  have hdepth := bracketDepth_chain chain h 0 []
  rwa [List.append_nil, bracketDepth, Nat.zero_add, Nat.max_zero] at hdepth

/-! ## Reading back -/

variable {functions : Registry} {chain : Chain}

theorem tokens?_lexemes_chainText (h : ChainWellFormed functions chain) :
    (lexemes ("$" ++ chainText chain)).tokens? = some (.mark .dollar :: chainTokens chain) := by
  have hchars : ("$" ++ chainText chain).toList = '$' :: chainChars chain := by simp [chainText]
  have hlexes : Lexes (chainChars chain) (chainTokens chain) := by
    simpa using lexes_chain chain h lexes_nil
  have hdollar : Lexes ('$' :: chainChars chain) (.mark .dollar :: chainTokens chain) :=
    hlexes.mark .dollar (by simp) trivial
  rw [← hchars] at hdollar
  exact hdollar 0

/-- A chain that reading can give is read back from its written form, if the brackets are not too
many. -/
theorem parsePath_chainText (h : ChainWellFormed functions chain) (hplain : ChainIsPlain chain)
    (hdepth : bracketDepth 0 (chainTokens chain) ≤ maxNesting) :
    parsePath functions ("$" ++ chainText chain) = .ok (rereadChain chain) := by
  refine readAll_of_takes (tokens?_lexemes_chainText h) ?_
  rw [bracketDepth_chainTokens hplain] at hdepth
  have hmany : TakesMany _ (chainTokens chain ++ []) [] _ :=
    takes_chain_tokens chain h hplain.unambiguous hdepth (by simp [strength]) (by simp)
  rw [List.append_nil] at hmany
  exact (takes_expect _ _ _).bind ((takes_segments hmany).bind (takes_current.bind takes_pure))

end Query

namespace Expression

open Query

variable {functions : Registry} {text : String} {e : Expression}

/-- **Paths survive being written and read.** Take an expression that any text compiles to, without
predicates and functions, and suppose that its written form nests no more brackets than can be read.
Then `$` and that form compile again, and to the same chain, except that a lone `.*` in a union
comes back as `*`. -/
theorem compile_chainText (hr : functions.WellFormed) (h : compile functions text = .ok e)
    (hplain : ChainIsPlain e.selectors)
    (hdepth : bracketDepth 0 (chainTokens e.selectors) ≤ maxNesting) :
    compile functions ("$" ++ chainText e.selectors) =
        .ok ⟨"$" ++ chainText e.selectors, rereadChain e.selectors⟩ ∧
      (rereadChain e.selectors = e.selectors ↔ ChainIsStarless e.selectors) := by
  have hchain := wellFormed_of_parsePath hr (compile_eq_ok.1 h).2
  refine ⟨?_, rereadChain_eq_self_iff _ hplain⟩
  exact compile_eq_ok.2 ⟨rfl, parsePath_chainText hchain hplain hdepth⟩

/-- Nested unions, members that are empty or have several steps, a star after a descent, a slice
with negative bounds, and a name that needs an escape. -/
theorem compile_chainText_nested :
    ∃ e, compile .empty "$..*['it\\'s', @, @[@.*, @..b[-1]], -3:-1:2]...true" = .ok e ∧
      ChainIsPlain e.selectors ∧ bracketDepth 0 (chainTokens e.selectors) ≤ maxNesting ∧
      compile .empty ("$" ++ chainText e.selectors) =
        .ok ⟨"$" ++ chainText e.selectors, rereadChain e.selectors⟩ := by
  obtain ⟨chain, hparse, hplain, hdepth⟩ : ∃ chain,
      parsePath .empty "$..*['it\\'s', @, @[@.*, @..b[-1]], -3:-1:2]...true" = .ok chain ∧
        ChainIsPlain chain ∧ bracketDepth 0 (chainTokens chain) ≤ maxNesting := by
    refine ⟨[.descent, .wildMember,
      .union [[.name "it's"], [], [.union [[.wildMember], [.descent, .name "b", .index (-1)]]],
        [.slice ⟨some (-3), some (-1), some 2⟩]],
      .descent, .name "true"], (readAll_of_lexemes (by cbv) rfl).trans rfl, ?_, by decide⟩
    simp [ChainIsPlain, UnionIsPlain, Selector.IsPlain]
  have h : compile .empty "$..*['it\\'s', @, @[@.*, @..b[-1]], -3:-1:2]...true" = .ok ⟨_, chain⟩ :=
    compile_eq_ok.2 ⟨rfl, hparse⟩
  exact ⟨_, h, hplain, hdepth, (compile_chainText Registry.wellFormed_empty h hplain hdepth).1⟩

end Expression

end JsonPath

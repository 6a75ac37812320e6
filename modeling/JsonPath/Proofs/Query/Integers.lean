import JsonPath.Proofs.Query.Chains

/-!
# Integers in expressions

Digits are read as an integer that is not negative, and a sign is applied to it afterwards. In this
way every 64-bit integer can be written as a literal, as an index and as a bound of a slice, but for
the least one: the opposite of it is not a 64-bit integer, so that its digits are none.

* `Selector.IsReadable`, `Predicate.IsReadable` — integers that reading can give.
* `parse_integers_iff` — integers that can be written.
-/

namespace JsonPath

namespace Query

variable {functions : Registry} {n : Int64}

/-! ## What reading gives -/

/-- Whether the integers that a selector has itself can be read. -/
def Selector.IsReadable : Selector → Prop
  | .index i => i ≠ Int64.minValue
  | .slice s => s.WellFormed
  | _ => True

/-- Whether the integer that a predicate is, if it is one, can be read. -/
def Predicate.IsReadable : Predicate → Prop
  | .literal v => IsLiteral v
  | _ => True

theorem isReadable_negated {p : Predicate} (hp : p.IsReadable) : (negated p).IsReadable := by
  unfold negated
  split
  · exact neg_ne_minValue hp
  · trivial
  · trivial

/-- Readers do not look into a predicate for its integers, except to apply a sign. -/
theorem closed_isReadable (functions : Registry) :
    Closed functions Selector.IsReadable Predicate.IsReadable where
  name _ := trivial
  wildMember := trivial
  wildElement := trivial
  index h := h
  slice h := h
  descent := trivial
  union _ _ _ := trivial
  filter _ := trivial
  computed _ := trivial
  selectorCall _ _ _ _ := trivial
  literal h := h
  current := trivial
  root := trivial
  fromCurrent _ _ := trivial
  fromRoot _ _ := trivial
  comparison _ _ _ _ _ := trivial
  operation _ _ _ _ _ := trivial
  and _ _ := trivial
  or _ _ := trivial
  not _ := trivial
  negated := isReadable_negated
  search _ _ := trivial
  call _ _ _ _ _ := trivial

/-! ## What can be written -/

/-- The text of a bound that may be left out. -/
def boundText (b : Option Int64) : String := (b.map fun n => toString n.toInt).getD ""

theorem text_integer (n : Int64) : (Predicate.literal (.int n)).text = toString n.toInt := by
  simp [Predicate.text, Predicate.chars, Json.compact, Json.scalarText]

theorem chainText_index (n : Int64) :
    "$" ++ chainText [.index n] = "$[" ++ toString n.toInt ++ "]" := by
  simp [← String.toList_inj, chainText, chainChars, Selector.chars, Slice.intChars]

theorem chainText_slice (start stop : Option Int64) :
    "$" ++ chainText [.slice ⟨start, stop, none⟩] =
      "$[" ++ boundText start ++ ":" ++ boundText stop ++ "]" := by
  cases start <;> cases stop <;>
    simp [← String.toList_inj, chainText, chainChars, Selector.chars, Slice.chars, Slice.intChars,
      boundText]

/-- A literal is read back from its text if it is not the least integer. -/
theorem parsePredicate_integer_iff :
    parsePredicate functions (toString n.toInt) = .ok (.literal (.int n)) ↔
      n ≠ Int64.minValue := by
  constructor
  · exact fun h => (closed_isReadable functions).of_parsePredicate h
  · intro hn
    have hlevels : (Predicate.literal (.int n)).levels < maxNesting := by
      show (if n.toInt < 0 then 1 else 0) < 64
      split <;> decide
    have h : parsePredicate functions (Predicate.literal (.int n)).text =
        .ok (.literal (.int n)) := parsePredicate_text_of_wellFormed hn trivial hlevels
    rwa [text_integer] at h

/-- A path of one item is read back from its text if the integers of the item can be read. -/
theorem parsePath_item_iff {s : Selector} (hlevels : s.levels ≤ 1) (hplain : s.IsPlain)
    (hreread : s.reread = s) (hwellFormed : s.IsReadable → s.WellFormed functions) :
    parsePath functions ("$" ++ chainText [s]) = .ok [s] ↔ s.IsReadable := by
  constructor
  · exact fun h => (closed_isReadable functions).of_parsePath h s List.mem_cons_self
  · intro hs
    have hchain : ChainIsPlain [s] := ⟨hplain, trivial⟩
    have hdepth : bracketDepth 0 (chainTokens [s]) ≤ maxNesting := by
      rw [bracketDepth_chainTokens hchain]
      show max s.levels 0 ≤ 64
      omega
    have h : parsePath functions ("$" ++ chainText [s]) = .ok (rereadChain [s]) :=
      parsePath_chainText ⟨hwellFormed hs, trivial⟩ hchain hdepth
    rwa [rereadChain, rereadChain, hreread] at h

theorem wellFormed_slice_iff {start stop : Option Int64} :
    Slice.WellFormed ⟨start, stop, none⟩ ↔
      (∀ n ∈ start, n ≠ Int64.minValue) ∧ ∀ n ∈ stop, n ≠ Int64.minValue :=
  ⟨fun h => ⟨h.start, h.stop⟩, fun h => ⟨h.1, h.2, by simp⟩⟩

end Query

open Query in
/-- **Integers in expressions.** The text of an integer is read as that integer, as a literal, as an
index and as the start and the end of a slice, if and only if it is not the least one. -/
theorem parse_integers_iff (functions : Registry) :
    (∀ n : Int64, parsePredicate functions (toString n.toInt) = .ok (.literal (.int n)) ↔
      n ≠ Int64.minValue) ∧
    (∀ n : Int64, Expression.compile functions ("$[" ++ toString n.toInt ++ "]") =
        .ok ⟨"$[" ++ toString n.toInt ++ "]", [.index n]⟩ ↔ n ≠ Int64.minValue) ∧
    ∀ start stop : Option Int64,
      Expression.compile functions ("$[" ++ boundText start ++ ":" ++ boundText stop ++ "]") =
        .ok ⟨"$[" ++ boundText start ++ ":" ++ boundText stop ++ "]",
          [.slice ⟨start, stop, none⟩]⟩ ↔
      (∀ n ∈ start, n ≠ Int64.minValue) ∧ ∀ n ∈ stop, n ≠ Int64.minValue := by
  have hcompile {text : String} {chain : Chain} :
      Expression.compile functions text = .ok ⟨text, chain⟩ ↔
        parsePath functions text = .ok chain :=
    Expression.compile_eq_ok.trans (and_iff_right rfl)
  refine ⟨fun n => parsePredicate_integer_iff, fun n => ?_, fun start stop => ?_⟩
  · rw [hcompile, ← chainText_index]
    exact parsePath_item_iff (s := .index n) le_rfl trivial rfl id
  · rw [hcompile, ← chainText_slice]
    exact (parsePath_item_iff (s := .slice ⟨start, stop, none⟩) le_rfl trivial rfl id).trans
      wellFormed_slice_iff

/-- **The least integer.** Its digits alone are more than the greatest integer, so that it cannot be
written, neither as a literal nor in brackets. -/
theorem parse_minValue_fails :
    toString Int64.minValue.toInt = "-9223372036854775808" ∧
    Query.parsePredicate .empty "-9223372036854775808" =
      .error ⟨.invalidNumber "9223372036854775808", 1⟩ ∧
    Expression.compile .empty "$[-9223372036854775808]" =
      .error ⟨.invalidNumber "9223372036854775808", 3⟩ ∧
    Expression.compile .empty "$[-9223372036854775808:]" =
      .error ⟨.invalidNumber "9223372036854775808", 3⟩ ∧
    Expression.compile .empty "$[:-9223372036854775808]" =
      .error ⟨.invalidNumber "9223372036854775808", 4⟩ := by
  have hpath {text : String} {e : ParseError} (h : Query.parsePath .empty text = .error e) :
      Expression.compile .empty text = .error e := by
    rw [Expression.compile, h]
    rfl
  exact ⟨by decide, (Query.parsePredicate_of_lexemes (by cbv) rfl).trans rfl,
    hpath ((Query.readAll_of_lexemes (by cbv) rfl).trans rfl),
    hpath ((Query.readAll_of_lexemes (by cbv) rfl).trans rfl),
    hpath ((Query.readAll_of_lexemes (by cbv) rfl).trans rfl)⟩

end JsonPath

import JsonPath.Proofs.Evaluation.Soundness
import JsonPath.Proofs.Function.Outcome

/-!
# Why evaluation fails

A function may refuse an argument deep inside nested predicates, but that never ends the evaluation:
it leaves out the node at hand. With built-in functions only a descent can fail. It fails at a place
in the document, or inside a value that a function made, and it cannot fail if the limit is at least
the height of the document: no function makes anything higher from a value than the value is, except
that one level may come of none.

* `invariant_unrecoverable` — whatever the functions, an error that ends the evaluation is not one
  of an argument.
* `invariant_place` — with built-in functions, it is one of depth, at a place that exists.
* `invariant_height` — with built-in functions, there is none within a high enough limit.
* `evaluate_fails_only_by_depth` — the three together.
-/

namespace JsonPath.Query

variable {document : Value} {limit maxDepth : Nat} {chain : Chain}

/-! ## Descents -/

/-- A descent fails at a location that is too deep. -/
theorem exists_location_of_descend_error {path : Option Path} {room : Option Nat} {v : Value}
    {e : EvalError} (h : descend limit path room v = .error e) :
    ∃ l ∈ v.locations, l.1.length = forbiddenDepth room ∧
      e = ⟨.depthExceeded limit, (nodeAt path l).path⟩ := by
  rw [descend_eq_visit, visit] at h
  split at h
  · contradiction
  · rename_i l hl
    exact ⟨l, List.mem_of_find?_eq_some hl, by simpa using List.find?_some hl,
      (Except.error.inj h).symm⟩

/-- The locations of the value of a located node are located in the document. -/
theorem located_nodeAt (hd : document.WellFormed) {n : Node} (hn : n.Located document)
    {l : List Step × Value} (hl : l ∈ n.value.locations) : (nodeAt n.path l).Located document := by
  intro p hp
  obtain ⟨q, hq, rfl⟩ := Option.map_eq_some_iff.1 hp
  obtain ⟨hplain, hget⟩ := hn q hq
  obtain ⟨hsteps, hfollow⟩ := (Value.mem_locations (hd.of_follow hget)).1 hl
  refine ⟨List.forall_mem_append.2 ⟨hplain, hsteps⟩, ?_⟩
  change Path.follow q.steps document = some n.value at hget
  rw [Path.get?, Path.follow_append, hget]
  exact hfollow

/-- A descent into a value no higher than the limit does not fail. -/
theorem height_of_descend_error {path : Option Path} {v : Value} {e : EvalError}
    (h : descend limit path (some maxDepth) v = .error e) : ¬v.height ≤ maxDepth := by
  obtain ⟨⟨ss, w⟩, hl, hlength, -⟩ := exists_location_of_descend_error h
  intro hheight
  have hle : ss.length ≤ maxDepth := Value.height_le_iff_locations.1 hheight ss w hl
  change ss.length = maxDepth + 1 at hlength
  omega

/-! ## Functions -/

theorem isRecoverable_locatedAt (e : EvalError) (path : Option Path) :
    (e.locatedAt path).isRecoverable = e.isRecoverable := rfl

/-- A built-in function fails with nothing that would end the evaluation. -/
theorem isRecoverable_of_isBuiltin {f : Function} (hf : f.IsBuiltin) {args : List Operand}
    {e : EvalError} (h : f.call args = .error e) : e.isRecoverable := by
  cases f with
  | custom f => exact hf.elim
  | builtin f =>
    obtain ⟨fault, rfl⟩ := (f.ends_call_plain args).of_error h
    rfl

/-! ## Three invariants -/

theorem invariant_unrecoverable (document : Value) (maxDepth : Nat) :
    Invariant ⟨document, maxDepth⟩ .everything (fun _ => True)
      fun e => e.isRecoverable = false where
  root := trivial
  part _ _ := trivial
  count _ := trivial
  call _ _ _ := trivial
  descent _ h := by
    obtain ⟨l, -, -, rfl⟩ := exists_location_of_descend_error h
    rfl
  fault _ _ _ := by
    rw [isRecoverable_locatedAt]
    exact Bool.eq_false_or_eq_true _

/-- Whether an error is one of depth, at a place that exists if it names one. -/
def IsDepthError (document : Value) (maxDepth : Nat) (e : EvalError) : Prop :=
  e.fault = .depthExceeded maxDepth ∧
    ∀ p, e.path = some p → p.IsPlain ∧ ∃ v, p.get? document = some v

theorem invariant_place (hd : document.WellFormed) (maxDepth : Nat) :
    Invariant ⟨document, maxDepth⟩ .builtins (Node.Located document)
      (IsDepthError document maxDepth) where
  root := Node.located_root document
  part hn h := hn.of_mem_parts hd h
  count k := Node.located_synthetic (.ofNat k)
  call _ _ _ := Node.located_synthetic _
  descent hn h := by
    obtain ⟨l, hl, -, rfl⟩ := exists_location_of_descend_error h
    refine ⟨rfl, fun p hp => ?_⟩
    obtain ⟨hplain, hget⟩ := located_nodeAt hd hn hl p hp
    exact ⟨hplain, _, hget⟩
  fault hf _ h := .inl (isRecoverable_of_isBuiltin hf h)

theorem invariant_height (h : max 1 document.height ≤ maxDepth) :
    Invariant ⟨document, maxDepth⟩ .builtins (fun n => n.value.height ≤ maxDepth)
      fun _ => False where
  root := Nat.le_trans (Nat.le_max_right 1 _) h
  part hn hv := Nat.le_trans (Nat.le_of_lt (Value.height_lt_of_mem_parts hv)) hn
  count k := by
    change (Value.ofNat k).height ≤ maxDepth
    rw [Builtin.height_ofNat]
    exact Nat.zero_le maxDepth
  call {f n args v} hf hn hv := by
    cases f with
    | custom f => exact hf.elim
    | builtin f =>
      refine (f.ends_call (Nat.le_trans (Nat.le_max_left 1 _) h) fun arg w harg hw => ?_).of_ok hv
      obtain rfl := Option.some.inj harg
      obtain rfl := Option.some.inj hw
      exact hn
  descent hn he := height_of_descend_error he hn
  fault hf _ he := .inl (isRecoverable_of_isBuiltin hf he)

/-- **Only depth can make an evaluation fail.** No error of an argument ends it, whatever functions
are called. With built-in functions an error is that the limit was exceeded, at a place of the
document if at any, and there is none if the limit is at least one and at least the height of the
document. -/
theorem evaluate_fails_only_by_depth (hd : document.WellFormed) (maxDepth : Nat) (chain : Chain) :
    (∀ e, evaluate maxDepth chain document = .error e →
        ∀ function fault, e.fault ≠ .invalidArgument function fault) ∧
      (ChainWithin .builtins chain →
        (∀ e, evaluate maxDepth chain document = .error e → e.fault = .depthExceeded maxDepth ∧
            ∀ p, e.path = some p → p.IsPlain ∧ ∃ v, p.get? document = some v) ∧
          (max 1 document.height ≤ maxDepth →
            ∃ ns, evaluate maxDepth chain document = .ok ns)) := by
  refine ⟨fun e he function fault hfault => ?_, fun hchain => ⟨fun e he => ?_, fun hheight => ?_⟩⟩
  · have hends :=
      (invariant_unrecoverable document maxDepth).evaluate (chainWithin_everything chain)
    have hunrecoverable : e.isRecoverable = false := hends.of_error he
    simp [EvalError.isRecoverable, hfault] at hunrecoverable
  · exact ((invariant_place hd maxDepth).evaluate hchain).of_error he
  · have hends := (invariant_height hheight).evaluate hchain
    cases h : evaluate maxDepth chain document with
    | ok ns => exact ⟨ns, rfl⟩
    | error e => exact (hends.of_error h).elim

/-- The keys of everything in `{"a":{"b":null}}` and what is below them: a limit of two is enough,
and with a limit of one the evaluation fails at the null, a place of the document. -/
theorem evaluate_fails_only_by_depth_keys :
    (∃ ns, evaluate 2 [.descent, .call (.builtin .keys) [], .descent]
        (.object [("a", .object [("b", .null)])]) = .ok ns) ∧
      ∃ e, evaluate 1 [.descent, .call (.builtin .keys) [], .descent]
          (.object [("a", .object [("b", .null)])]) = .error e ∧
        e.path = some ⟨[.name "a", .name "b"]⟩ ∧ e.fault = .depthExceeded 1 ∧
        (∀ function fault, e.fault ≠ .invalidArgument function fault) ∧
        ∃ v, Path.get? ⟨[.name "a", .name "b"]⟩ (.object [("a", .object [("b", .null)])]) =
          some v := by
  have hd : (Value.object [("a", .object [("b", .null)])]).WellFormed := by
    simp [Value.WellFormed, Value.WellFormedMembers]
  have hchain : ChainWithin .builtins [.descent, .call (.builtin .keys) [], .descent] := by
    simp [ChainWithin, Selector.Within, ArgumentsWithin, Scope.builtins, Function.IsBuiltin]
  refine ⟨((evaluate_fails_only_by_depth hd 2 _).2 hchain).2 (by decide), _, rfl, rfl, ?_⟩
  obtain ⟨hargument, hbuiltins⟩ := evaluate_fails_only_by_depth hd 1
    [.descent, .call (.builtin .keys) [], .descent]
  obtain ⟨hfault, hplace⟩ := (hbuiltins hchain).1 _ rfl
  exact ⟨hfault, hargument _ rfl, (hplace _ rfl).2⟩

end JsonPath.Query

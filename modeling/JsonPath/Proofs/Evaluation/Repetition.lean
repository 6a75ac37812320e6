import Mathlib
import JsonPath.Proofs.Evaluation.Arranged
import JsonPath.Proofs.Query.Slice

/-!
# Chains that find nothing twice

Every selector other than a union leads from one node to nodes along different ways, and so from
different nodes to different nodes, unless one way goes on with another. Ways of one step do not, so
such selectors keep paths different. A descent takes ways of all lengths: from a node and from one
below it it would find the same. But up to the first descent all paths have the same length, and
from different paths of one length no ways lead to the same place.

* `FoundBelow` — nodes that are found along different ways from one node.
* `select_foundBelow`, `descend_foundBelow` — what selectors find is that.
* `nodup_collect` — so is what they find in several nodes, if no ways from different paths meet.
* `evaluate_nodup` — chains without unions and with at most one descent find no path twice.
-/

namespace JsonPath

open Query

variable {α β ε : Type} {n : Node} {ns ms : List Node} {ctx : Context} {document : Value}

/-! ## Below one node -/

/-- The paths of the nodes `ms` lead from the node `n` on, along ways of a certain kind and none of
them twice. -/
structure FoundBelow (kind : List Step → Prop) (n : Node) (ms : List Node) : Prop where
  nodup : (ms.filterMap Node.path).Nodup
  below : ∀ q ∈ ms.filterMap Node.path, ∃ p ss, n.path = some p ∧ kind ss ∧ q = ⟨p.steps ++ ss⟩

/-- Ways that lead to parts. -/
def IsOneStep (ss : List Step) : Prop := ss.length = 1

namespace FoundBelow

variable {kind : List Step → Prop}

theorem of_forall_synthetic (h : ∀ m ∈ ms, m.path = none) : FoundBelow kind n ms := by
  have hnone : ms.filterMap Node.path = [] := List.filterMap_eq_nil_iff.2 h
  exact ⟨by simp [hnone], by simp [hnone]⟩

theorem nil : FoundBelow kind n [] := of_forall_synthetic (List.forall_mem_nil _)

theorem sublist {ms' : List Node} (h : FoundBelow kind n ms) (hsub : ms'.Sublist ms) :
    FoundBelow kind n ms' where
  nodup := h.nodup.sublist (hsub.filterMap Node.path)
  below q hq := h.below q ((hsub.filterMap Node.path).subset hq)

/-- Parts at different steps; those of a synthetic node have no paths at all. -/
theorem parts {found : List (Step × Value)} (h : (found.map Prod.fst).Nodup ∨ n.path = none) :
    FoundBelow IsOneStep n (found.map fun m => n.part m.1 m.2) := by
  cases hp : n.path with
  | none => exact of_forall_synthetic (List.forall_mem_map.2 fun l _ => by simp [Node.part, hp])
  | some p =>
    have hpaths : (found.map fun m => n.part m.1 m.2).filterMap Node.path =
        (found.map Prod.fst).map p.child := by
      simp [List.filterMap_map, Node.part, hp, Function.comp_def]
    have hinj : Function.Injective p.child := fun s t hst => by simpa [Path.child] using hst
    have hsteps := h.resolve_right (by simp [hp])
    refine ⟨hpaths ▸ hsteps.map hinj, fun q hq => ?_⟩
    rw [hpaths] at hq
    obtain ⟨s, -, rfl⟩ := List.mem_map.1 hq
    exact ⟨p, [s], hp, rfl, rfl⟩

theorem part (n : Node) (s : Step) (v : Value) : FoundBelow IsOneStep n [n.part s v] := by
  have hstep : ([(s, v)].map Prod.fst).Nodup := List.nodup_singleton s
  exact parts (.inl hstep)

theorem member? (n : Node) (name : String) : FoundBelow IsOneStep n (n.member? name).toList := by
  unfold Node.member?
  cases n.value.member? name with
  | none => exact nil
  | some v => exact part n (.name name) v

theorem element? (n : Node) (i : Nat) : FoundBelow IsOneStep n (n.element? i).toList := by
  unfold Node.element?
  cases n.value.element? i with
  | none => exact nil
  | some v => exact part n (.index i) v

theorem elementAt? (n : Node) (i : Int) : FoundBelow IsOneStep n (n.elementAt? i).toList := by
  unfold Node.elementAt?
  dsimp only
  split
  · split
    · exact nil
    · exact element? n _
  · exact element? n _

theorem children (h : n.value.WellFormed ∨ n.path = none) : FoundBelow IsOneStep n n.children :=
  parts (h.imp_left Value.WellFormed.nodup_steps)

theorem memberOrLength (name : String) (n : Node) :
    FoundBelow IsOneStep n (memberOrLength name n) := by
  have hmember := member? n name
  unfold Query.memberOrLength
  cases hm : n.member? name with
  | some child => rwa [hm] at hmember
  | none =>
    dsimp only
    split
    · split
      · exact of_forall_synthetic (by simp [Node.synthetic])
      · exact nil
    · exact nil

/-- A slice picks different positions, in either direction. -/
theorem sliceOf (s : Slice) (n : Node) : FoundBelow IsOneStep n (sliceOf s n) := by
  have hparts : Query.sliceOf s n = ((s.indices n.value.elements.length).filterMap fun i =>
      (n.value.element? i).map fun v => (Step.index i, v)).map fun m => n.part m.1 m.2 := by
    rw [Query.sliceOf, List.map_filterMap]
    refine List.filterMap_congr fun i _ => ?_
    rw [Node.element?, Option.map_map]
    rfl
  rw [hparts]
  refine parts (.inl ?_)
  rw [List.map_filterMap]
  refine (s.nodup_indices n.value.elements.length).filterMap fun i j t hi hj => ?_
  rw [Option.map_map, Option.mem_def, Option.map_eq_some_iff] at hi hj
  obtain ⟨_, -, rfl⟩ := hi
  obtain ⟨_, -, hij⟩ := hj
  exact (Step.index.inj hij).symm

theorem lookupKey (key : Operand) (n : Node) : FoundBelow IsOneStep n (lookupKey key n) := by
  unfold Query.lookupKey
  split
  · exact member? n _
  · rename_i v _ _
    split
    · cases v.asInt? with
      | none => exact nil
      | some i => exact elementAt? n i.toInt
    · exact nil
  · exact nil

theorem syntheticOf (o : Operand) : FoundBelow kind n (syntheticOf o) := by
  cases o with
  | value v => exact of_forall_synthetic (by simp [Query.syntheticOf, Node.synthetic])
  | nodes | absent => exact nil

end FoundBelow

/-- A located node with a path has a well-formed value. -/
theorem Node.Located.wellFormed_or (hd : document.WellFormed) (hn : n.Located document) :
    n.value.WellFormed ∨ n.path = none := by
  cases hp : n.path with
  | none => exact .inr rfl
  | some p => exact .inl (hd.of_follow (hn p hp).2)

namespace Query

/-! ## Selectors -/

/-- Whether the selector joins the results of several chains. -/
def Selector.isUnion : Selector → Bool
  | union _ => true
  | _ => false

/-- Whether the selector goes through everything below a node. -/
def Selector.isDescent : Selector → Bool
  | descent => true
  | _ => false

theorem sublist_of_collect {f : α → Except ε (List α)} {as bs : List α}
    (hf : ∀ a cs, f a = .ok cs → cs.Sublist [a]) (h : collect f as = .ok bs) : bs.Sublist as := by
  induction as generalizing bs with
  | nil =>
    obtain rfl : [] = bs := by simpa [collect] using h
    exact List.Sublist.slnil
  | cons a as ih =>
    simp only [collect, bind_eq_ok, pure_eq_ok] at h
    obtain ⟨first, hfirst, others, hothers, rfl⟩ := h
    exact (hf a first hfirst).append (ih hothers)

theorem eq_of_recover_eq_ok {default b : β} {use : α → β} {x : Except EvalError α}
    (h : recover default use x = .ok b) : b = default ∨ ∃ a, b = use a := by
  cases x with
  | ok a => exact .inr ⟨a, (Except.ok.inj h).symm⟩
  | error e =>
    unfold recover at h
    dsimp only at h
    split at h
    · exact .inl (Except.ok.inj h).symm
    · contradiction

/-- Selectors other than unions and descents lead to different parts of a node. -/
theorem select_foundBelow {s : Selector} (hunion : s.isUnion = false)
    (hdescent : s.isDescent = false) (hn : n.value.WellFormed ∨ n.path = none)
    (h : s.select ctx n = .ok ms) : FoundBelow IsOneStep n ms := by
  cases s with
  | union => contradiction
  | descent => contradiction
  | name name =>
    obtain rfl := Except.ok.inj h
    exact .memberOrLength name n
  | wildMember | wildElement =>
    obtain rfl := Except.ok.inj h
    exact .children hn
  | index i =>
    obtain rfl := Except.ok.inj h
    exact .elementAt? n i.toInt
  | slice s =>
    obtain rfl := Except.ok.inj h
    exact .sliceOf s n
  | filter p =>
    rw [Selector.select] at h
    refine (FoundBelow.children hn).sublist (sublist_of_collect (fun child kept hkept => ?_) h)
    rcases eq_of_recover_eq_ok hkept with rfl | ⟨v, rfl⟩
    · exact List.nil_sublist _
    · split
      · exact List.Sublist.refl _
      · exact List.nil_sublist _
  | call f args =>
    rw [Selector.select] at h
    rcases eq_of_recover_eq_ok h with rfl | ⟨o, rfl⟩
    · exact .nil
    · exact .syntheticOf o
  | computed p =>
    rw [Selector.select] at h
    rcases eq_of_recover_eq_ok h with rfl | ⟨key, rfl⟩
    · exact .nil
    · exact .lookupKey key n

/-- A descent takes every way from a node once. -/
theorem descend_foundBelow {limit : Nat} {room : Option Nat}
    (hn : n.value.WellFormed ∨ n.path = none) (h : descend limit n.path room n.value = .ok ms) :
    FoundBelow (fun _ => True) n ms := by
  have hms : ms = n.value.locations.map (nodeAt n.path) := by
    rw [descend_eq_visit, visit] at h
    split at h
    · exact (Except.ok.inj h).symm
    · contradiction
  rw [hms]
  cases hp : n.path with
  | none => exact .of_forall_synthetic (List.forall_mem_map.2 fun l _ => rfl)
  | some p =>
    have hpaths : (n.value.locations.map (nodeAt (some p))).filterMap Node.path =
        (n.value.locations.map Prod.fst).map fun ss => ⟨p.steps ++ ss⟩ := by
      simp [List.filterMap_map, nodeAt, Function.comp_def]
    have hinj : Function.Injective fun ss => (⟨p.steps ++ ss⟩ : Path) := fun ss ts hst => by
      simpa using hst
    have hv : n.value.WellFormed := hn.resolve_right (by simp [hp])
    refine ⟨hpaths ▸ (Value.nodup_locations hv).map hinj, fun q hq => ?_⟩
    rw [hpaths] at hq
    obtain ⟨ss, -, rfl⟩ := List.mem_map.1 hq
    exact ⟨p, ss, hp, trivial, rfl⟩

/-! ## Lists of nodes -/

/-- What is found in different places is different if no ways from them meet. -/
theorem nodup_collect {kind : List Step → Prop} {f : Node → Except ε (List Node)}
    (hns : (ns.filterMap Node.path).Nodup)
    (hf : ∀ n ∈ ns, ∀ ms, f n = .ok ms → FoundBelow kind n ms)
    (hmeet : ∀ p ∈ ns.filterMap Node.path, ∀ q ∈ ns.filterMap Node.path, ∀ ss ts, kind ss →
      kind ts → p.steps ++ ss = q.steps ++ ts → p = q)
    (h : collect f ns = .ok ms) : (ms.filterMap Node.path).Nodup := by
  induction ns generalizing ms with
  | nil =>
    obtain rfl : [] = ms := by simpa [collect] using h
    exact List.nodup_nil
  | cons n rest ih =>
    simp only [collect, bind_eq_ok, pure_eq_ok] at h
    obtain ⟨first, hfirst, others, hothers, rfl⟩ := h
    have hsub : rest.filterMap Node.path ⊆ (n :: rest).filterMap Node.path :=
      ((List.sublist_cons_self n rest).filterMap Node.path).subset
    obtain ⟨hn, hrest⟩ := List.forall_mem_cons.1 hf
    have hfound := hn first hfirst
    have hnodup := ih (hns.sublist ((List.sublist_cons_self n rest).filterMap Node.path)) hrest
      (fun p hp q hq => hmeet p (hsub hp) q (hsub hq)) hothers
    rw [List.filterMap_append, List.nodup_append]
    refine ⟨hfound.nodup, hnodup, fun q hq r hr hqr => ?_⟩
    -- A path found both times would come from the first node and from a later one.
    obtain ⟨p, ss, hp, hss, rfl⟩ := hfound.below q hq
    obtain ⟨m, hm, hmr⟩ := List.mem_filterMap.1 hr
    obtain ⟨n', hn', found, hfound', hmem⟩ := mem_of_collect hothers hm
    obtain ⟨p', ts, hp', hts, rfl⟩ :=
      (hrest n' hn' found hfound').below r (List.mem_filterMap.2 ⟨m, hmem, hmr⟩)
    have hmem' : p' ∈ rest.filterMap Node.path := List.mem_filterMap.2 ⟨n', hn', hp'⟩
    rw [List.filterMap_cons_some hp] at hns hmeet
    obtain rfl := hmeet p List.mem_cons_self p' (List.mem_cons_of_mem p hmem') ss ts hss hts
      (congrArg Path.steps hqr)
    exact (List.nodup_cons.1 hns).1 hmem'

/-- What one-step ways lead to from places of one depth is one step deeper. -/
theorem depth_collect {f : Node → Except ε (List Node)} {k : Nat}
    (hf : ∀ n ∈ ns, ∀ ms, f n = .ok ms → FoundBelow IsOneStep n ms)
    (hk : ∀ p ∈ ns.filterMap Node.path, p.steps.length = k) (h : collect f ns = .ok ms) :
    ∀ q ∈ ms.filterMap Node.path, q.steps.length = k + 1 := by
  intro q hq
  obtain ⟨m, hm, hmq⟩ := List.mem_filterMap.1 hq
  obtain ⟨n, hn, found, hfound, hmem⟩ := mem_of_collect h hm
  obtain ⟨p, ss, hp, hss, rfl⟩ :=
    (hf n hn found hfound).below q (List.mem_filterMap.2 ⟨m, hmem, hmq⟩)
  have hss : ss.length = 1 := hss
  rw [List.length_append, hk p (List.mem_filterMap.2 ⟨n, hn, hp⟩), hss]

/-! ## Stages -/

variable {maxDepth k : Nat} {s : Selector}

theorem stage_located (hd : document.WellFormed) (hns : ∀ n ∈ ns, n.Located document)
    (h : stage ⟨document, maxDepth⟩ s ns = .ok ms) : ∀ m ∈ ms, m.Located document := by
  have hchain : selectChain ⟨document, maxDepth⟩ [s] ns = .ok ms := by
    rw [selectChain_cons, h]
    rfl
  exact ((invariant_located hd maxDepth).selectChain [s] (chainWithin_everything [s]) hns).of_ok
    hchain

/-- **One stage of one step.** Selectors other than unions and descents keep paths different, and
take paths of one length to paths of the next. -/
theorem stage_oneStep (hd : document.WellFormed) (hunion : s.isUnion = false)
    (hdescent : s.isDescent = false) (hns : ∀ n ∈ ns, n.Located document)
    (hnodup : (ns.filterMap Node.path).Nodup) (h : stage ⟨document, maxDepth⟩ s ns = .ok ms) :
    (ms.filterMap Node.path).Nodup ∧
      ((∀ p ∈ ns.filterMap Node.path, p.steps.length = k) →
        ∀ q ∈ ms.filterMap Node.path, q.steps.length = k + 1) := by
  unfold stage at h
  split at h
  · obtain rfl := Except.ok.inj h
    simp [Node.synthetic]
  · have hf : ∀ n ∈ ns, ∀ ms, s.select ⟨document, maxDepth⟩ n = .ok ms →
        FoundBelow IsOneStep n ms :=
      fun n hn ms => select_foundBelow hunion hdescent ((hns n hn).wellFormed_or hd)
    refine ⟨nodup_collect hnodup hf (fun p _ q _ ss ts hss hts heq => ?_) h,
      fun hk => depth_collect hf hk h⟩
    exact congrArg Path.mk (List.append_inj_left' heq (Eq.trans hss (Eq.symm hts)))

/-- **One descent.** From different paths of one length a descent finds different paths. -/
theorem stage_descent (hd : document.WellFormed) (hns : ∀ n ∈ ns, n.Located document)
    (hnodup : (ns.filterMap Node.path).Nodup)
    (hk : ∀ p ∈ ns.filterMap Node.path, p.steps.length = k)
    (h : stage ⟨document, maxDepth⟩ .descent ns = .ok ms) :
    (ms.filterMap Node.path).Nodup := by
  have hf : ∀ n ∈ ns, ∀ ms, Selector.descent.select ⟨document, maxDepth⟩ n = .ok ms →
      FoundBelow (fun _ => True) n ms :=
    fun n hn ms => descend_foundBelow ((hns n hn).wellFormed_or hd)
  refine nodup_collect hnodup hf (fun p hp q hq ss ts _ _ heq => ?_) h
  exact congrArg Path.mk (List.append_inj_left heq ((hk p hp).trans (hk q hq).symm))

/-! ## Chains -/

variable {chain : Chain}

/-- After a descent: every further selector keeps paths different. -/
theorem nodup_selectChain (hd : document.WellFormed) (hunion : ∀ s ∈ chain, s.isUnion = false)
    (hdescent : ∀ s ∈ chain, s.isDescent = false) (hns : ∀ n ∈ ns, n.Located document)
    (hnodup : (ns.filterMap Node.path).Nodup)
    (h : selectChain ⟨document, maxDepth⟩ chain ns = .ok ms) :
    (ms.filterMap Node.path).Nodup := by
  induction chain generalizing ns with
  | nil =>
    obtain rfl : ns = ms := by simpa [selectChain] using h
    exact hnodup
  | cons s chain ih =>
    rw [selectChain_cons, bind_eq_ok] at h
    obtain ⟨next, hnext, h⟩ := h
    obtain ⟨hs, hchain⟩ := List.forall_mem_cons.1 hunion
    obtain ⟨hs', hchain'⟩ := List.forall_mem_cons.1 hdescent
    exact ih hchain hchain' (stage_located hd hns hnext)
      (stage_oneStep (k := 0) hd hs hs' hns hnodup hnext).1 h

/-- Up to the first descent all paths have one length, too. -/
theorem nodup_selectChain_of_depth (hd : document.WellFormed)
    (hunion : ∀ s ∈ chain, s.isUnion = false) (hdescent : chain.countP Selector.isDescent ≤ 1)
    (hns : ∀ n ∈ ns, n.Located document) (hnodup : (ns.filterMap Node.path).Nodup)
    (hk : ∀ p ∈ ns.filterMap Node.path, p.steps.length = k)
    (h : selectChain ⟨document, maxDepth⟩ chain ns = .ok ms) :
    (ms.filterMap Node.path).Nodup := by
  induction chain generalizing ns k with
  | nil =>
    obtain rfl : ns = ms := by simpa [selectChain] using h
    exact hnodup
  | cons s chain ih =>
    rw [selectChain_cons, bind_eq_ok] at h
    obtain ⟨next, hnext, h⟩ := h
    obtain ⟨hs, hchain⟩ := List.forall_mem_cons.1 hunion
    have hlocated := stage_located hd hns hnext
    cases hsd : s.isDescent with
    | false =>
      rw [List.countP_cons_of_neg (by simp [hsd])] at hdescent
      obtain ⟨hnodup', hk'⟩ := stage_oneStep hd hs hsd hns hnodup hnext
      exact ih hchain hdescent hlocated hnodup' (hk' hk) h
    | true =>
      rw [List.countP_cons_of_pos hsd] at hdescent
      have hnone : chain.countP Selector.isDescent = 0 := by omega
      obtain rfl : s = .descent := by cases s <;> first | rfl | contradiction
      exact nodup_selectChain hd hchain (by simpa [List.countP_eq_zero] using hnone) hlocated
        (stage_descent hd hns hnodup hk hnext) h

/-- **Plain chains find nothing twice.** What a chain without unions and with at most one descent
finds in a document has no path twice, so dropping repetitions changes nothing, whatever else is
asked for. -/
theorem evaluate_nodup (hd : document.WellFormed) (hunion : ∀ s ∈ chain, s.isUnion = false)
    (hdescent : chain.countP Selector.isDescent ≤ 1)
    (h : evaluate maxDepth chain document = .ok ns) :
    (ns.filterMap Node.path).Nodup ∧ distinctNodes [] ns = ns ∧
      ∀ o : OutputForm, arrange { o with distinct := true } ns =
        arrange { o with distinct := false } ns := by
  have hnodup : (ns.filterMap Node.path).Nodup :=
    nodup_selectChain_of_depth (k := 0) hd hunion hdescent
      (List.forall_mem_singleton.2 (Node.located_root document)) (List.nodup_singleton Path.root)
      (List.forall_mem_singleton.2 rfl) h
  refine ⟨hnodup, distinctNodes_eq_self hnodup fun _ _ => List.not_mem_nil, fun o => ?_⟩
  have hperm := (inOrder_perm o ns).filterMap Node.path
  exact distinctNodes_eq_self (hperm.nodup_iff.2 hnodup) fun _ _ => List.not_mem_nil

/-- Every second element, from the last one down, of the array in `[[1,[2,3]]]` and of those below
it. -/
theorem evaluate_nodup_descent :
    ∃ ns, (Value.array [.array [.int 1, .array [.int 2, .int 3]]]).WellFormed ∧
      evaluate 8 [.wildElement, .descent, .slice ⟨none, none, some (-2)⟩]
        (.array [.array [.int 1, .array [.int 2, .int 3]]]) = .ok ns ∧
      ns.map Node.path = [some ⟨[.index 0, .index 1]⟩, some ⟨[.index 0, .index 1, .index 1]⟩] ∧
      (ns.filterMap Node.path).Nodup := by
  have hd : (Value.array [.array [.int 1, .array [.int 2, .int 3]]]).WellFormed := by
    simp [Value.WellFormed, Value.WellFormedItems]
  have h : evaluate 8 [.wildElement, .descent, .slice ⟨none, none, some (-2)⟩]
      (.array [.array [.int 1, .array [.int 2, .int 3]]]) =
        .ok [⟨.array [.int 2, .int 3], some ⟨[.index 0, .index 1]⟩⟩,
          ⟨.int 3, some ⟨[.index 0, .index 1, .index 1]⟩⟩] := by cbv
  exact ⟨_, hd, h, rfl, (evaluate_nodup hd (by simp [Selector.isUnion]) (by decide) h).1⟩

end Query

end JsonPath

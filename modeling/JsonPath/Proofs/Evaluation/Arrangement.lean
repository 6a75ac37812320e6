import Mathlib.Data.List.Pairwise
import JsonPath.Evaluation.Expression
import JsonPath.Proofs.Evaluation.Outcome
import JsonPath.Proofs.Location.Order

/-!
# The paths that an expression finds

Edits go through the distinct paths of the nodes found. These are the paths of the nodes after a
sort and a pass that keeps the first node of each path.

* `mem_paths_distinctNodes` — the pass loses no path.
* `mem_of_selectPaths`, `pairwise_of_selectPaths` — the paths are those of the nodes found, strictly
  ascending.
-/

namespace JsonPath

open Std

variable {ns : List Node} {p : Path}

/-! ## The order of nodes -/

instance : TransCmp Node.compare where
  eq_swap {a b} := by
    unfold Node.compare
    cases a.path <;> cases b.path <;> first | rfl | exact OrientedCmp.eq_swap
  isLE_trans {a b c} := by
    unfold Node.compare
    cases a.path with
    | none => cases b.path <;> cases c.path <;> simp
    | some p =>
      cases b.path with
      | none => cases c.path <;> simp
      | some q =>
        cases c.path with
        | none => simp
        | some r => exact TransCmp.isLE_trans

/-- The order of nodes in a direction. -/
def Node.compareIn (descending : Bool) (a b : Node) : Ordering :=
  if descending then b.compare a else a.compare b

instance (descending : Bool) : TransCmp (Node.compareIn descending) where
  eq_swap {a b} := by
    cases descending with
    | false => exact (OrientedCmp.eq_swap : a.compare b = _)
    | true => exact (OrientedCmp.eq_swap : b.compare a = _)
  isLE_trans {a b c} hab hbc := by
    cases descending with
    | false => exact (TransCmp.isLE_trans : (a.compare b).isLE → _) hab hbc
    | true => exact (TransCmp.isLE_trans : (c.compare b).isLE → _) hbc hab

theorem sortNodes_eq_mergeSort (descending : Bool) (ns : List Node) :
    sortNodes descending ns = ns.mergeSort fun a b => (a.compareIn descending b).isLE := by
  have hle : ∀ o : Ordering, (o != .gt) = o.isLE := fun o => by cases o <;> rfl
  simp only [sortNodes, hle]
  rfl

theorem pairwise_sortNodes (descending : Bool) (ns : List Node) :
    (sortNodes descending ns).Pairwise fun a b => (a.compareIn descending b).isLE := by
  rw [sortNodes_eq_mergeSort]
  exact List.pairwise_mergeSort (fun a b c => TransCmp.isLE_trans) isLE_or_isLE_swap ns

theorem sortNodes_perm (descending : Bool) (ns : List Node) :
    (sortNodes descending ns).Perm ns :=
  List.mergeSort_perm ns _

/-- Sorting leaves nodes that all compare equal in order. -/
theorem filter_sortNodes {descending : Bool} {p : Node → Bool}
    (hp : ∀ a b, p a → p b → a.compareIn descending b = .eq) (ns : List Node) :
    (sortNodes descending ns).filter p = ns.filter p := by
  have htied : (ns.filter p).Pairwise fun a b => (a.compareIn descending b).isLE := by
    refine List.pairwise_of_forall_mem_list fun a ha b hb => ?_
    rw [hp a b (List.mem_filter.1 ha).2 (List.mem_filter.1 hb).2]
    rfl
  have hsub : (ns.filter p).Sublist (sortNodes descending ns) := by
    rw [sortNodes_eq_mergeSort]
    exact List.sublist_mergeSort (fun a b c => TransCmp.isLE_trans) isLE_or_isLE_swap htied
      List.filter_sublist
  have hfilter := hsub.filter p
  simp only [List.filter_filter, Bool.and_self] at hfilter
  exact (hfilter.eq_of_length ((sortNodes_perm descending ns).filter _).length_eq.symm).symm

/-! ## Distinct paths -/

theorem distinctNodes_sublist (seen : List Path) (ns : List Node) :
    (distinctNodes seen ns).Sublist ns := by
  induction ns generalizing seen with
  | nil => exact List.Sublist.refl []
  | cons n ns ih =>
    unfold distinctNodes
    split
    · exact (ih seen).cons_cons n
    · split
      · exact (ih seen).cons n
      · exact (ih _).cons_cons n

/-- The paths kept are those that were not seen before. -/
theorem mem_paths_distinctNodes {seen : List Path} :
    p ∈ (distinctNodes seen ns).filterMap Node.path ↔ p ∈ ns.filterMap Node.path ∧ p ∉ seen := by
  induction ns generalizing seen with
  | nil => simp [distinctNodes]
  | cons n ns ih =>
    unfold distinctNodes
    cases hn : n.path with
    | none => simpa only [List.filterMap_cons, hn] using ih
    | some q =>
      by_cases hq : q ∈ seen
      · simp only [hq, if_true, ih, List.filterMap_cons, hn, List.mem_cons]
        grind
      · simp only [hq, if_false, List.filterMap_cons, hn, List.mem_cons, ih]
        grind

theorem nodup_paths_distinctNodes (seen : List Path) (ns : List Node) :
    ((distinctNodes seen ns).filterMap Node.path).Nodup := by
  induction ns generalizing seen with
  | nil => exact List.nodup_nil
  | cons n ns ih =>
    unfold distinctNodes
    cases hn : n.path with
    | none => simpa only [List.filterMap_cons, hn] using ih seen
    | some q =>
      by_cases hq : q ∈ seen
      · simpa only [hq, if_true] using ih seen
      · simp only [hq, if_false, List.filterMap_cons, hn, List.nodup_cons]
        exact ⟨fun h => (mem_paths_distinctNodes.1 h).2 List.mem_cons_self, ih (q :: seen)⟩

/-- Where no path is repeated nothing is dropped. -/
theorem distinctNodes_eq_self {seen : List Path} (h : (ns.filterMap Node.path).Nodup)
    (hseen : ∀ p ∈ ns.filterMap Node.path, p ∉ seen) : distinctNodes seen ns = ns := by
  induction ns generalizing seen with
  | nil => rfl
  | cons n ns ih =>
    unfold distinctNodes
    cases hn : n.path with
    | none =>
      simp only [List.filterMap_cons, hn] at h hseen
      exact congrArg (n :: ·) (ih h hseen)
    | some p =>
      simp only [List.filterMap_cons, hn, List.nodup_cons, List.forall_mem_cons] at h hseen
      simp only [hseen.1, if_false]
      refine congrArg (n :: ·) (ih h.2 fun q hq hmem => ?_)
      rcases List.mem_cons.1 hmem with rfl | hmem
      · exact h.1 hq
      · exact hseen.2 q hq hmem

/-! ## Selected paths -/

namespace Expression

variable {e : Expression} {d : Value} {ps : List Path}

theorem selectPaths_eq (h : e.evaluate d = .ok ns) :
    e.selectPaths d = .ok ((distinctNodes [] (sortNodes false ns)).filterMap Node.path) := by
  simp [selectPaths, h, arrange, Except.map]

/-- The paths selected are those of the nodes found. -/
theorem mem_of_selectPaths (h : e.evaluate d = .ok ns) (hps : e.selectPaths d = .ok ps) :
    p ∈ ps ↔ ∃ n ∈ ns, n.path = some p := by
  obtain rfl := Except.ok.inj ((selectPaths_eq h).symm.trans hps)
  rw [mem_paths_distinctNodes]
  simp [sortNodes]

/-- Every path comes before all that are listed after it. -/
theorem pairwise_of_selectPaths (h : e.evaluate d = .ok ns) (hps : e.selectPaths d = .ok ps) :
    ps.Pairwise fun p q => p.compare q = .lt := by
  obtain rfl := Except.ok.inj ((selectPaths_eq h).symm.trans hps)
  have hsub := distinctNodes_sublist [] (sortNodes false ns)
  have hsorted := (pairwise_sortNodes false ns).sublist hsub
  have hle : ((distinctNodes [] (sortNodes false ns)).filterMap Node.path).Pairwise fun p q =>
      (p.compare q).isLE := by
    refine List.Pairwise.filterMap Node.path (fun a b hab p hp q hq => ?_) hsorted
    simpa [Node.compareIn, Node.compare, hp, hq] using hab
  refine (hle.and (nodup_paths_distinctNodes [] (sortNodes false ns))).imp fun {p q} hpq => ?_
  exact (Ordering.isLE_iff_eq_lt_or_eq_eq.1 hpq.1).resolve_right fun heq =>
    hpq.2 (LawfulEqCmp.eq_of_compare heq)

end Expression

end JsonPath

import Mathlib.Data.List.Pairwise
import JsonPath.Proofs.Evaluation.Arrangement
import JsonPath.Proofs.Evaluation.Soundness

/-!
# Ascending and descending arrangements

The paths in a descending arrangement are those of the ascending one in reverse, whatever the nodes.
A node with a path is determined by it, since evaluation is sound, so the nodes with a path are
reversed too. Synthetic nodes are all on one side, and since they compare equal they stay in the
order in which they were found, in both directions.

* `filter_isSynthetic_arrange` — no arrangement moves or drops synthetic nodes among themselves.
* `paths_arrange_descending` — the paths of the two directions are reverses of each other.
* `arrange_descending_iff` — so are the arrangements, just when the synthetic nodes read the same in
  both directions.
-/

namespace JsonPath

open Std

variable {ns : List Node} {descending : Bool}

/-! ## Synthetic nodes -/

theorem compareIn_of_isSynthetic {a b : Node} (ha : a.isSynthetic) (hb : b.isSynthetic) :
    a.compareIn descending b = .eq := by
  have ha : a.path = none := Option.isNone_iff_eq_none.1 ha
  have hb : b.path = none := Option.isNone_iff_eq_none.1 hb
  cases descending <;> simp [Node.compareIn, Node.compare, ha, hb]

theorem filter_isSynthetic_sortNodes (descending : Bool) (ns : List Node) :
    (sortNodes descending ns).filter Node.isSynthetic = ns.filter Node.isSynthetic :=
  filter_sortNodes (fun _ _ => compareIn_of_isSynthetic) ns

theorem filter_isSynthetic_distinctNodes (seen : List Path) (ns : List Node) :
    (distinctNodes seen ns).filter Node.isSynthetic = ns.filter Node.isSynthetic := by
  induction ns generalizing seen with
  | nil => rfl
  | cons n ns ih =>
    unfold distinctNodes
    cases hn : n.path with
    | none => simp [Node.isSynthetic, hn, ← ih seen]
    | some p =>
      by_cases hp : p ∈ seen
      · simpa [Node.isSynthetic, hn, hp] using ih seen
      · simpa [Node.isSynthetic, hn, hp] using ih (p :: seen)

/-- Synthetic nodes keep the order in which they were found, and none is dropped. -/
theorem filter_isSynthetic_arrange (o : OutputForm) (ns : List Node) :
    (arrange o ns).filter Node.isSynthetic = ns.filter Node.isSynthetic := by
  unfold arrange
  cases o.distinct <;> cases o.descending || o.ascending <;>
    simp [filter_isSynthetic_sortNodes, filter_isSynthetic_distinctNodes]

/-! ## Nodes with a path -/

theorem mem_of_mem_arrange {o : OutputForm} {n : Node} (h : n ∈ arrange o ns) : n ∈ ns := by
  have hsort : ∀ m ∈ (if o.descending || o.ascending then sortNodes o.descending ns else ns),
      m ∈ ns := by
    intro m hm
    split at hm
    · exact (sortNodes_perm o.descending ns).mem_iff.1 hm
    · exact hm
  unfold arrange at h
  dsimp only at h
  generalize (if o.descending || o.ascending then sortNodes o.descending ns else ns) = ms at h hsort
  split at h
  · exact hsort n ((distinctNodes_sublist [] ms).subset h)
  · exact hsort n h

theorem pairwise_arrange {o : OutputForm} (h : o.descending || o.ascending) (ns : List Node) :
    (arrange o ns).Pairwise fun a b => (a.compareIn o.descending b).isLE := by
  have hsorted := pairwise_sortNodes o.descending ns
  unfold arrange
  rw [if_pos h]
  split
  · exact hsorted.sublist (distinctNodes_sublist [] _)
  · exact hsorted

/-- Which paths are kept, and how often, does not depend on the order of the nodes. -/
theorem paths_distinctNodes_perm {ms : List Node} (h : ms.Perm ns) :
    ((distinctNodes [] ms).filterMap Node.path).Perm
      ((distinctNodes [] ns).filterMap Node.path) := by
  refine (List.perm_ext_iff_of_nodup (nodup_paths_distinctNodes [] ms)
    (nodup_paths_distinctNodes [] ns)).2 fun p => ?_
  rw [mem_paths_distinctNodes, mem_paths_distinctNodes, (h.filterMap Node.path).mem_iff]

/-- **Paths are reversed.** The paths in descending order are those in ascending order, from the
last to the first. -/
theorem paths_arrange_descending (o : OutputForm) (ns : List Node) :
    (arrange { o with descending := true } ns).filterMap Node.path =
      ((arrange { o with ascending := true, descending := false } ns).filterMap
        Node.path).reverse := by
  have hdescending : ((arrange { o with descending := true } ns).filterMap Node.path).Pairwise
      fun p q => (q.compare p).isLE := by
    refine List.Pairwise.filterMap _ (fun a b hab p hp q hq => ?_) (pairwise_arrange rfl ns)
    simpa [Node.compareIn, Node.compare, hp, hq] using hab
  have hascending : ((arrange { o with ascending := true, descending := false } ns).filterMap
      Node.path).Pairwise fun p q => (p.compare q).isLE := by
    refine List.Pairwise.filterMap _ (fun a b hab p hp q hq => ?_) (pairwise_arrange rfl ns)
    simpa [Node.compareIn, Node.compare, hp, hq] using hab
  have hperm : ((arrange { o with descending := true } ns).filterMap Node.path).Perm
      ((arrange { o with ascending := true, descending := false } ns).filterMap Node.path) := by
    have hsort := (sortNodes_perm true ns).trans (sortNodes_perm false ns).symm
    cases hd : o.distinct with
    | false => simpa [arrange, hd] using hsort.filterMap Node.path
    | true => simpa [arrange, hd] using paths_distinctNodes_perm hsort
  -- A list of paths is determined by its order, since only equal paths compare equal.
  refine List.Perm.eq_of_pairwise (fun p q _ _ hqp hpq => ?_) hdescending
    (List.pairwise_reverse.2 hascending) (hperm.trans (List.reverse_perm _).symm)
  exact LawfulEqCmp.eq_of_compare (OrientedCmp.isLE_antisymm hpq hqp)

variable {document : Value}

/-- The node at a path of a document. -/
def Node.ofPath (document : Value) (p : Path) : Node := ⟨(p.get? document).getD .null, some p⟩

/-- Located nodes with a path are determined by their paths. -/
theorem filter_not_isSynthetic_eq (h : ∀ n ∈ ns, n.Located document) :
    ns.filter (fun n => !n.isSynthetic) = (ns.filterMap Node.path).map (Node.ofPath document) := by
  induction ns with
  | nil => rfl
  | cons n ns ih =>
    obtain ⟨hn, hns⟩ := List.forall_mem_cons.1 h
    cases hp : n.path with
    | none => simpa [Node.isSynthetic, hp] using ih hns
    | some p =>
      have hnode : n = Node.ofPath document p := by
        rw [Node.ofPath, (hn p hp).2, ← hp]
        rfl
      simpa [Node.isSynthetic, hp, ← hnode] using ih hns

/-- Synthetic nodes alone are left as they are. -/
theorem arrange_of_isSynthetic (h : ∀ n ∈ ns, n.isSynthetic) (o : OutputForm) :
    arrange o ns = ns := by
  have hall := filter_isSynthetic_arrange o ns
  rwa [List.filter_eq_self.2 h,
    List.filter_eq_self.2 fun n hn => h n (mem_of_mem_arrange hn)] at hall

/-! ## Two sides -/

/-- If everything before what has a property has it too, what has it comes first. -/
theorem filter_append_filter_not {α : Type} {p : α → Bool} {as : List α}
    (h : as.Pairwise fun a b => p b → p a) : as.filter p ++ as.filter (fun a => !p a) = as := by
  induction as with
  | nil => rfl
  | cons a as ih =>
    obtain ⟨ha, has⟩ := List.pairwise_cons.1 h
    cases hp : p a with
    | true => simp [hp, ih has]
    | false =>
      have hnone : as.filter p = [] := List.filter_eq_nil_iff.2 fun b hb hpb => by
        simp [ha b hb hpb] at hp
      have hall := ih has
      rw [hnone, List.nil_append] at hall
      simp [hp, hnone, hall]

/-- In ascending order synthetic nodes come last. -/
theorem arrange_ascending_eq (o : OutputForm) (ns : List Node) :
    arrange { o with ascending := true, descending := false } ns =
      (arrange { o with ascending := true, descending := false } ns).filter
        (fun n => !n.isSynthetic) ++ ns.filter Node.isSynthetic := by
  have hsides : (arrange { o with ascending := true, descending := false } ns).Pairwise
      fun a b => (!b.isSynthetic) → (!a.isSynthetic) := by
    refine (pairwise_arrange rfl ns).imp fun {a b} hab => ?_
    cases ha : a.path <;> cases hb : b.path <;>
      simp_all [Node.compareIn, Node.compare, Node.isSynthetic]
  have hsplit := filter_append_filter_not hsides
  simp only [Bool.not_not, filter_isSynthetic_arrange] at hsplit
  exact hsplit.symm

/-- In descending order synthetic nodes come first. -/
theorem arrange_descending_eq (o : OutputForm) (ns : List Node) :
    arrange { o with descending := true } ns = ns.filter Node.isSynthetic ++
      (arrange { o with descending := true } ns).filter (fun n => !n.isSynthetic) := by
  have hsides : (arrange { o with descending := true } ns).Pairwise
      fun a b => b.isSynthetic → a.isSynthetic := by
    refine (pairwise_arrange rfl ns).imp fun {a b} hab => ?_
    cases ha : a.path <;> cases hb : b.path <;>
      simp_all [Node.compareIn, Node.compare, Node.isSynthetic]
  have hsplit := filter_append_filter_not hsides
  rw [filter_isSynthetic_arrange] at hsplit
  exact hsplit.symm

namespace Query

variable {maxDepth : Nat} {chain : Chain}

/-- Nodes with a path are reversed as their paths are. -/
theorem filter_not_isSynthetic_arrange_descending (hd : document.WellFormed)
    (h : evaluate maxDepth chain document = .ok ns) (o : OutputForm) :
    (arrange { o with descending := true } ns).filter (fun n => !n.isSynthetic) =
      ((arrange { o with ascending := true, descending := false } ns).filter
        fun n => !n.isSynthetic).reverse := by
  have hlocated : ∀ o : OutputForm, ∀ n ∈ arrange o ns, n.Located document := fun o n hn =>
    evaluate_located hd h n (mem_of_mem_arrange hn)
  rw [filter_not_isSynthetic_eq (hlocated _), filter_not_isSynthetic_eq (hlocated _),
    paths_arrange_descending, List.map_reverse]

/-- **When descending order is the reverse of ascending order.** What an expression finds at paths
stands in reverse; the whole does just when the synthetic nodes that it gives read the same from
both ends. -/
theorem arrange_descending_iff (hd : document.WellFormed)
    (h : evaluate maxDepth chain document = .ok ns) (o : OutputForm) :
    (arrange { o with descending := true } ns).filter (fun n => !n.isSynthetic) =
        ((arrange { o with ascending := true, descending := false } ns).filter
          fun n => !n.isSynthetic).reverse ∧
      (arrange { o with descending := true } ns =
          (arrange { o with ascending := true, descending := false } ns).reverse ↔
        ns.filter Node.isSynthetic = (ns.filter Node.isSynthetic).reverse) := by
  have hpaths := filter_not_isSynthetic_arrange_descending hd h o
  refine ⟨hpaths, ?_⟩
  rw [arrange_ascending_eq, arrange_descending_eq, hpaths, List.reverse_append,
    List.append_left_inj]

/-- The elements of `["ab","c","de"]` and then their lengths are reversed as a whole, since the
lengths two, one and two are the same from both ends. -/
theorem arrange_descending_iff_lengths :
    ∃ ns, evaluate 512 [.union [[.wildElement], [.wildElement, .call (.builtin .length) []]]]
        (.array [.string "ab", .string "c", .string "de"]) = .ok ns ∧ ns.length = 6 ∧
      arrange { descending := true } ns = (arrange { ascending := true } ns).reverse := by
  have hd : (Value.array [.string "ab", .string "c", .string "de"]).WellFormed := by
    simp [Value.WellFormed, Value.WellFormedItems]
  let ns : List Node := [⟨.string "ab", some ⟨[.index 0]⟩⟩, ⟨.string "c", some ⟨[.index 1]⟩⟩,
    ⟨.string "de", some ⟨[.index 2]⟩⟩, .synthetic (.int 2), .synthetic (.int 1),
    .synthetic (.int 2)]
  have h : evaluate 512 [.union [[.wildElement], [.wildElement, .call (.builtin .length) []]]]
      (.array [.string "ab", .string "c", .string "de"]) = .ok ns := rfl
  have hpalindrome : ns.filter Node.isSynthetic = (ns.filter Node.isSynthetic).reverse := rfl
  exact ⟨ns, h, rfl, (arrange_descending_iff hd h {}).2.2 hpalindrome⟩

/-- The lengths of the elements of `["ab","c"]` are two and one in both directions. -/
theorem arrange_descending_keeps_lengths :
    ∃ ns, evaluate 512 [.wildElement, .call (.builtin .length) []]
        (.array [.string "ab", .string "c"]) = .ok ns ∧
      (arrange { ascending := true } ns).map Node.value = [.int 2, .int 1] ∧
      (arrange { descending := true } ns).map Node.value = [.int 2, .int 1] ∧
      arrange { descending := true } ns ≠ (arrange { ascending := true } ns).reverse := by
  have hall : ∀ n ∈ [Node.synthetic (.int 2), Node.synthetic (.int 1)], n.isSynthetic := by
    simp [Node.synthetic, Node.isSynthetic]
  refine ⟨[Node.synthetic (.int 2), Node.synthetic (.int 1)], rfl, ?_⟩
  rw [arrange_of_isSynthetic hall, arrange_of_isSynthetic hall]
  simp [Node.synthetic]

end Query

end JsonPath

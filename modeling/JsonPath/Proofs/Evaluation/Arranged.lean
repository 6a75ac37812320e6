import JsonPath.Proofs.Evaluation.Direction

/-!
# What an arrangement is

An arrangement takes nothing away but repetitions of a path, and moves nothing that the order of
nodes leaves where it is. Nodes that compare equal are either the nodes of one path or the synthetic
ones, so that an ordered list of nodes is determined by these groups and the order inside each. A
sort keeps every group as it is, and dropping repetitions keeps the first node of each path and all
synthetic nodes; neither depends on what the other one did.

* `eq_of_filter_tied` — ordered lists with the same groups are the same.
* `filter_path_distinctNodes` — what is left of the nodes of one path.
* `distinctNodes_sortNodes`, `arrange_arrange` — the two steps in either order, and twice.
* `IsArranged` — how an arrangement relates to the nodes that were arranged.
* `arrange_spec` — arrangements are that; and the paths that an expression selects.
-/

namespace JsonPath

open Std

variable {ns : List Node} {descending : Bool}

/-! ## Ordered lists -/

section Ordered

variable {α : Type} {cmp : α → α → Ordering} [TransCmp cmp] {as bs : List α}

theorem mem_iff_of_filter_tied
    (h : ∀ c, as.filter (fun a => cmp c a == .eq) = bs.filter fun b => cmp c b == .eq) (c : α) :
    c ∈ as ↔ c ∈ bs := by
  have hself : (cmp c c == .eq) = true := beq_iff_eq.2 ReflCmp.compare_self
  have hgroup := congrArg (c ∈ ·) (h c)
  simpa [List.mem_filter, hself] using hgroup

/-- An ordered list is determined by the items that compare equal to each other. -/
theorem eq_of_filter_tied (has : as.Pairwise fun a b => (cmp a b).isLE)
    (hbs : bs.Pairwise fun a b => (cmp a b).isLE)
    (h : ∀ c, as.filter (fun a => cmp c a == .eq) = bs.filter fun b => cmp c b == .eq) :
    as = bs := by
  induction as generalizing bs with
  | nil =>
    refine (List.eq_nil_iff_forall_not_mem.2 fun b hb => ?_).symm
    exact absurd ((mem_iff_of_filter_tied h b).2 hb) List.not_mem_nil
  | cons a as ih =>
    cases bs with
    | nil => exact absurd ((mem_iff_of_filter_tied h a).1 List.mem_cons_self) List.not_mem_nil
    | cons b bs =>
      obtain ⟨ha, hasTail⟩ := List.pairwise_cons.1 has
      obtain ⟨hb, hbsTail⟩ := List.pairwise_cons.1 hbs
      -- Each of the two comes first in a list that has the other one, too.
      have hle : (cmp a b).isLE := by
        rcases List.mem_cons.1 ((mem_iff_of_filter_tied h b).2 List.mem_cons_self) with rfl | hmem
        · exact ReflCmp.isLE_rfl
        · exact ha b hmem
      have hge : (cmp b a).isLE := by
        rcases List.mem_cons.1 ((mem_iff_of_filter_tied h a).1 List.mem_cons_self) with rfl | hmem
        · exact ReflCmp.isLE_rfl
        · exact hb a hmem
      have htied : (cmp a b == .eq) = true := beq_iff_eq.2 (OrientedCmp.isLE_antisymm hle hge)
      have hself : (cmp a a == .eq) = true := beq_iff_eq.2 ReflCmp.compare_self
      have hheads := h a
      simp only [List.filter_cons, hself, htied, if_true] at hheads
      obtain ⟨rfl, -⟩ := List.cons.inj hheads
      refine congrArg (a :: ·) (ih hasTail hbsTail fun c => ?_)
      have hc := h c
      by_cases hca : cmp c a = .eq <;> simpa [hca] using hc

end Ordered

/-! ## Groups of nodes -/

theorem Node.compare_eq_iff {a b : Node} : a.compare b = .eq ↔ a.path = b.path := by
  unfold Node.compare
  cases a.path <;> cases b.path <;> simp [LawfulEqCmp.compare_eq_iff_eq]

/-- Nodes compare equal, in either direction, if they have the same path or none. -/
theorem Node.compareIn_eq_iff {a b : Node} : a.compareIn descending b = .eq ↔ a.path = b.path := by
  cases descending with
  | false => exact Node.compare_eq_iff
  | true => exact Node.compare_eq_iff.trans eq_comm

/-- Sorting keeps the nodes of each path in order. -/
theorem filter_path_sortNodes (o? : Option Path) (descending : Bool) (ns : List Node) :
    (sortNodes descending ns).filter (fun n => n.path == o?) = ns.filter fun n => n.path == o? := by
  refine filter_sortNodes (fun a b ha hb => ?_) ns
  rw [Node.compareIn_eq_iff, beq_iff_eq.1 ha, beq_iff_eq.1 hb]

/-- Of the nodes of one path the first is kept, unless the path was seen before. -/
theorem filter_path_distinctNodes (p : Path) (seen : List Path) (ns : List Node) :
    (distinctNodes seen ns).filter (fun n => n.path == some p) =
      if p ∈ seen then [] else (ns.find? fun n => n.path == some p).toList := by
  induction ns generalizing seen with
  | nil => simp [distinctNodes]
  | cons n ns ih =>
    unfold distinctNodes
    cases hn : n.path with
    | none => simp [hn, ih]
    | some q =>
      by_cases hq : q ∈ seen
      · by_cases hqp : q = p
        · subst hqp
          simp [hq, ih]
        · simp [hn, hq, hqp, ih]
      · by_cases hqp : q = p
        · subst hqp
          simp [hn, hq, ih]
        · simp [hn, hq, hqp, ih, Ne.symm hqp]

/-! ## Both steps -/

/-- Sorting and dropping repetitions come to the same in either order. -/
theorem distinctNodes_sortNodes (descending : Bool) (ns : List Node) :
    distinctNodes [] (sortNodes descending ns) = sortNodes descending (distinctNodes [] ns) := by
  refine eq_of_filter_tied
    ((pairwise_sortNodes descending ns).sublist (distinctNodes_sublist [] _))
    (pairwise_sortNodes descending _) fun c => ?_
  have htied : (fun n => c.compareIn descending n == .eq) = fun n : Node => n.path == c.path := by
    funext n
    rw [Bool.eq_iff_iff, beq_iff_eq, beq_iff_eq, Node.compareIn_eq_iff, eq_comm]
  rw [htied, filter_path_sortNodes]
  cases c.path with
  | some p =>
    rw [filter_path_distinctNodes, filter_path_distinctNodes, ← List.head?_filter,
      ← List.head?_filter, filter_path_sortNodes]
  | none =>
    have hsynthetic : (fun n : Node => n.path == none) = Node.isSynthetic := by
      funext n
      cases h : n.path <;> simp [Node.isSynthetic, h]
    rw [hsynthetic, filter_isSynthetic_distinctNodes, filter_isSynthetic_distinctNodes,
      filter_isSynthetic_sortNodes]

theorem sortNodes_eq_self (h : ns.Pairwise fun a b => (a.compareIn descending b).isLE) :
    sortNodes descending ns = ns := by
  rw [sortNodes_eq_mergeSort]
  exact List.mergeSort_of_pairwise h

theorem distinctNodes_distinctNodes (ns : List Node) :
    distinctNodes [] (distinctNodes [] ns) = distinctNodes [] ns :=
  distinctNodes_eq_self (nodup_paths_distinctNodes [] ns) fun _ _ => List.not_mem_nil

/-- The nodes in the order that the options ask for. -/
def inOrder (o : OutputForm) (ns : List Node) : List Node :=
  if o.descending || o.ascending then sortNodes o.descending ns else ns

theorem arrange_eq (o : OutputForm) (ns : List Node) :
    arrange o ns = if o.distinct then distinctNodes [] (inOrder o ns) else inOrder o ns := rfl

theorem inOrder_perm (o : OutputForm) (ns : List Node) : (inOrder o ns).Perm ns := by
  unfold inOrder
  split
  · exact sortNodes_perm o.descending ns
  · exact List.Perm.refl ns

theorem filter_path_inOrder (o : OutputForm) (o? : Option Path) (ns : List Node) :
    (inOrder o ns).filter (fun n => n.path == o?) = ns.filter fun n => n.path == o? := by
  unfold inOrder
  split
  · exact filter_path_sortNodes o? o.descending ns
  · rfl

/-- What has been arranged is in order. -/
theorem inOrder_arrange (o : OutputForm) (ns : List Node) :
    inOrder o (arrange o ns) = arrange o ns := by
  unfold inOrder
  split
  · rename_i h
    exact sortNodes_eq_self (pairwise_arrange h ns)
  · rfl

theorem arrange_arrange (o : OutputForm) (ns : List Node) :
    arrange o (arrange o ns) = arrange o ns := by
  rw [arrange_eq o (arrange o ns), inOrder_arrange]
  split
  · rename_i h
    rw [arrange_eq, if_pos h, distinctNodes_distinctNodes]
  · rfl

/-! ## Arrangements -/

/-- Whether a node may stand at or below another one: paths are ordered, and synthetic nodes are
above all paths. -/
inductive Node.AtMost : Node → Node → Prop where
  | synthetic {a b : Node} (hb : b.path = none) : AtMost a b
  | path {a b : Node} {p q : Path} (ha : a.path = some p) (hb : b.path = some q)
    (h : (p.compare q).isLE) : AtMost a b

theorem Node.atMost_iff {a b : Node} : a.AtMost b ↔ (a.compare b).isLE := by
  constructor
  · rintro (hb | ⟨ha, hb, h⟩)
    · cases ha : a.path <;> simp [Node.compare, ha, hb]
    · simpa [Node.compare, ha, hb] using h
  · intro h
    cases hb : b.path with
    | none => exact .synthetic hb
    | some q =>
      cases ha : a.path with
      | none => simp [Node.compare, ha, hb] at h
      | some p => exact .path ha hb (by simpa [Node.compare, ha, hb] using h)

/-- The nodes `ms` are the nodes `ns` as the options ask for them. -/
structure IsArranged (o : OutputForm) (ns ms : List Node) : Prop where
  /-- A sort puts paths in the direction asked for, and synthetic nodes above them. -/
  sorted : o.descending || o.ascending →
    ms.Pairwise fun a b => if o.descending then b.AtMost a else a.AtMost b
  /-- Without a sort nodes stay in order. -/
  unsorted : (o.descending || o.ascending) = false → ms.Sublist ns
  /-- Unless repetitions are dropped, nothing is lost, ... -/
  perm : o.distinct = false → ms.Perm ns
  /-- ... and nodes that compare equal stay in order. -/
  stable : o.distinct = false → ∀ a : Node,
    ms.filter (fun b => a.compare b == .eq) = ns.filter fun b => a.compare b == .eq
  /-- Otherwise there is one node for each path, the first of them, ... -/
  first : o.distinct → ∀ p : Path,
    ms.filter (fun n => n.path == some p) = (ns.find? fun n => n.path == some p).toList
  /-- ... and all synthetic nodes in order. -/
  synthetic : o.distinct → ms.filter Node.isSynthetic = ns.filter Node.isSynthetic

theorem isArranged_arrange (o : OutputForm) (ns : List Node) : IsArranged o ns (arrange o ns) where
  sorted h := (pairwise_arrange h ns).imp fun {a b} hab => by
    cases hd : o.descending <;> simpa [hd, Node.compareIn, Node.atMost_iff] using hab
  unsorted h := by
    have hself : inOrder o ns = ns := if_neg (by simp [h])
    rw [arrange_eq, hself]
    split
    · exact distinctNodes_sublist [] ns
    · exact List.Sublist.refl ns
  perm h := by
    rw [arrange_eq, if_neg (by simp [h])]
    exact inOrder_perm o ns
  stable h a := by
    have htied : (fun b => a.compare b == .eq) = fun b : Node => b.path == a.path := by
      funext b
      rw [Bool.eq_iff_iff, beq_iff_eq, beq_iff_eq, Node.compare_eq_iff, eq_comm]
    rw [arrange_eq, if_neg (by simp [h]), htied, filter_path_inOrder]
  first h p := by
    rw [arrange_eq, if_pos h, filter_path_distinctNodes, if_neg List.not_mem_nil,
      ← List.head?_filter, ← List.head?_filter, filter_path_inOrder]
  synthetic _ := filter_isSynthetic_arrange o ns

namespace Expression

/-- The paths selected are the one ascending list of the paths of the nodes found. -/
theorem selectPaths_eq_ok_iff (e : Expression) (d : Value) (ps : List Path) :
    e.selectPaths d = .ok ps ↔ ∃ ns, e.evaluate d = .ok ns ∧
      ps.Pairwise (fun p q => p.compare q = .lt) ∧ ∀ p, p ∈ ps ↔ ∃ n ∈ ns, n.path = some p := by
  constructor
  · intro h
    cases hns : e.evaluate d with
    | error fault => simp [selectPaths, hns, Except.map] at h
    | ok ns => exact ⟨ns, rfl, pairwise_of_selectPaths hns h, fun p => mem_of_selectPaths hns h⟩
  · rintro ⟨ns, hns, hsorted, hmem⟩
    have hps := selectPaths_eq hns
    have hnodup : ∀ {qs : List Path}, qs.Pairwise (fun p q => p.compare q = .lt) → qs.Nodup :=
      fun h => List.nodup_reverse.1 (Path.nodup_of_pairwise (List.pairwise_reverse.2 h))
    have hperm : List.Perm _ ps := (List.perm_ext_iff_of_nodup
      (hnodup (pairwise_of_selectPaths hns hps)) (hnodup hsorted)).2 fun p => by
        rw [mem_of_selectPaths hns hps, hmem]
    rw [hps]
    refine congrArg Except.ok (hperm.eq_of_pairwise (fun p q _ _ hpq hqp => ?_)
      (pairwise_of_selectPaths hns hps) hsorted)
    have hswap : p.compare q = (q.compare p).swap := OrientedCmp.eq_swap
    rw [hswap, hqp] at hpq
    contradiction

theorem selectPaths_eq_error_iff (e : Expression) (d : Value) (fault : EvalError) :
    e.selectPaths d = .error fault ↔ e.evaluate d = .error fault := by
  unfold selectPaths
  cases e.evaluate d <;> simp [Except.map]

end Expression

/-- **Arrangements sort and drop repetitions, and nothing else.** Whatever the nodes and the
options, an arrangement has the order asked for, keeps what compares equal in order, and loses
nothing but further nodes of one path. It makes no difference which of the two steps is taken first,
and nothing is left to do a second time. The paths that an expression selects are in strictly
ascending order, and they are those of the nodes that it finds. -/
theorem arrange_spec (o : OutputForm) (ns : List Node) :
    IsArranged o ns (arrange o ns) ∧
      (∀ descending, distinctNodes [] (sortNodes descending ns) =
        sortNodes descending (distinctNodes [] ns)) ∧
      arrange o (arrange o ns) = arrange o ns ∧
      ∀ (e : Expression) (d : Value),
        (∀ ps, e.selectPaths d = .ok ps ↔ ∃ found, e.evaluate d = .ok found ∧
          ps.Pairwise (fun p q => p.compare q = .lt) ∧
            ∀ p, p ∈ ps ↔ ∃ n ∈ found, n.path = some p) ∧
        ∀ fault, e.selectPaths d = .error fault ↔ e.evaluate d = .error fault :=
  ⟨isArranged_arrange o ns, fun descending => distinctNodes_sortNodes descending ns,
    arrange_arrange o ns, fun e d =>
      ⟨e.selectPaths_eq_ok_iff d, e.selectPaths_eq_error_iff d⟩⟩

end JsonPath

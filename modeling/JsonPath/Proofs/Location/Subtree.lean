import Mathlib
import JsonPath.Proofs.Location.Order

/-!
# Subtrees in the order of paths

The places inside a part of a document are those whose paths extend the path to that part. If one
path comes before another and the other does not extend it, then they part at some step, and that
step decides; how each of them goes on makes no difference. So all places inside one part are on the
same side of all places inside another one, and the paths to them stand together, right after the
path to the part itself.

Changes are made in descending order because of this. When an element of an array has had its turn,
nothing inside of it, and nothing inside an element after it, is still to come.

* `compareSteps_append_append` — the step at which two paths part decides.
* `Before.extend`, `before_of_extends` — extensions of two paths, and of one.
* `order_keeps_subtrees` — the laws of the order, and what they mean for a descending list.
-/

namespace JsonPath.Path

open Std

/-- Whether a path comes before another one. -/
def Before (p q : Path) : Prop := p.compare q = .lt

/-- Whether a path leads to the place of another path or further into it. -/
def Extends (q p : Path) : Prop := p.steps <+: q.steps

instance (p q : Path) : Decidable (p.Before q) := inferInstanceAs (Decidable (_ = _))

instance (p q : Path) : Decidable (q.Extends p) := inferInstanceAs (Decidable (_ <+: _))

/-- Whether the paths of a list come from the last to the first; a path may be repeated. -/
def Descending (ps : List Path) : Prop := ps.Pairwise fun p q => ¬p.Before q

instance (ps : List Path) : Decidable (Descending ps) :=
  inferInstanceAs (Decidable (ps.Pairwise _))

variable {p q r p' q' : Path} {ss ts : List Step} {i j : Nat} {ps front rest : List Path}

/-! ## The order -/

theorem compare_eq_iff : p.compare q = .eq ↔ p = q := LawfulEqCmp.compare_eq_iff_eq

theorem compare_swap (p q : Path) : q.compare p = (p.compare q).swap := OrientedCmp.eq_swap

theorem isStrictTotalOrder_before : IsStrictTotalOrder Path Before where
  irrefl p h := by
    have hself : p.compare p = .eq := ReflCmp.compare_self
    rw [Before, hself] at h
    contradiction
  trans _ _ _ hpq hqr := TransCmp.lt_trans hpq hqr
  trichotomous p q hpq hqp := by
    rw [Before, compare_swap] at hqp
    rw [← compare_eq_iff]
    cases h : p.compare q with
    | lt => exact absurd h hpq
    | eq => rfl
    | gt =>
      rw [h] at hqp
      exact absurd rfl hqp

/-! ## Extensions -/

theorem Extends.refl (p : Path) : p.Extends p := List.prefix_rfl

/-- Steps in common at the beginning are passed over. -/
theorem compareSteps_append_left (rs ss ts : List Step) :
    compareSteps (rs ++ ss) (rs ++ ts) = compareSteps ss ts := by
  induction rs with
  | nil => rfl
  | cons r rs ih => simpa using ih

/-- Steps that come before others, and are not the beginning of them, do so however both go on. -/
theorem compareSteps_append_append (h : compareSteps ss ts = .lt) (hnot : ¬ss <+: ts)
    (as bs : List Step) : compareSteps (ss ++ as) (ts ++ bs) = .lt := by
  induction ss generalizing ts with
  | nil => exact absurd List.nil_prefix hnot
  | cons s ss ih =>
    cases ts with
    | nil => contradiction
    | cons t ts =>
      simp only [List.cons_append, compareSteps, Ordering.then_eq_lt] at h ⊢
      rcases h with hlt | ⟨heq, hlt⟩
      · exact .inl hlt
      · -- the steps are the same so far, so the lists part further on
        obtain rfl : s = t := LawfulEqCmp.eq_of_compare heq
        have hlater : ¬ss <+: ts := by
          intro hprefix
          exact hnot (List.cons_prefix_cons.2 ⟨rfl, hprefix⟩)
        exact .inr ⟨heq, ih hlt hlater⟩

/-- Whatever is inside one place comes before whatever is inside another one. -/
theorem Before.extend (h : p.Before q) (hnot : ¬q.Extends p) (hp : p'.Extends p)
    (hq : q'.Extends q) : p'.Before q' := by
  obtain ⟨as, hp⟩ := hp
  obtain ⟨bs, hq⟩ := hq
  have hsteps := compareSteps_append_append h hnot as bs
  rwa [hp, hq] at hsteps

/-- A place comes before all that is inside of it. -/
theorem before_of_extends (h : q.Extends p) (hne : q ≠ p) : p.Before q := by
  have hle : (p.compare q).isLE := compareSteps_isLE_of_prefix h
  rcases Ordering.isLE_iff_eq_lt_or_eq_eq.1 hle with hlt | heq
  · exact hlt
  · exact absurd (compare_eq_iff.1 heq).symm hne

/-! ## Elements of one array -/

theorem before_childIndex (r : Path) (h : i < j) : (r.childIndex i).Before (r.childIndex j) := by
  have hij : compareSteps [.index i] [.index j] = .lt := by
    show (Ord.compare i j).then .eq = .lt
    rw [Nat.compare_eq_lt.2 h]
    rfl
  exact (compareSteps_append_left r.steps _ _).trans hij

theorem not_extends_childIndex (r : Path) (h : i ≠ j) :
    ¬(r.childIndex j).Extends (r.childIndex i) := by
  intro hprefix
  have hsingle : [Step.index i] <+: [.index j] := (List.prefix_append_right_inj r.steps).1 hprefix
  exact h (by simpa using hsingle)

/-- What is inside an element or a later one, and does not come after the element, is the element
itself. -/
theorem eq_childIndex_of_extends (hij : i ≤ j) (hext : q.Extends (r.childIndex j))
    (hnot : ¬(r.childIndex i).Before q) : q = r.childIndex i := by
  by_cases hself : q = r.childIndex i
  · exact hself
  · refine absurd ?_ hnot
    rcases Nat.lt_or_eq_of_le hij with hlt | rfl
    · exact (before_childIndex r hlt).extend (not_extends_childIndex r (Nat.ne_of_lt hlt)) (.refl _) hext
    · exact before_of_extends hext hself

/-! ## Descending lists -/

/-- None of the paths after one in a descending list comes after it in the order. -/
theorem Descending.not_before (h : Descending (front ++ p :: rest)) (hq : q ∈ rest) :
    ¬p.Before q :=
  List.rel_of_pairwise_cons (List.pairwise_append.1 h).2.1 hq

theorem descending_descendingPaths (ps : List Path) : Descending (descendingPaths ps) := by
  refine (descendingPaths_pairwise ps).imp fun {p q} hlt hbefore => ?_
  have := isStrictTotalOrder_before
  exact asymm_of Before hlt hbefore

/-- In a list without repetitions a path does not come again. -/
theorem notMem_of_descendingPaths (h : descendingPaths ps = front ++ p :: rest) : p ∉ rest := by
  have hnodup := nodup_of_pairwise (descendingPaths_pairwise ps)
  rw [h] at hnodup
  exact (List.nodup_cons.1 (List.nodup_append.1 hnodup).2.1).1

/-- **The order keeps subtrees together.** It is a strict total order that agrees with equality. A
path comes before all that extend it; and if one path comes before another that does not extend it,
then all extensions of the one come before all extensions of the other. So in a list of paths in
descending order, after an element of an array there is no path into this element or into a later
one, except that the element may be repeated; and in the order in which places are removed there is
not even that. -/
theorem order_keeps_subtrees :
    IsStrictTotalOrder Path Before ∧
    (∀ p q : Path, p.compare q = .eq ↔ p = q) ∧
    (∀ p q : Path, q.compare p = (p.compare q).swap) ∧
    (∀ p q : Path, q.Extends p → q ≠ p → p.Before q) ∧
    (∀ p q : Path, p.Before q → ¬q.Extends p →
      ∀ p' q' : Path, p'.Extends p → q'.Extends q → p'.Before q') ∧
    (∀ (front rest : List Path) (r : Path) (i : Nat), Descending (front ++ r.childIndex i :: rest) →
      ∀ q ∈ rest, ∀ j ≥ i, q.Extends (r.childIndex j) → q = r.childIndex i) ∧
    ∀ (ps front rest : List Path) (r : Path) (i : Nat),
      descendingPaths ps = front ++ r.childIndex i :: rest →
        ∀ q ∈ rest, ∀ j ≥ i, ¬q.Extends (r.childIndex j) := by
  have hlist (front rest : List Path) (r : Path) (i : Nat)
      (h : Descending (front ++ r.childIndex i :: rest)) (q : Path) (hq : q ∈ rest) (j : Nat)
      (hij : j ≥ i) (hext : q.Extends (r.childIndex j)) : q = r.childIndex i :=
    eq_childIndex_of_extends hij hext (h.not_before hq)
  refine ⟨isStrictTotalOrder_before, fun _ _ => compare_eq_iff, compare_swap,
    fun _ _ => before_of_extends, fun _ _ h hnot _ _ => h.extend hnot, hlist, ?_⟩
  intro ps front rest r i hps q hq j hij hext
  have hdescending := descending_descendingPaths ps
  rw [hps] at hdescending
  obtain rfl := hlist front rest r i hdescending q hq j hij hext
  exact notMem_of_descendingPaths hps hq

/-- What is inside the first element comes before what is inside the second one; and after the
second element, which was given twice, only the first one is to come. -/
theorem order_keeps_subtrees_elements :
    Before ⟨[.index 0]⟩ ⟨[.index 0, .name "a"]⟩ ∧
    Before ⟨[.index 0, .name "a"]⟩ ⟨[.index 1, .index 0]⟩ ∧
    (∀ q ∈ ([⟨[.index 1]⟩, ⟨[.index 0, .name "a"]⟩] : List Path),
      q.Extends (root.childIndex 1) → q = root.childIndex 1) ∧
    ∀ q ∈ ([⟨[.index 0, .name "a"]⟩] : List Path), ¬q.Extends (root.childIndex 2) := by
  obtain ⟨-, -, -, hextends, hparts, hdescending, hremoval⟩ := order_keeps_subtrees
  refine ⟨?_, ?_, fun q hq => ?_, fun q hq => ?_⟩
  · exact hextends _ _ (by decide) (by decide)
  · exact hparts ⟨[.index 0]⟩ ⟨[.index 1]⟩ rfl (by decide) _ _ (by decide) (by decide)
  · have hlist : Descending ([⟨[.index 1, .index 0]⟩] ++ root.childIndex 1 ::
        [⟨[.index 1]⟩, ⟨[.index 0, .name "a"]⟩]) := by decide
    exact hdescending _ _ root 1 hlist q hq 1 (Nat.le_refl 1)
  · have hlist : descendingPaths [⟨[.index 1]⟩, ⟨[.index 0, .name "a"]⟩, ⟨[.index 1, .index 0]⟩,
        ⟨[.index 1]⟩] = [⟨[.index 1, .index 0]⟩] ++ root.childIndex 1 ::
          [⟨[.index 0, .name "a"]⟩] := by cbv
    exact hremoval _ _ _ root 1 hlist q hq 2 (by decide)

end JsonPath.Path

import Mathlib.Data.List.Nodup
import JsonPath.Json.Compare
import JsonPath.Proofs.Json.Parts

/-!
# Equality by places

Two well-formed values are equal, up to the order of members, if something stands at the same places
in both and their leaves are equal. The kind of a container need not be looked at: if it has parts,
the steps to them tell it, and if it has none, it is a leaf.

* `Value.sameMembers_iff` — equality of members, looked up by name.
* `Value.Agrees` — the same places, and equal leaves.
* `Value.same_of_agrees` — values that agree are equal.
-/

namespace JsonPath.Value

variable {v d w x : Value} {s : Step}

/-! ## Equality of items and members -/

theorem sameItems_iff {items others : List Value} :
    sameItems items others = true ↔
      items.length = others.length ∧
        ∀ (i : Nat) (v w : Value), items[i]? = some v → others[i]? = some w → v.same w = true := by
  induction items generalizing others with
  | nil => cases others <;> simp [sameItems]
  | cons v items ih =>
    cases others with
    | nil => simp [sameItems]
    | cons w others =>
      rw [sameItems, Bool.and_eq_true, ih]
      constructor
      · rintro ⟨hfirst, hlength, hrest⟩
        refine ⟨congrArg Nat.succ hlength, fun i a b ha hb => ?_⟩
        cases i with
        | zero =>
          obtain rfl : v = a := Option.some.inj ha
          obtain rfl : w = b := Option.some.inj hb
          exact hfirst
        | succ i => exact hrest i a b ha hb
      · rintro ⟨hlength, hall⟩
        exact ⟨hall 0 v w rfl rfl, Nat.succ.inj hlength, fun i => hall (i + 1)⟩

theorem sameMembers_iff {members others : List (String × Value)} :
    sameMembers members others = true ↔
      ∀ m ∈ members, ∃ w, others.lookup m.1 = some w ∧ m.2.same w = true := by
  induction members with
  | nil => simp [sameMembers]
  | cons m members ih =>
    rw [sameMembers, Bool.and_eq_true, ih, List.forall_mem_cons]
    cases others.lookup m.1 <;> simp

/-- What equals a value without parts has none either. -/
theorem parts_eq_nil_of_same (h : v.same w = true) (hw : w.parts = []) : v.parts = [] := by
  cases w with
  | array items =>
    obtain rfl : items = [] := by simpa [parts] using hw
    cases v with
    | array others =>
      have hlength := (sameItems_iff.1 h).1
      obtain rfl : others = [] := List.length_eq_zero_iff.1 hlength
      rfl
    | _ => contradiction
  | object members =>
    obtain rfl : members = [] := by simpa [parts] using hw
    cases v with
    | object others =>
      have hlength := (Bool.and_eq_true_iff.1 h).1
      obtain rfl : others = [] := by simpa using hlength
      rfl
    | _ => contradiction
  | null | bool | float | int | string =>
    cases v <;> first | rfl | contradiction

/-! ## Values that agree -/

/-- In both values something stands at the same places, and where the second one has a leaf the
first one has an equal value. -/
structure Agrees (v d : Value) : Prop where
  isSome_iff : ∀ ss : List Step, (∀ s ∈ ss, s.IsPlain) →
    ((Path.follow ss v).isSome ↔ (Path.follow ss d).isSome)
  leaves : ∀ ss w, (∀ s ∈ ss, s.IsPlain) → Path.follow ss d = some w → w.parts = [] →
    ∃ y, Path.follow ss v = some y ∧ y.same w = true

namespace Agrees

theorem isSome_get?_iff (h : Agrees v d) (hs : s.IsPlain) :
    (s.get? v).isSome ↔ (s.get? d).isSome := by
  have hplain : ∀ t ∈ [s], t.IsPlain := by simpa using hs
  have hstep := h.isSome_iff [s] hplain
  simp only [Path.follow] at hstep
  cases hv : s.get? v <;> cases hd : s.get? d <;> simp_all

/-- Parts at the same step agree. -/
theorem of_get? (h : Agrees v d) (hs : s.IsPlain) (hx : s.get? v = some x)
    (hw : s.get? d = some w) : Agrees x w where
  isSome_iff ss hss := by
    have hplain : ∀ t ∈ s :: ss, t.IsPlain := List.forall_mem_cons.2 ⟨hs, hss⟩
    simpa [Path.follow, hx, hw] using h.isSome_iff (s :: ss) hplain
  leaves ss y hss hy hparts := by
    have hplain : ∀ t ∈ s :: ss, t.IsPlain := List.forall_mem_cons.2 ⟨hs, hss⟩
    have hfollow : Path.follow (s :: ss) d = some y := by rwa [Path.follow, hw]
    simpa [Path.follow, hx] using h.leaves (s :: ss) y hplain hfollow hparts

end Agrees

/-- **Equality by places.** Well-formed values that agree are equal up to the order of members. -/
theorem same_of_agrees (hv : v.WellFormed) (hd : d.WellFormed) (h : Agrees v d) :
    v.same d = true := by
  induction d using inductionOnParts generalizing v with
  | step d ih =>
    by_cases hparts : d.parts = []
    · obtain ⟨y, hy, hsame⟩ := h.leaves [] d (by simp) rfl hparts
      obtain rfl : v = y := Option.some.inj hy
      exact hsame
    · -- Parts at the same step are equal by the induction hypothesis.
      have hpart : ∀ (s : Step) (x w : Value), s.IsPlain → s.get? v = some x →
          s.get? d = some w → x.same w = true := fun s x w hs hx hw =>
        ih s w (mem_parts_of_get? hs hw) (hv.of_get? hx) (hd.of_get? hw) (h.of_get? hs hx hw)
      obtain ⟨⟨s, w⟩, rest, hcons⟩ := List.exists_cons_of_ne_nil hparts
      obtain ⟨hs, hw, -⟩ := hd.of_mem_parts (s := s) (w := w) (by simp [hcons])
      obtain ⟨x, hx⟩ := Option.isSome_iff_exists.1 ((h.isSome_get?_iff hs).2 (by simp [hw]))
      cases s with
      | root => exact absurd hs Step.not_isPlain_root
      | index i =>
        obtain ⟨items, rfl, -⟩ := Step.get?_index_eq_some.1 hw
        obtain ⟨others, rfl, -⟩ := Step.get?_index_eq_some.1 hx
        refine sameItems_iff.2 ⟨?_, fun k => (hpart (.index k) · · trivial)⟩
        have hindex : ∀ k : Nat, k < others.length ↔ k < items.length := fun k => by
          simpa [Step.get?, element?, elements] using h.isSome_get?_iff (Step.isPlain_index k)
        exact Nat.le_antisymm (Nat.not_lt.1 fun hlt => Nat.lt_irrefl _ ((hindex _).1 hlt))
          (Nat.not_lt.1 fun hlt => Nat.lt_irrefl _ ((hindex _).2 hlt))
      | name n =>
        obtain ⟨members, rfl, -⟩ := Step.get?_name_eq_some.1 hw
        obtain ⟨others, rfl, -⟩ := Step.get?_name_eq_some.1 hx
        have hmem : ∀ name, name ∈ others.map Prod.fst ↔ name ∈ members.map Prod.fst := by
          intro name
          simpa [Step.get?, member?, Value.members] using
            h.isSome_get?_iff (Step.isPlain_name name)
        have hperm := (List.perm_ext_iff_of_nodup (wellFormed_object.1 hv).1
          (wellFormed_object.1 hd).1).2 hmem
        have hlength : others.length = members.length := by simpa using hperm.length_eq
        refine Bool.and_eq_true_iff.2 ⟨beq_iff_eq.2 hlength, sameMembers_iff.2 fun m hm => ?_⟩
        have hother : (Step.name m.1).get? (object others) = some m.2 :=
          Members.lookup_of_mem (wellFormed_object.1 hv).1 hm
        obtain ⟨w, hw⟩ := Option.isSome_iff_exists.1
          ((h.isSome_get?_iff (Step.isPlain_name m.1)).1 (Option.isSome_of_eq_some hother))
        exact ⟨w, hw, hpart (.name m.1) m.2 w trivial hother hw⟩

end JsonPath.Value

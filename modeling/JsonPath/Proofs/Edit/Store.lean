import JsonPath.Proofs.Json.Parts
import JsonPath.Edit.Change

/-!
# When a failed store leaves its traces

A store that is asked to create what is missing makes it step by step, from above, and may then be
refused further on. What it has made so far stays. This happens in one case only: the first part
that is missing on the way can be made, but for one of the positions after it memory has no room. A
new container takes every other step, since it is made for that step, and before anything is new
there is nothing to leave behind.

* `Path.StopsHalfway` — the case where something new is left behind.
* `storeSteps_container` — into a new container every step leads that arrays have room for.
* `storeSteps_fails_changed_iff` — a store along some steps fails and leaves traces in this case
  only.
-/

namespace JsonPath

variable {s t : Step} {v w new : Value} {create : Bool}

/-! ## Parts that are there -/

namespace Step

/-- A part that has been put somewhere is there. -/
theorem get?_put (hs : s.IsPlain) (hw : s.get? v = some w) (x : Value) :
    s.get? (s.put x v) = some x := by
  cases s with
  | root => exact absurd hs not_isPlain_root
  | index i =>
    obtain ⟨items, rfl, hi⟩ := get?_index_eq_some.1 hw
    exact List.getElem?_set_self (List.getElem?_eq_some_iff.1 hi).1
  | name name =>
    obtain ⟨members, rfl, -⟩ := get?_name_eq_some.1 hw
    exact Members.lookup_insert_self name x members

/-- Only putting something else in the place of a part changes the value. -/
theorem put_eq_self_iff (hs : s.IsPlain) (hw : s.get? v = some w) {x : Value} :
    s.put x v = v ↔ x = w := by
  constructor
  · intro h
    have hget := get?_put hs hw x
    rw [h, hw] at hget
    exact (Option.some.inj hget).symm
  · rintro rfl
    cases s with
    | root => exact absurd hs not_isPlain_root
    | index i =>
      obtain ⟨items, rfl, hx⟩ := get?_index_eq_some.1 hw
      obtain ⟨hi, rfl⟩ := List.getElem?_eq_some_iff.1 hx
      exact congrArg Value.array (List.set_getElem_self hi)
    | name name =>
      obtain ⟨members, rfl, hx⟩ := get?_name_eq_some.1 hw
      exact congrArg Value.object (Members.insert_of_lookup hx)

/-- There is nothing yet in a new container. -/
theorem get?_container (hs : s.IsPlain) : s.get? s.container = none := by
  cases s with
  | root => exact absurd hs not_isPlain_root
  | index | name => rfl

end Step

/-! ## Parts that can be made -/

section Storing

variable [Memory]

namespace Step

/-- Whether a part can be made where the step leads. -/
def Fits (s : Step) (v : Value) : Prop :=
  match s, v with
  | .index i, .array _ => i < maxItems
  | .name _, .object _ => True
  | _, _ => False

/-- A part that is there is left as it is. -/
theorem provide?_of_get? (hs : s.IsPlain) (hw : s.get? v = some w) (new : Value) :
    s.provide? new v = some v := by
  cases s with
  | root => exact absurd hs not_isPlain_root
  | index i =>
    obtain ⟨items, rfl, hi⟩ := get?_index_eq_some.1 hw
    exact if_pos (List.getElem?_eq_some_iff.1 hi).1
  | name name =>
    obtain ⟨members, rfl, hm⟩ := get?_name_eq_some.1 hw
    exact if_pos (Option.isSome_iff_exists.2 ⟨w, hm⟩)

/-- A part that is missing is made where it fits. -/
theorem provide?_of_fits (hw : s.get? v = none) (hf : s.Fits v) (new : Value) :
    ∃ u, s.provide? new v = some u ∧ s.get? u = some new := by
  cases s with
  | root => exact absurd hf id
  | index i =>
    cases v with
    | array items =>
      have hi : items.length ≤ i := List.getElem?_eq_none_iff.1 (show items[i]? = none from hw)
      have hmax : i < maxItems := hf
      have hlen : (items ++ List.replicate (i - items.length) Value.null).length = i := by
        rw [List.length_append, List.length_replicate]
        omega
      refine ⟨.array (items ++ List.replicate (i - items.length) .null ++ [new]), ?_, ?_⟩
      · rw [provide?, if_neg (Nat.not_lt.2 hi), padTo?, if_pos hmax, Option.map_some]
      · change (items ++ List.replicate (i - items.length) Value.null ++ [new])[i]? = some new
        rw [List.getElem?_append_right (Nat.le_of_eq hlen), hlen, Nat.sub_self]
        rfl
    | _ => exact absurd hf id
  | name name =>
    cases v with
    | object members =>
      have hlookup : members.lookup name = none := hw
      refine ⟨.object (members ++ [(name, new)]), ?_, ?_⟩
      · rw [provide?, if_neg (by simp [hlookup])]
      · change (members ++ [(name, new)]).lookup name = some new
        simp [List.lookup_append, hlookup]
    | _ => exact absurd hf id

theorem provide?_of_not_fits (hs : s.IsPlain) (hw : s.get? v = none) (hf : ¬ s.Fits v)
    (new : Value) : s.provide? new v = none := by
  cases s with
  | root => exact absurd hs not_isPlain_root
  | index i =>
    cases v with
    | array items =>
      have hi : items.length ≤ i := List.getElem?_eq_none_iff.1 (show items[i]? = none from hw)
      have hmax : ¬ i < maxItems := hf
      rw [provide?, if_neg (Nat.not_lt.2 hi), padTo?, if_neg hmax, Option.map_none]
    | _ => rfl
  | name name =>
    cases v with
    | object members => exact absurd trivial hf
    | _ => rfl

/-- In a new container the part that it is made for can be made, unless memory has no room for
it. -/
theorem fits_container_iff (hs : s.IsPlain) :
    s.Fits s.container ↔ ∀ i, s = .index i → i < maxItems := by
  cases s with
  | root => exact absurd hs not_isPlain_root
  | index | name => simp [Fits, container]

end Step

namespace Path

/-! ## Storing along some steps -/

/-- Through a part that is there, storing goes on. -/
theorem storeSteps_of_get? (hs : s.IsPlain) (hw : s.get? v = some w) (rest : List Step) :
    storeSteps create new (s :: t :: rest) v =
      (s.put (storeSteps create new (t :: rest) w).1 v,
        (storeSteps create new (t :: rest) w).2) := by
  cases create <;> simp [storeSteps, Step.provide?_of_get? hs hw, hw]

/-- Through a part that can be made, storing goes on in a new container. -/
theorem storeSteps_of_fits (new : Value) (hw : s.get? v = none) (hf : s.Fits v) (t : Step)
    (rest : List Step) :
    ∃ u, s.get? u = some t.container ∧ storeSteps true new (s :: t :: rest) v =
      (s.put (storeSteps true new (t :: rest) t.container).1 u,
        (storeSteps true new (t :: rest) t.container).2) := by
  obtain ⟨u, hu, hget⟩ := Step.provide?_of_fits hw hf t.container
  exact ⟨u, hget, by simp [storeSteps, hu, hget]⟩

/-- A store that cannot begin leaves the value as it is. -/
theorem storeSteps_of_not_fits (hs : s.IsPlain) (hw : s.get? v = none)
    (hf : create = true → ¬ s.Fits v) (rest : List Step) :
    storeSteps create new (s :: t :: rest) v = (v, false) := by
  cases create with
  | false => simp [storeSteps, hw]
  | true => simp [storeSteps, Step.provide?_of_not_fits hs hw (hf rfl)]

theorem storeLast_of_get? (hs : s.IsPlain) (hw : s.get? v = some w) :
    storeLast create new s v = (s.put new v, true) := by
  cases s with
  | root => exact absurd hs Step.not_isPlain_root
  | index | name => simp [storeLast, hw]

theorem storeLast_of_fits (hw : s.get? v = none) (hf : s.Fits v) :
    (storeLast true new s v).2 = true := by
  obtain ⟨u, hu, -⟩ := Step.provide?_of_fits hw hf new
  cases s with
  | root => exact absurd hf id
  | index | name => simp [storeLast, hw, hu]

theorem storeLast_of_not_fits (hs : s.IsPlain) (hw : s.get? v = none)
    (hf : create = true → ¬ s.Fits v) : storeLast create new s v = (v, false) := by
  cases s with
  | root => rfl
  | index | name =>
    cases create with
    | false => simp [storeLast, hw]
    | true => simp [storeLast, hw, Step.provide?_of_not_fits hs hw (hf rfl)]

/-- At a single step a store either succeeds or leaves the value as it is. -/
theorem storeLast_eq_of_fails (hs : s.IsPlain) (h : (storeLast create new s v).2 = false) :
    (storeLast create new s v).1 = v := by
  cases hw : s.get? v with
  | some w =>
    rw [storeLast_of_get? hs hw] at h
    contradiction
  | none =>
    by_cases hf : create = true ∧ s.Fits v
    · obtain ⟨rfl, hf⟩ := hf
      rw [storeLast_of_fits hw hf] at h
      contradiction
    · rw [storeLast_of_not_fits hs hw fun hc hfits => hf ⟨hc, hfits⟩]

/-- Into a new container a store goes just when memory has room for every position. -/
theorem storeSteps_container (new : Value) {rest : List Step} : ∀ {s : Step},
    (∀ t ∈ s :: rest, t.IsPlain) →
      ((storeSteps true new (s :: rest) s.container).2 = true ↔
        ∀ i, .index i ∈ s :: rest → i < maxItems) := by
  induction rest with
  | nil =>
    intro s hss
    have hs := hss s List.mem_cons_self
    have hnone := Step.get?_container hs
    rw [storeSteps]
    by_cases hf : s.Fits s.container
    · simp only [storeLast_of_fits hnone hf, List.mem_singleton, true_iff]
      exact fun i hi => (Step.fits_container_iff hs).1 hf i hi.symm
    · rw [storeLast_of_not_fits hs hnone fun _ => hf]
      simp only [List.mem_singleton, Bool.false_eq_true, false_iff]
      exact fun h => hf ((Step.fits_container_iff hs).2 fun i hi => h i hi.symm)
  | cons t rest ih =>
    intro s hss
    have hs := hss s List.mem_cons_self
    have hnone := Step.get?_container hs
    have ih := ih fun u hu => hss u (List.mem_cons_of_mem s hu)
    by_cases hf : s.Fits s.container
    · obtain ⟨u, -, hstore⟩ := storeSteps_of_fits new hnone hf t rest
      have hroom := (Step.fits_container_iff hs).1 hf
      rw [hstore, ih]
      constructor
      · intro h i hi
        rcases List.mem_cons.1 hi with hi | hi
        · exact hroom i hi.symm
        · exact h i hi
      · exact fun h i hi => h i (List.mem_cons_of_mem s hi)
    · rw [storeSteps_of_not_fits hs hnone fun _ => hf]
      simp only [Bool.false_eq_true, false_iff]
      exact fun h => hf ((Step.fits_container_iff hs).2 fun i hi =>
        h i (hi ▸ List.mem_cons_self))

/-! ## Stopping halfway -/

/-- The first part on the way that is missing can be made, and for a position further on memory has
no room. -/
def StopsHalfway (ss : List Step) (v : Value) : Prop :=
  ∃ before s after u, ss = before ++ s :: after ∧ follow before v = some u ∧
    s.get? u = none ∧ s.Fits u ∧ ∃ i, .index i ∈ after ∧ maxItems ≤ i

theorem not_stopsHalfway_nil : ¬ StopsHalfway [] v := by
  rintro ⟨before, s, after, u, h, -⟩
  simp at h

/-- Through a part that is there, a store stops halfway if it does further on. -/
theorem stopsHalfway_cons_of_get? {rest : List Step} (hw : s.get? v = some w) :
    StopsHalfway (s :: rest) v ↔ StopsHalfway rest w := by
  constructor
  · rintro ⟨before, t, after, u, h, hfollow, hnone, hbeyond⟩
    cases before with
    | nil =>
      obtain ⟨rfl, rfl⟩ := List.cons.inj h
      obtain rfl := Option.some.inj hfollow
      rw [hw] at hnone
      contradiction
    | cons s' before =>
      obtain ⟨rfl, rfl⟩ := List.cons.inj h
      rw [follow, hw] at hfollow
      exact ⟨before, t, after, u, rfl, hfollow, hnone, hbeyond⟩
  · rintro ⟨before, t, after, u, rfl, hfollow, hrest⟩
    exact ⟨s :: before, t, after, u, rfl, by rw [follow, hw]; exact hfollow, hrest⟩

/-- Where the first part is missing, a store stops halfway if that part is made and a position
further on is refused. -/
theorem stopsHalfway_cons_of_none {rest : List Step} (hw : s.get? v = none) :
    StopsHalfway (s :: rest) v ↔ s.Fits v ∧ ∃ i, .index i ∈ rest ∧ maxItems ≤ i := by
  constructor
  · rintro ⟨before, t, after, u, h, hfollow, -, hbeyond⟩
    cases before with
    | nil =>
      obtain ⟨rfl, rfl⟩ := List.cons.inj h
      obtain rfl := Option.some.inj hfollow
      exact hbeyond
    | cons s' before =>
      obtain ⟨rfl, rfl⟩ := List.cons.inj h
      rw [follow, hw] at hfollow
      contradiction
  · rintro hbeyond
    exact ⟨[], s, rest, v, rfl, rfl, hw, hbeyond⟩

/-- Once the first part is made, there are traces, and only a position further on can be refused. -/
theorem storeSteps_fails_changed_of_fits {rest : List Step} (hs : s.IsPlain) (hw : s.get? v = none)
    (hf : s.Fits v) (hrest : ∀ u ∈ t :: rest, u.IsPlain) :
    (storeSteps true new (s :: t :: rest) v).2 = false ∧
        (storeSteps true new (s :: t :: rest) v).1 ≠ v ↔
      ∃ i, .index i ∈ t :: rest ∧ maxItems ≤ i := by
  obtain ⟨u, hu, hstore⟩ := storeSteps_of_fits new hw hf t rest
  have hchanged : s.put (storeSteps true new (t :: rest) t.container).1 u ≠ v := by
    intro h
    have hget := Step.get?_put hs hu (storeSteps true new (t :: rest) t.container).1
    rw [h, hw] at hget
    contradiction
  rw [hstore, and_iff_left hchanged, ← Bool.not_eq_true, storeSteps_container new hrest]
  simp

/-- A store fails and leaves traces just when it creates what is missing and stops halfway. -/
theorem storeSteps_fails_changed_iff (create : Bool) (new : Value) {ss : List Step} :
    ∀ {v : Value}, (∀ s ∈ ss, s.IsPlain) →
      ((storeSteps create new ss v).2 = false ∧ (storeSteps create new ss v).1 ≠ v ↔
        create = true ∧ StopsHalfway ss v) := by
  induction ss with
  | nil =>
    intro v _
    simp [storeSteps, not_stopsHalfway_nil]
  | cons s rest ih =>
    intro v hss
    have hs := hss s List.mem_cons_self
    have hrest : ∀ t ∈ rest, t.IsPlain := fun t ht => hss t (List.mem_cons_of_mem s ht)
    cases rest with
    | nil =>
      -- At the last step nothing is left behind, and nothing is left to be refused.
      have hstop : ¬ StopsHalfway [s] v := by
        cases hw : s.get? v with
        | some w => rw [stopsHalfway_cons_of_get? hw]; exact not_stopsHalfway_nil
        | none => simp [stopsHalfway_cons_of_none hw]
      rw [storeSteps]
      exact ⟨fun h => absurd (storeLast_eq_of_fails hs h.1) h.2, fun h => absurd h.2 hstop⟩
    | cons t rest =>
      cases hw : s.get? v with
      | some w =>
        rw [storeSteps_of_get? hs hw, stopsHalfway_cons_of_get? hw, ← ih hrest]
        exact and_congr_right fun _ => not_congr (Step.put_eq_self_iff hs hw)
      | none =>
        rw [stopsHalfway_cons_of_none hw]
        by_cases hf : create = true ∧ s.Fits v
        · obtain ⟨rfl, hf⟩ := hf
          rw [storeSteps_fails_changed_of_fits hs hw hf hrest]
          exact ⟨fun h => ⟨rfl, hf, h⟩, fun h => h.2.2⟩
        · rw [storeSteps_of_not_fits hs hw fun hc hfits => hf ⟨hc, hfits⟩]
          exact ⟨fun h => absurd rfl h.2, fun h => absurd ⟨h.1, h.2.1⟩ hf⟩

/-- **When a failed store changes nothing.** A store that fails leaves the document as it was,
unless it was to create what is missing and stops halfway: then the containers made so far stay. -/
theorem store_unchanged_iff {p : Path} {d : Value} (hp : p.IsPlain) :
    ((p.store new create d).2 = false → (p.store new create d).1 = d) ↔
      ¬ (create = true ∧ StopsHalfway p.steps d) := by
  rw [← storeSteps_fails_changed_iff create new hp, not_and, Classical.not_not]
  rfl

end Path

end Storing

namespace Path

/-- A position that no memory has room for is refused in `{"a":[]}`, and nothing has changed. -/
theorem store_unchanged_iff_array :
    (Path.store ⟨[.name "a", .index 18446744073709551615]⟩ .null true
        (.object [("a", .array [])])).2 = false ∧
      (Path.store ⟨[.name "a", .index 18446744073709551615]⟩ .null true
        (.object [("a", .array [])])).1 = .object [("a", .array [])] := by
  have hp : Path.IsPlain ⟨[.name "a", .index 18446744073709551615]⟩ := by simp [Path.IsPlain]
  refine ⟨rfl, (store_unchanged_iff hp).2 (fun h => ?_) rfl⟩
  have hlast := (stopsHalfway_cons_of_get? rfl).1 h.2
  simpa using (stopsHalfway_cons_of_none rfl).1 hlast

/-- The same position is refused in `{}`, but the array on the way to it stays. -/
theorem store_leaves_container :
    (Path.store ⟨[.name "a", .index 18446744073709551615]⟩ .null true (.object [])).2 = false ∧
      (Path.store ⟨[.name "a", .index 18446744073709551615]⟩ .null true (.object [])).1 ≠
        .object [] :=
  ⟨rfl, fun h => by cases h⟩

end Path

end JsonPath

import Mathlib.Data.List.Nodup
import JsonPath.Proofs.Json.Parts

/-!
# The locations of a value

The locations of a value are the ways from it to the value itself and to everything inside it, each
with what it leads to. They are listed in pre-order: the value first, then the locations in each of
its parts, part by part.

* `Value.locations` — the list.
* `Value.mem_locations` — it has whatever plain steps lead to, and nothing else.
* `Value.nodup_locations` — it has no way twice.
-/

namespace JsonPath.Value

/-- The locations of a value in pre-order. -/
def locations (v : Value) : List (List Step × Value) :=
  ([], v) :: v.parts.attach.flatMap fun ⟨m, _⟩ => m.2.locations.map fun l => (m.1 :: l.1, l.2)
termination_by sizeOf v
decreasing_by exact sizeOf_lt_of_mem_parts (by assumption)

/-- The locations that lie in a part. -/
def locationsIn (m : Step × Value) : List (List Step × Value) :=
  m.2.locations.map fun l => (m.1 :: l.1, l.2)

theorem locations_eq (v : Value) : v.locations = ([], v) :: v.parts.flatMap locationsIn := by
  have hparts : (v.parts.attach.flatMap fun m => locationsIn m.1) = v.parts.flatMap locationsIn := by
    conv_rhs => rw [← List.attach_map_subtype_val v.parts, List.flatMap_map]
  rw [locations]
  exact congrArg _ hparts

variable {v w : Value} {s : Step} {ss : List Step}

theorem mem_locationsIn {m : Step × Value} :
    (ss, w) ∈ locationsIn m ↔ ∃ ts, ss = m.1 :: ts ∧ (ts, w) ∈ m.2.locations := by
  simp only [locationsIn, List.mem_map, Prod.exists, Prod.mk.injEq]
  constructor
  · rintro ⟨ts, u, h, rfl, rfl⟩
    exact ⟨ts, rfl, h⟩
  · rintro ⟨ts, rfl, h⟩
    exact ⟨ts, w, h, rfl, rfl⟩

theorem nil_mem_locations : ([], w) ∈ v.locations ↔ w = v := by
  rw [locations_eq]
  simp [locationsIn]

theorem cons_mem_locations :
    (s :: ss, w) ∈ v.locations ↔ ∃ u, (s, u) ∈ v.parts ∧ (ss, w) ∈ u.locations := by
  rw [locations_eq]
  simp only [List.mem_cons, Prod.mk.injEq, reduceCtorEq, false_and, false_or, List.mem_flatMap,
    mem_locationsIn, List.cons.injEq, Prod.exists]
  constructor
  · rintro ⟨t, u, hu, ts, ⟨rfl, rfl⟩, h⟩
    exact ⟨u, hu, h⟩
  · rintro ⟨u, hu, h⟩
    exact ⟨s, u, hu, ss, ⟨rfl, rfl⟩, h⟩

/-- The locations of a well-formed value are what plain steps lead to. -/
theorem mem_locations (hv : v.WellFormed) :
    (ss, w) ∈ v.locations ↔ (∀ s ∈ ss, s.IsPlain) ∧ Path.follow ss v = some w := by
  induction ss generalizing v with
  | nil => simp [nil_mem_locations, Path.follow, eq_comm]
  | cons s ss ih =>
    simp only [cons_mem_locations, List.forall_mem_cons, Path.follow, Option.bind_eq_some_iff]
    constructor
    · rintro ⟨u, hu, h⟩
      obtain ⟨hs, hget, hwf⟩ := hv.of_mem_parts hu
      obtain ⟨hss, hfollow⟩ := (ih hwf).1 h
      exact ⟨⟨hs, hss⟩, u, hget, hfollow⟩
    · rintro ⟨⟨hs, hss⟩, u, hget, hfollow⟩
      exact ⟨u, mem_parts_of_get? hs hget, (ih (hv.of_get? hget)).2 ⟨hss, hfollow⟩⟩

/-! ## No way twice -/

/-- The parts of a well-formed value have different steps. -/
theorem WellFormed.nodup_steps (hv : v.WellFormed) : (v.parts.map Prod.fst).Nodup := by
  cases v with
  | array items =>
    have hsteps : (array items).parts.map Prod.fst =
        ((items.zipIdx).map Prod.snd).map Step.index := by
      simp only [parts, List.map_map]
      rfl
    rw [hsteps, List.zipIdx_map_snd]
    exact List.Nodup.map (fun i j h => Step.index.inj h) List.nodup_range'
  | object members =>
    have hsteps : (object members).parts.map Prod.fst =
        (members.map Prod.fst).map Step.name := by
      simp only [parts, List.map_map]
      rfl
    rw [hsteps]
    exact (wellFormed_object.1 hv).1.map fun m n h => Step.name.inj h
  | null | bool | float | int | string => exact List.nodup_nil

/-- No location of a well-formed value is listed twice. -/
theorem nodup_locations (hv : v.WellFormed) : (v.locations.map Prod.fst).Nodup := by
  induction v using inductionOnParts with
  | step v ih =>
    have hin : ∀ m ∈ v.parts, ((locationsIn m).map Prod.fst).Nodup := by
      rintro ⟨s, w⟩ hm
      have hw := ih s w hm (hv.of_mem_parts hm).2.2
      have hsteps : (locationsIn (s, w)).map Prod.fst = (w.locations.map Prod.fst).map (s :: ·) := by
        simp [locationsIn]
      rw [hsteps]
      exact hw.map List.cons_injective
    have hdisjoint : v.parts.Pairwise fun m n =>
        ((locationsIn m).map Prod.fst).Disjoint ((locationsIn n).map Prod.fst) := by
      refine (List.pairwise_map.1 hv.nodup_steps).imp fun {m n} hne ss hm hn => ?_
      obtain ⟨⟨_, w⟩, hmw, rfl⟩ := List.mem_map.1 hm
      obtain ⟨⟨_, u⟩, hnu, rfl⟩ := List.mem_map.1 hn
      obtain ⟨ts, hts, -⟩ := mem_locationsIn.1 hmw
      obtain ⟨ts', hts', -⟩ := mem_locationsIn.1 hnu
      exact hne (List.cons.inj (hts.symm.trans hts')).1
    rw [locations_eq, List.map_cons, List.map_flatMap, List.nodup_cons]
    refine ⟨?_, List.nodup_flatMap.2 ⟨hin, hdisjoint⟩⟩
    simp [locationsIn]

end JsonPath.Value

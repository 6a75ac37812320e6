import JsonPath.Query.Slice

/-!
# What a slice picks

A slice picks the positions between its bounds that lie a multiple of the step away from the first
bound, in the direction of the step. The two loops are followed from any position on: what is left
to pick is described by the position reached, so that one round adds exactly that position. Going
forward, a sum that does not fit 64 bits is past every bound. Going backward there is no such sum:
the position is not negative as long as the loop goes on, and no step leads further down than to the
least integer.

* `Slice.position` — a bound as a position, in integers of any size.
* `Slice.Ascends`, `Slice.Descends` — the positions to pick, in either direction.
* `ascends_forward`, `exists_backward?` — what the two loops pick.
-/

namespace JsonPath.Query.Slice

open Number (ofInt? toInt_of_ofInt?)

variable {length : Nat} {i stop step : Int64}

/-! ## 64-bit integers -/

theorem toInt_min (a b : Int64) : (min a b).toInt = min a.toInt b.toInt := by
  have h : min a b = if a ≤ b then a else b := rfl
  rw [h]
  split <;> rename_i hab <;> rw [Int64.le_iff_toInt_le] at hab <;> omega

theorem toInt_max (a b : Int64) : (max a b).toInt = max a.toInt b.toInt := by
  have h : max a b = if a ≤ b then b else a := rfl
  rw [h]
  split <;> rename_i hab <;> rw [Int64.le_iff_toInt_le] at hab <;> omega

theorem pos_iff {n : Int64} : 0 < n ↔ 0 < n.toInt := Int64.lt_iff_toInt_lt

theorem neg_iff {n : Int64} : n < 0 ↔ n.toInt < 0 := Int64.lt_iff_toInt_lt

/-- An integer that fits 64 bits is kept. -/
theorem exists_ofInt? {n : Int} (hmin : Int64.minValue.toInt ≤ n) (hmax : n ≤ Int64.maxValue.toInt) :
    ∃ k, ofInt? n = some k ∧ k.toInt = n := by
  have hk : ofInt? n = some (Int64.ofInt n) := if_pos ⟨hmin, hmax⟩
  exact ⟨_, hk, toInt_of_ofInt? hk⟩

/-- An integer that is dropped though it is not too small is too large. -/
theorem maxValue_lt_of_ofInt? {n : Int} (h : ofInt? n = none) (hmin : Int64.minValue.toInt ≤ n) :
    Int64.maxValue.toInt < n := by
  apply Int.not_le.1
  intro hmax
  obtain ⟨k, hk, -⟩ := exists_ofInt? hmin hmax
  rw [h] at hk
  contradiction

/-! ## Bounds -/

/-- A bound as a position: one that is left out is at `default`, a negative one counts from the end,
and one that lies outside moves to the nearer end. -/
def position (length : Nat) (default low high : Int) (bound : Option Int64) : Int :=
  let n := match bound with
    | none => default
    | some n => if n.toInt < 0 then n.toInt + length else n.toInt
  max low (min n high)

theorem toInt_clamp (low high n : Int64) :
    (clamp low high n).toInt = max low.toInt (min n.toInt high.toInt) := by
  rw [clamp, toInt_max, toInt_min]

/-- A bound is computed without leaving 64 bits. -/
theorem exists_bound? {len : Int64} (hlen : len.toInt = length) (default low high : Int64)
    (bound : Option Int64) : ∃ k, bound? len default low high bound = some k ∧
      k.toInt = position length default.toInt low.toInt high.toInt bound := by
  cases bound with
  | none => exact ⟨_, rfl, toInt_clamp low high default⟩
  | some n =>
    by_cases hn : n < 0
    · have hn' := neg_iff.1 hn
      have hmin := Int64.minValue_le_toInt n
      have hmax := Int64.toInt_le len
      have hle : Int64.maxValue.toInt = 2 ^ 63 - 1 := by decide
      have hge : Int64.minValue.toInt = -2 ^ 63 := by decide
      obtain ⟨k, hk, hkn⟩ := exists_ofInt? (n := n.toInt + len.toInt) (by omega) (by omega)
      refine ⟨clamp low high k, ?_, ?_⟩
      · rw [bound?, if_pos hn, hk, Option.map_some]
      · rw [toInt_clamp, hkn, hlen]
        simp [position, hn']
    · refine ⟨clamp low high n, by rw [bound?, if_neg hn], ?_⟩
      rw [toInt_clamp]
      simp [position, mt neg_iff.2 hn]

/-! ## The loops -/

/-- A distance is a multiple of the step just if it is nothing, or one step less is such a multiple
too. -/
theorem dvd_iff_sub {step : Int} (hstep : 0 < step) (distance : Int) :
    0 ≤ distance ∧ step ∣ distance ↔
      distance = 0 ∨ 0 ≤ distance - step ∧ step ∣ distance - step := by
  constructor
  · rintro ⟨hle, hdvd⟩
    by_cases hzero : distance = 0
    · exact .inl hzero
    · have := Int.le_of_dvd (by omega) hdvd
      exact .inr ⟨by omega, Int.dvd_sub hdvd (Int.dvd_refl step)⟩
  · rintro (rfl | ⟨hle, hdvd⟩)
    · exact ⟨Int.le_refl 0, Int.dvd_zero step⟩
    · exact ⟨by omega, by simpa using Int.dvd_add hdvd (Int.dvd_refl step)⟩

/-- The positions from `start` up to the last one before `stop`, each a multiple of the step away
from `start`. -/
structure Ascends (start stop step : Int) (picked : List Nat) : Prop where
  ordered : picked.Pairwise (· < ·)
  mem_iff : ∀ k : Nat, k ∈ picked ↔ start ≤ k ∧ k < stop ∧ step ∣ k - start

/-- The positions from `start` down to the last one behind `stop`, each a multiple of the step away
from `start`. -/
structure Descends (start stop step : Int) (picked : List Nat) : Prop where
  ordered : picked.Pairwise (· > ·)
  mem_iff : ∀ k : Nat, k ∈ picked ↔ stop < k ∧ k ≤ start ∧ -step ∣ start - k

section Rounds

variable {start stop step : Int} {picked : List Nat}

theorem ascends_nil (h : stop ≤ start) : Ascends start stop step [] where
  ordered := List.Pairwise.nil
  mem_iff k := by
    simp only [List.not_mem_nil, false_iff]
    omega

theorem descends_nil (h : start ≤ stop) : Descends start stop step [] where
  ordered := List.Pairwise.nil
  mem_iff k := by
    simp only [List.not_mem_nil, false_iff]
    omega

/-- One round forward picks the position reached. -/
theorem Ascends.cons (hstep : 0 < step) (hstart : 0 ≤ start) (hstop : start < stop)
    (h : Ascends (start + step) stop step picked) :
    Ascends start stop step (start.toNat :: picked) where
  ordered := by
    refine List.pairwise_cons.2 ⟨fun k hk => ?_, h.ordered⟩
    have := ((h.mem_iff k).1 hk).1
    omega
  mem_iff k := by
    have hround := dvd_iff_sub hstep ((k : Int) - start)
    rw [Int.sub_sub] at hround
    rw [List.mem_cons, h.mem_iff]
    constructor
    · rintro (rfl | ⟨hle, hlt, hdvd⟩)
      · exact ⟨by omega, by omega, (hround.2 (.inl (by omega))).2⟩
      · exact ⟨by omega, hlt, (hround.2 (.inr ⟨by omega, hdvd⟩)).2⟩
    · rintro ⟨hle, hlt, hdvd⟩
      rcases hround.1 ⟨by omega, hdvd⟩ with heq | ⟨hle', hdvd'⟩
      · exact .inl (by omega)
      · exact .inr ⟨by omega, hlt, hdvd'⟩

/-- One round backward picks the position reached. -/
theorem Descends.cons (hstep : step < 0) (hstop : -1 ≤ stop) (hstart : stop < start)
    (h : Descends (start + step) stop step picked) :
    Descends start stop step (start.toNat :: picked) where
  ordered := by
    refine List.pairwise_cons.2 ⟨fun k hk => ?_, h.ordered⟩
    have := ((h.mem_iff k).1 hk).2.1
    omega
  mem_iff k := by
    have hround := dvd_iff_sub (Int.neg_pos_of_neg hstep) (start - (k : Int))
    have hnext : start - (k : Int) - -step = start + step - k := by omega
    rw [hnext] at hround
    rw [List.mem_cons, h.mem_iff]
    constructor
    · rintro (rfl | ⟨hlt, hle, hdvd⟩)
      · exact ⟨by omega, by omega, (hround.2 (.inl (by omega))).2⟩
      · exact ⟨hlt, by omega, (hround.2 (.inr ⟨by omega, hdvd⟩)).2⟩
    · rintro ⟨hlt, hle, hdvd⟩
      rcases hround.1 ⟨by omega, hdvd⟩ with heq | ⟨hle', hdvd'⟩
      · exact .inl (by omega)
      · exact .inr ⟨hlt, by omega, hdvd'⟩

end Rounds

theorem ascends_forward (hstep : 0 < step) (hi : 0 ≤ i.toInt) :
    Ascends i.toInt stop.toInt step.toInt (forward stop step hstep i) := by
  have hpos := pos_iff.1 hstep
  induction i using forward.induct stop step hstep with
  | case1 i hlt ih =>
    rw [Int64.lt_iff_toInt_lt] at hlt
    rw [forward, if_pos (Int64.lt_iff_toInt_lt.2 hlt)]
    apply Ascends.cons hpos hi hlt
    split
    · rename_i next hnext
      have hsum := toInt_of_ofInt? hnext
      rw [← hsum]
      exact ih next hnext (by omega)
    · rename_i hnone
      have hmin : Int64.minValue.toInt ≤ 0 := by decide
      have hlarge := maxValue_lt_of_ofInt? hnone (by omega)
      have hstop := Int64.toInt_le stop
      exact ascends_nil (by omega)
  | case2 i hlt =>
    rw [forward, if_neg hlt]
    rw [Int64.lt_iff_toInt_lt] at hlt
    exact ascends_nil (Int.not_lt.1 hlt)

/-- Going backward no sum leaves 64 bits, as long as the end is not below the last bound that a
slice can have. -/
theorem exists_backward? (hstep : step < 0) (hstop : -1 ≤ stop.toInt) (i : Int64) :
    ∃ picked, backward? stop step hstep i = some picked ∧
      Descends i.toInt stop.toInt step.toInt picked := by
  have hneg := neg_iff.1 hstep
  induction i using backward?.induct stop step hstep with
  | case1 i hlt next hnext ih =>
    rw [Int64.lt_iff_toInt_lt] at hlt
    have hsum := toInt_of_ofInt? hnext
    obtain ⟨picked, hpicked, hdescends⟩ := ih
    refine ⟨i.toInt.toNat :: picked, ?_, Descends.cons hneg hstop hlt (hsum ▸ hdescends)⟩
    rw [backward?, if_pos (Int64.lt_iff_toInt_lt.2 hlt)]
    split
    · rename_i next' hnext'
      obtain rfl := Option.some.inj (hnext'.symm.trans hnext)
      rw [hpicked, Option.map_some]
    · rename_i hnone
      rw [hnone] at hnext
      contradiction
  | case2 i hlt hnone =>
    -- The position is not negative here, so no step leads below the least integer.
    rw [Int64.lt_iff_toInt_lt] at hlt
    have hmin := Int64.minValue_le_toInt step
    have hmax := Int64.toInt_le i
    have hlarge := maxValue_lt_of_ofInt? hnone (by omega)
    omega
  | case3 i hlt =>
    refine ⟨[], by rw [backward?, if_neg hlt], descends_nil ?_⟩
    rw [Int64.lt_iff_toInt_lt] at hlt
    exact Int.not_lt.1 hlt

/-! ## Slices -/

theorem low_le_position (default : Int) {low high : Int} (bound : Option Int64) :
    low ≤ position length default low high bound :=
  Int.le_max_left low _

theorem position_le_high (length : Nat) (default : Int) {low high : Int} (h : low ≤ high)
    (bound : Option Int64) : position length default low high bound ≤ high :=
  Int.max_le.2 ⟨h, Int.min_le_right _ high⟩

theorem toInt_ofNat_of_lt (hlength : length < Nat.pow 2 63) :
    (Int64.ofNat length).toInt = length :=
  Int64.toInt_ofNat_of_lt hlength

theorem ofNat_eq_zero_iff (hlength : length < Nat.pow 2 63) : Int64.ofNat length = 0 ↔ length = 0 := by
  constructor
  · intro h
    have hlen := toInt_ofNat_of_lt hlength
    rw [h, Int64.toInt_zero] at hlen
    omega
  · rintro rfl
    rfl

/-- A slice of an array picks nothing, or goes forward or backward. -/
theorem stride_cases (length : Nat) (s : Slice) :
    (length = 0 ∨ s.stride = 0) ∨ 0 < length ∧ 0 < s.stride ∨ 0 < length ∧ s.stride < 0 := by
  rw [pos_iff, neg_iff, ← Int64.toInt_inj, Int64.toInt_zero]
  omega

/-- Nothing is picked from an empty array, or without a step. -/
theorem indices?_of_zero {s : Slice} (hlength : length < Nat.pow 2 63)
    (h : length = 0 ∨ s.stride = 0) : s.indices? length = some [] := by
  rcases h with h | h
  · simp [indices?, (ofNat_eq_zero_iff hlength).2 h]
  · have hirrefl : ¬ (0 : Int64) < 0 := by decide
    simp [indices?, h, hirrefl]

/-- A positive step picks in ascending order. -/
theorem exists_indices?_of_pos {s : Slice} (hlength : length < Nat.pow 2 63) (hpos : 0 < length)
    (hstep : 0 < s.stride) : ∃ picked, s.indices? length = some picked ∧
      Ascends (position length 0 0 length s.start) (position length length 0 length s.stop)
        s.stride.toInt picked := by
  have hlen := toInt_ofNat_of_lt hlength
  have hne : Int64.ofNat length ≠ 0 := mt (ofNat_eq_zero_iff hlength).1 (Nat.ne_of_gt hpos)
  obtain ⟨start, hstart, hstart'⟩ := exists_bound? hlen 0 0 (Int64.ofNat length) s.start
  obtain ⟨stop, hstop, hstop'⟩ :=
    exists_bound? hlen (Int64.ofNat length) 0 (Int64.ofNat length) s.stop
  rw [hlen, Int64.toInt_zero] at hstart' hstop'
  have hi : 0 ≤ start.toInt := hstart' ▸ low_le_position 0 s.start
  refine ⟨forward stop s.stride hstep start, ?_, ?_⟩
  · simp only [indices?, if_neg hne, dif_pos hstep, hstart, hstop, Option.bind_eq_bind,
      Option.bind_some, Option.pure_def]
  · rw [← hstart', ← hstop']
    exact ascends_forward hstep hi

/-- A negative step picks in descending order. -/
theorem exists_indices?_of_neg {s : Slice} (hlength : length < Nat.pow 2 63) (hpos : 0 < length)
    (hstep : s.stride < 0) : ∃ picked, s.indices? length = some picked ∧
      Descends (position length (length - 1) (-1) (length - 1) s.start)
        (position length (-1) (-1) (length - 1) s.stop) s.stride.toInt picked := by
  have hlen := toInt_ofNat_of_lt hlength
  have hne : Int64.ofNat length ≠ 0 := mt (ofNat_eq_zero_iff hlength).1 (Nat.ne_of_gt hpos)
  have hnot : ¬ 0 < s.stride := by
    rw [pos_iff]
    have := neg_iff.1 hstep
    omega
  have hmin : Int64.minValue.toInt ≤ 0 := by decide
  have hmax := Int64.toInt_le (Int64.ofNat length)
  obtain ⟨last, hlast, hlast'⟩ :=
    exists_ofInt? (n := (Int64.ofNat length).toInt - 1) (by omega) (by omega)
  obtain ⟨start, hstart, hstart'⟩ := exists_bound? hlen last (-1) last s.start
  obtain ⟨stop, hstop, hstop'⟩ := exists_bound? hlen (-1) (-1) last s.stop
  have hminus : (-1 : Int64).toInt = -1 := by decide
  rw [hlast', hlen, hminus] at hstart' hstop'
  have hi : -1 ≤ stop.toInt := hstop' ▸ low_le_position (-1) s.stop
  obtain ⟨picked, hpicked, hdescends⟩ := exists_backward? hstep hi start
  refine ⟨picked, ?_, ?_⟩
  · simp only [indices?, if_neg hne, dif_neg hnot, dif_pos hstep, hlast, hstart, hstop, hpicked,
      Option.bind_eq_bind, Option.bind_some]
  · rw [← hstart', ← hstop']
    exact hdescends

theorem indices_of_indices? {s : Slice} {picked : List Nat} (h : s.indices? length = some picked) :
    s.indices length = picked := by
  rw [indices, h, Option.getD_some]

theorem indices_of_zero {s : Slice} (hlength : length < Nat.pow 2 63)
    (h : length = 0 ∨ s.stride = 0) : s.indices length = [] :=
  indices_of_indices? (indices?_of_zero hlength h)

theorem ascends_indices {s : Slice} (hlength : length < Nat.pow 2 63) (hpos : 0 < length)
    (hstep : 0 < s.stride) :
    Ascends (position length 0 0 length s.start) (position length length 0 length s.stop)
      s.stride.toInt (s.indices length) := by
  obtain ⟨picked, hpicked, hascends⟩ := exists_indices?_of_pos hlength hpos hstep
  rwa [indices_of_indices? hpicked]

theorem descends_indices {s : Slice} (hlength : length < Nat.pow 2 63) (hpos : 0 < length)
    (hstep : s.stride < 0) :
    Descends (position length (length - 1) (-1) (length - 1) s.start)
      (position length (-1) (-1) (length - 1) s.stop) s.stride.toInt (s.indices length) := by
  obtain ⟨picked, hpicked, hdescends⟩ := exists_indices?_of_neg hlength hpos hstep
  rwa [indices_of_indices? hpicked]

/-- No sum on the way to the positions leaves 64 bits. -/
theorem indices?_eq_some (s : Slice) (hlength : length < Nat.pow 2 63) :
    s.indices? length = some (s.indices length) := by
  have hsome : ∃ picked, s.indices? length = some picked := by
    rcases stride_cases length s with hzero | ⟨hpos, hstep⟩ | ⟨hpos, hstep⟩
    · exact ⟨[], indices?_of_zero hlength hzero⟩
    · exact (exists_indices?_of_pos hlength hpos hstep).imp fun _ h => h.1
    · exact (exists_indices?_of_neg hlength hpos hstep).imp fun _ h => h.1
  obtain ⟨picked, hpicked⟩ := hsome
  rw [hpicked, indices_of_indices? hpicked]

/-- Every position picked lies in the array. -/
theorem lt_of_mem_indices (s : Slice) (hlength : length < Nat.pow 2 63) :
    ∀ k ∈ s.indices length, k < length := by
  intro k hk
  rcases stride_cases length s with hzero | ⟨hpos, hstep⟩ | ⟨hpos, hstep⟩
  · rw [indices_of_zero hlength hzero] at hk
    contradiction
  · have hstop := position_le_high length length (Int.natCast_nonneg length) s.stop
    have hlt := (((ascends_indices hlength hpos hstep).mem_iff k).1 hk).2.1
    omega
  · have hstart := position_le_high length (length - 1)
      (by omega : (-1 : Int) ≤ length - 1) s.start
    have hle := (((descends_indices hlength hpos hstep).mem_iff k).1 hk).2.1
    omega

theorem low_le_of_bound? {len default low high k : Int64} {bound : Option Int64}
    (h : bound? len default low high bound = some k) : low.toInt ≤ k.toInt := by
  have hclamp (n : Int64) : low.toInt ≤ (clamp low high n).toInt := by
    rw [toInt_clamp]
    exact Int.le_max_left _ _
  cases bound with
  | none =>
    obtain rfl := Option.some.inj h
    exact hclamp default
  | some n =>
    rw [bound?] at h
    split at h
    · obtain ⟨m, -, rfl⟩ := Option.map_eq_some_iff.1 h
      exact hclamp m
    · obtain rfl := Option.some.inj h
      exact hclamp n

/-- No position is picked twice, from whatever array. -/
theorem nodup_indices (s : Slice) (length : Nat) : (s.indices length).Nodup := by
  cases h : s.indices? length with
  | none => simp [indices, h]
  | some picked =>
    rw [indices_of_indices? h]
    simp only [indices?, Option.bind_eq_bind, Option.pure_def] at h
    split at h
    · simp [← Option.some.inj h]
    · split at h
      · obtain ⟨start, hstart, h⟩ := Option.bind_eq_some_iff.1 h
        obtain ⟨stop, -, h⟩ := Option.bind_eq_some_iff.1 h
        obtain rfl := Option.some.inj h
        exact (ascends_forward _ (low_le_of_bound? hstart)).ordered.imp Nat.ne_of_lt
      · split at h
        · obtain ⟨last, -, h⟩ := Option.bind_eq_some_iff.1 h
          obtain ⟨start, -, h⟩ := Option.bind_eq_some_iff.1 h
          obtain ⟨stop, hstop, h⟩ := Option.bind_eq_some_iff.1 h
          obtain ⟨picked', hpicked, hdescends⟩ :=
            exists_backward? (by assumption) (low_le_of_bound? hstop) start
          obtain rfl := Option.some.inj (hpicked.symm.trans h)
          exact hdescends.ordered.imp Nat.ne_of_gt
        · simp [← Option.some.inj h]

/-- **What a slice picks.** For every array that 64 bits can count, all sums fit and the loops end.
The positions picked lie in the array, and none comes twice. Going forward they are all that lie
between the bounds and a multiple of the step away from the first, in ascending order; going
backward likewise, in descending order. -/
theorem indices_spec (s : Slice) (hlength : length < Nat.pow 2 63) :
    s.indices? length = some (s.indices length) ∧
      (∀ k ∈ s.indices length, k < length) ∧ (s.indices length).Nodup ∧
      (length = 0 ∨ s.stride = 0 → s.indices length = []) ∧
      (0 < length → 0 < s.stride →
        Ascends (position length 0 0 length s.start) (position length length 0 length s.stop)
          s.stride.toInt (s.indices length)) ∧
      (0 < length → s.stride < 0 →
        Descends (position length (length - 1) (-1) (length - 1) s.start)
          (position length (-1) (-1) (length - 1) s.stop) s.stride.toInt (s.indices length)) :=
  ⟨indices?_eq_some s hlength, lt_of_mem_indices s hlength, nodup_indices s length,
    indices_of_zero hlength, ascends_indices hlength, descends_indices hlength⟩

/-- Every second element from the last one down, and a step back that is as long as can be. -/
theorem indices_spec_backward :
    (5 < Nat.pow 2 63 ∧ indices ⟨none, some 0, some (-2)⟩ 5 = [4, 2] ∧
        Descends 4 0 (-2) (indices ⟨none, some 0, some (-2)⟩ 5)) ∧
      indices ⟨some (-1), none, some Int64.minValue⟩ 5 = [4] ∧
      (indices ⟨some (-1), none, some Int64.minValue⟩ 5).Nodup := by
  have hlength : 5 < Nat.pow 2 63 := by decide
  have hspec := indices_spec ⟨none, some 0, some (-2)⟩ hlength
  refine ⟨⟨hlength, by decide +kernel, hspec.2.2.2.2.2 (by decide) (by decide)⟩,
    by decide +kernel, ?_⟩
  exact (indices_spec ⟨some (-1), none, some Int64.minValue⟩ hlength).2.2.1

end JsonPath.Query.Slice

import JsonPath.Proofs.Evaluation.Comparison
import JsonPath.Proofs.Function.Outcome
import JsonPath.Proofs.Number.Monotone

/-!
# The least and the greatest item

The search for an extreme compares every item with the best one so far and with no other. That is
enough if the order is transitive. It is so for numbers, though two integers are compared exactly
and an integer and a double as doubles: rounding may make two integers equal to one double but never
puts them the other way round.

* `Value.compare?_eq_lt_iff` — the order of numbers is the order of their doubles, refined by the
  exact order of integers.
* `Value.compare?_trans` — being less, or greater, is transitive.
* `Builtin.exists_extreme` — the search through items that have an order.
* `Builtin.exists_fault_of_extreme` — the search through items of two kinds, or of another kind.
* `Builtin.call_extreme` — the least and the greatest item.
-/

namespace JsonPath

/-! ## The order of values -/

namespace Value

open Number (rank)

variable {a b c : Value} {x y : Float}

theorem exists_asFloat? (h : a.IsProperNumber) : ∃ x, a.asFloat? = some x := by
  cases a with
  | int n => exact ⟨_, rfl⟩
  | float x => exact ⟨_, rfl⟩
  | _ => contradiction

/-- An order of doubles other than NaN is found by their ranks. -/
theorem compareFloat?_eq_lt_iff (hx : x.isNaN = false) (hy : y.isNaN = false) :
    compareFloat? x y = some .lt ↔ rank x < rank y := by
  rw [Number.compareFloat?_eq_rank hx hy, Option.some.injEq, compare_lt_iff_lt]

/-- Integers that are rounded to doubles in order are themselves in order. -/
theorem toInt_lt_of_rank_lt {m n : Int64}
    (h : rank (Number.floatOfInt m.toInt) < rank (Number.floatOfInt n.toInt)) :
    m.toInt < n.toInt := by
  by_contra hle
  exact absurd (Number.rank_floatOfInt_le (Number.fits_toInt n) (Number.fits_toInt m)
    (not_lt.1 hle)) (not_le.2 h)

/-- **The order of numbers.** A number is less than another if its double ranks below the other's,
or if both are integers with one double and it is the lesser of them. -/
theorem compare?_eq_lt_iff (ha : a.IsProperNumber) (hb : b.IsProperNumber)
    (hx : a.asFloat? = some x) (hy : b.asFloat? = some y) :
    a.compare? b = some .lt ↔ rank x < rank y ∨
      rank x = rank y ∧ ∃ m n, a = int m ∧ b = int n ∧ m.toInt < n.toInt := by
  have hnan := (isProperNumber_iff hx).1 ha
  have hnan' := (isProperNumber_iff hy).1 hb
  cases a with
  | int m =>
    cases b with
    | int n =>
      obtain rfl := Option.some.inj hx
      obtain rfl := Option.some.inj hy
      have hcompare : (int m).compare? (int n) = some .lt ↔ m.toInt < n.toInt := by
        rw [compare?, Option.some.injEq, compare_lt_iff_lt]
      rw [hcompare]
      constructor
      · intro h
        rcases (Number.rank_floatOfInt_le (Number.fits_toInt m) (Number.fits_toInt n) h.le).lt_or_eq
          with hlt | heq
        · exact .inl hlt
        · exact .inr ⟨heq, m, n, rfl, rfl, h⟩
      · rintro (h | ⟨-, m, n, ⟨⟩, ⟨⟩, h⟩)
        · exact toInt_lt_of_rank_lt h
        · exact h
    | float y' =>
      obtain rfl := Option.some.inj hx
      obtain rfl := Option.some.inj hy
      rw [compare?, compareFloat?_eq_lt_iff hnan hnan']
      simp
    | _ => contradiction
  | float x' =>
    obtain rfl := Option.some.inj hx
    cases b with
    | int n | float y' =>
      obtain rfl := Option.some.inj hy
      rw [compare?, compareFloat?_eq_lt_iff hnan hnan']
      simp
    | _ => contradiction
  | _ => contradiction

theorem exists_string (h : a.isString = true) : ∃ s, a = string s := by
  cases a with
  | string s => exact ⟨s, rfl⟩
  | _ => contradiction

theorem isString_of_isProperNumber (h : a.IsProperNumber) : a.isString = false := by
  cases a with
  | string s => contradiction
  | _ => rfl

theorem compare?_trans_lt (hab : a.compare? b = some .lt) (hbc : b.compare? c = some .lt) :
    a.compare? c = some .lt := by
  rcases comparable_of_compare? hab with ⟨ha, hb⟩ | ⟨ha, hb⟩ <;>
    rcases comparable_of_compare? hbc with ⟨hb', hc⟩ | ⟨hb', hc⟩
  · obtain ⟨x, hx⟩ := exists_asFloat? ha
    obtain ⟨y, hy⟩ := exists_asFloat? hb
    obtain ⟨z, hz⟩ := exists_asFloat? hc
    rw [compare?_eq_lt_iff ha hb hx hy] at hab
    rw [compare?_eq_lt_iff hb hc hy hz] at hbc
    rw [compare?_eq_lt_iff ha hc hx hz]
    -- Only three integers with one double leave the ranks equal.
    rcases hab with hxy | ⟨hxy, l, m, rfl, rfl, hlm⟩ <;>
      rcases hbc with hyz | ⟨hyz, m', n, hm, rfl, hmn⟩
    · exact .inl (hxy.trans hyz)
    · exact .inl (hxy.trans_eq hyz)
    · exact .inl (hxy.trans_lt hyz)
    · obtain rfl := int.inj hm
      exact .inr ⟨hxy.trans hyz, l, n, rfl, rfl, hlm.trans hmn⟩
  · rw [isString_of_isProperNumber hb] at hb'
    contradiction
  · rw [isString_of_isProperNumber hb'] at hb
    contradiction
  · obtain ⟨s, rfl⟩ := exists_string ha
    obtain ⟨t, rfl⟩ := exists_string hb
    obtain ⟨u, rfl⟩ := exists_string hc
    exact congrArg some (Std.TransCmp.lt_trans (Option.some.inj hab) (Option.some.inj hbc))

/-- **The order is transitive.** What is less than something less is less, and what is greater than
something greater is greater. -/
theorem compare?_trans {o : Ordering} (ho : o ≠ .eq) (hab : a.compare? b = some o)
    (hbc : b.compare? c = some o) : a.compare? c = some o := by
  cases o with
  | lt => exact compare?_trans_lt hab hbc
  | eq => contradiction
  | gt =>
    have hswap {v w : Value} : v.compare? w = some .gt ↔ w.compare? v = some .lt := by
      rw [compare?_swap v w, Option.map_eq_some_iff]
      simp [Ordering.swap_eq_lt]
    rw [hswap] at hab hbc ⊢
    exact compare?_trans_lt hbc hab

/-- Nothing is less or greater than itself. -/
theorem compare?_self_ne {o : Ordering} (ho : o ≠ .eq) : a.compare? a ≠ some o := by
  intro h
  have hswap : o = o.swap := Option.some.inj (by rw [← Option.map_some, ← h, ← compare?_swap])
  cases o <;> contradiction

theorem exists_compare? (h : a.Comparable b) : ∃ o, a.compare? b = some o :=
  Option.ne_none_iff_exists'.1 (mt compare?_eq_none_iff.1 (not_not.2 h))

theorem isNumber_or_isString_of_comparable (h : a.Comparable b) :
    a.isNumber = true ∨ a.isString = true := by
  rcases h with ⟨ha, -⟩ | ⟨ha, -⟩
  · left
    cases a with
    | int | float => rfl
    | _ => contradiction
  · exact .inr ha

/-- Two values that have an order are of one kind. -/
theorem isString_eq_of_comparable (h : a.Comparable b) : a.isString = b.isString := by
  rcases h with ⟨ha, hb⟩ | ⟨ha, hb⟩
  · rw [isString_of_isProperNumber ha, isString_of_isProperNumber hb]
  · rw [ha, hb]

theorem isNumber_eq_not_isString (h : a.isNumber = true ∨ a.isString = true) :
    a.isNumber = !a.isString := by
  cases a with
  | int | float | string => rfl
  | _ => simp [isNumber, isString] at h

end Value

/-! ## The search -/

namespace Builtin

open Query (Ends)

variable {f : Builtin} {wanted : Ordering} {current item : Value} {items : List Value}

/-- Numbers and strings pass the test of an item. -/
theorem not_unordered (h : item.isNumber = true ∨ item.isString = true) :
    (!item.isNumber && !item.isString) = false := by
  rcases h with h | h <;> simp [h]

/-- One step keeps the better of two items that have an order. -/
theorem extreme_cons (h : item.Comparable current) :
    f.extreme wanted (some current) (item :: items) =
      f.extreme wanted (some (if item.compare? current = some wanted then item else current))
        items := by
  obtain ⟨o, ho⟩ := Value.exists_compare? h
  simp [extreme, not_unordered (Value.isNumber_or_isString_of_comparable h), ho]

/-- **One search.** Through items of one kind the search goes to the end. What it finds is one of
them, it is the first one or else better than it, and none of them is better. -/
theorem exists_extreme (hwanted : wanted ≠ .eq)
    (hitems : ∀ a ∈ current :: items, ∀ b ∈ current :: items, a.Comparable b) :
    ∃ best ∈ current :: items, f.extreme wanted (some current) items = .ok (some best) ∧
      (best = current ∨ best.compare? current = some wanted) ∧
      ∀ item ∈ current :: items, item.compare? best ≠ some wanted := by
  induction items generalizing current with
  | nil =>
    refine ⟨current, List.mem_cons_self, rfl, .inl rfl, fun item hitem => ?_⟩
    rw [List.mem_singleton.1 hitem]
    exact Value.compare?_self_ne hwanted
  | cons item rest ih =>
    rw [extreme_cons (hitems item (by simp) current (by simp))]
    split
    · rename_i hbetter
      -- The item is the best one so far, so that the one before it is not better than the last.
      obtain ⟨best, hmem, hfound, hbest, hleast⟩ :=
        ih fun a ha b hb => hitems a (List.mem_cons_of_mem _ ha) b (List.mem_cons_of_mem _ hb)
      have hchain : best.compare? current = some wanted := by
        rcases hbest with rfl | hbest
        · exact hbetter
        · exact Value.compare?_trans hwanted hbest hbetter
      refine ⟨best, List.mem_cons_of_mem _ hmem, hfound, .inr hchain, ?_⟩
      rw [List.forall_mem_cons]
      refine ⟨fun hcurrent => ?_, hleast⟩
      exact Value.compare?_self_ne hwanted (Value.compare?_trans hwanted hcurrent hchain)
    · rename_i hworse
      -- The item is not better than the best one so far, and still less better than a better one.
      have hsub : current :: rest ⊆ current :: item :: rest :=
        List.cons_subset_cons current (List.subset_cons_self item rest)
      obtain ⟨best, hmem, hfound, hbest, hleast⟩ :=
        ih fun a ha b hb => hitems a (hsub ha) b (hsub hb)
      rw [List.forall_mem_cons] at hleast
      refine ⟨best, hsub hmem, hfound, hbest, ?_⟩
      rw [List.forall_mem_cons, List.forall_mem_cons]
      refine ⟨hleast.1, fun hitem => hworse ?_, hleast.2⟩
      rcases hbest with rfl | hbest
      · exact hitem
      · exact Value.compare?_trans hwanted hitem hbest

theorem comparable_of_extreme {best : Option Value}
    (h : f.extreme wanted (some current) (item :: items) = .ok best) : item.Comparable current := by
  by_contra hnone
  simp only [extreme, Value.compare?_eq_none_iff.2 hnone, wrongType] at h
  split at h <;> contradiction

/-- If a search goes to the end, all the items are of one kind. -/
theorem isString_eq_of_extreme {best : Option Value}
    (h : f.extreme wanted (some current) items = .ok best) :
    ∀ item ∈ items, (item.isNumber = true ∨ item.isString = true) ∧
      item.isString = current.isString := by
  induction items generalizing current with
  | nil => simp
  | cons item rest ih =>
    have hcomparable := comparable_of_extreme h
    have hkind := Value.isString_eq_of_comparable hcomparable
    rw [extreme_cons hcomparable] at h
    rw [List.forall_mem_cons]
    refine ⟨⟨Value.isNumber_or_isString_of_comparable hcomparable, hkind⟩, fun v hv => ?_⟩
    obtain ⟨hitem, hbest⟩ := ih h v hv
    refine ⟨hitem, hbest.trans ?_⟩
    split
    · exact hkind
    · rfl

theorem extreme_first (h : item.isNumber = true ∨ item.isString = true) :
    f.extreme wanted none (item :: items) = f.extreme wanted (some item) items := by
  simp [extreme, not_unordered h]

theorem kind_of_extreme_first {best : Option Value}
    (h : f.extreme wanted none (item :: items) = .ok best) :
    item.isNumber = true ∨ item.isString = true := by
  by_contra hnone
  simp_all [extreme, wrongType]

/-- The search fails if an item is neither a number nor a string, or if there are both. -/
theorem exists_fault_of_extreme (f : Builtin) (wanted : Ordering)
    (h : (∃ v ∈ items, v.isNumber = false ∧ v.isString = false) ∨
      (∃ v ∈ items, v.isNumber = true) ∧ ∃ v ∈ items, v.isString = true) :
    ∃ fault, f.extreme wanted none items = .error (.invalidArgument f.name fault) := by
  have hends : Ends _ f.IsFault (f.extreme wanted none items) := ends_extreme (by simp)
  cases hfound : f.extreme wanted none items with
  | error e =>
    obtain ⟨fault, rfl⟩ := hends.of_error hfound
    exact ⟨fault, rfl⟩
  | ok best =>
    exfalso
    cases items with
    | nil => simp at h
    | cons item rest =>
      have hfirst := kind_of_extreme_first hfound
      have hkinds : ∀ v ∈ item :: rest, (v.isNumber = true ∨ v.isString = true) ∧
          v.isString = item.isString := by
        rw [extreme_first hfirst] at hfound
        exact List.forall_mem_cons.2 ⟨⟨hfirst, rfl⟩, isString_eq_of_extreme hfound⟩
      rcases h with ⟨v, hv, hnumber, hstring⟩ | ⟨⟨v, hv, hnumber⟩, w, hw, hstring⟩
      · have := (hkinds v hv).1
        simp [hnumber, hstring] at this
      · have hboth : v.isString = true := by rw [(hkinds v hv).2, ← (hkinds w hw).2, hstring]
        have := Value.isNumber_eq_not_isString (hkinds v hv).1
        simp [hnumber, hboth] at this

theorem callExtreme_of_lists {arg : Operand} (h : arg.Lists items) :
    f.callExtreme wanted arg = (f.extreme wanted none items).map Operand.ofOption := by
  rw [callExtreme, items?_of_lists f h]
  show (f.extreme wanted none items >>= fun best => pure (Operand.ofOption best)) = _
  cases f.extreme wanted none items <;> rfl

/-- Items that are all numbers, or all strings, have the order that the search is for. -/
theorem exists_callExtreme {arg : Operand} (hwanted : wanted ≠ .eq) (harg : arg.Lists items)
    (hitems : (∀ v ∈ items, v.IsProperNumber) ∨ ∀ v ∈ items, v.isString = true)
    (hne : items ≠ []) :
    ∃ best ∈ items, f.callExtreme wanted arg = .ok (.value best) ∧
      ∀ item ∈ items, item.compare? best ≠ some wanted := by
  have hcomparable : ∀ a ∈ items, ∀ b ∈ items, a.Comparable b := fun a ha b hb =>
    hitems.imp (fun h => ⟨h a ha, h b hb⟩) fun h => ⟨h a ha, h b hb⟩
  obtain ⟨first, rest, rfl⟩ := List.exists_cons_of_ne_nil hne
  have hfirst := hcomparable first List.mem_cons_self first List.mem_cons_self
  obtain ⟨best, hmem, hfound, -, hbest⟩ := exists_extreme (f := f) hwanted hcomparable
  refine ⟨best, hmem, ?_, hbest⟩
  rw [callExtreme_of_lists harg,
    extreme_first (Value.isNumber_or_isString_of_comparable hfirst), hfound]
  rfl

/-- **The least and the greatest item.** Of numbers, or of strings, the least is one of them, and
no other is less; there is none of nothing. A list with anything else in it, or with numbers and
strings, has no least item, and the call fails. The greatest item is found likewise. -/
theorem call_extreme (hf : (f, wanted) ∈ [(min, .lt), (max, .gt)]) :
    f.call [.absent] = .ok .absent ∧
    ∀ arg items, arg.Lists items →
      ((∀ v ∈ items, v.IsProperNumber) ∨ (∀ v ∈ items, v.isString = true) →
        (items = [] → f.call [arg] = .ok .absent) ∧
        (items ≠ [] → ∃ best ∈ items, f.call [arg] = .ok (.value best) ∧
          ∀ item ∈ items, item.compare? best ≠ some wanted)) ∧
      ((∃ v ∈ items, v.isNumber = false ∧ v.isString = false) ∨
          (∃ v ∈ items, v.isNumber = true) ∧ (∃ v ∈ items, v.isString = true) →
        ∃ fault, f.call [arg] = .error (.invalidArgument f.name fault)) := by
  obtain ⟨hcall, hwanted⟩ : (∀ arg, f.call [arg] = f.callExtreme wanted arg) ∧ wanted ≠ .eq := by
    simp only [List.mem_cons, Prod.mk.injEq, List.not_mem_nil, or_false] at hf
    rcases hf with ⟨rfl, rfl⟩ | ⟨rfl, rfl⟩ <;> exact ⟨fun _ => rfl, by decide⟩
  simp only [hcall]
  refine ⟨rfl, fun arg items harg => ⟨fun hitems => ⟨?_, fun hne => ?_⟩, fun hmixed => ?_⟩⟩
  · rintro rfl
    rw [callExtreme_of_lists harg]
    rfl
  · exact exists_callExtreme hwanted harg hitems hne
  · obtain ⟨fault, hfault⟩ := exists_fault_of_extreme f wanted hmixed
    rw [callExtreme_of_lists harg, hfault]
    exact ⟨fault, rfl⟩

/-- The double of `2 ^ 53 + 1` is that of `2 ^ 53`, which is less. With a string there is no least
item. -/
theorem call_min_of_equal_doubles :
    let items := [.int 9007199254740993, .float 9007199254740992.0, .int 9007199254740992]
    ((∀ v ∈ items, v.IsProperNumber) ∧ items ≠ [] ∧
      ∃ best ∈ items, min.call [.value (.array items)] = .ok (.value best) ∧
        ∀ item ∈ items, item.compare? best ≠ some .lt) ∧
    ((∃ v ∈ items, v.isNumber = true) ∧ ∃ fault,
      min.call [.value (.array (.string "a" :: items))] =
        .error (.invalidArgument min.name fault)) := by
  have hnumbers : ∀ v ∈ [Value.int 9007199254740993, .float 9007199254740992.0,
      .int 9007199254740992], v.IsProperNumber := by
    have hnan : (9007199254740992.0 : Float).isNaN = false := by decide
    simp only [List.forall_mem_cons]
    exact ⟨trivial, hnan, trivial, by simp⟩
  have hmin := (call_extreme List.mem_cons_self).2
  refine ⟨⟨hnumbers, by simp, ((hmin _ _ (.array _)).1 (.inl hnumbers)).2 (by simp)⟩,
    ⟨_, List.mem_cons_self, rfl⟩, (hmin _ _ (.array _)).2 (.inr ⟨?_, ?_⟩)⟩
  · exact ⟨.int 9007199254740993, by simp, rfl⟩
  · exact ⟨.string "a", by simp, rfl⟩

end Builtin

end JsonPath

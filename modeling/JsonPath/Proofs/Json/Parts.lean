import JsonPath.Evaluation.Node

/-!
# The parts of a value

A value that is well formed has each of its parts at one step, so that listing the parts and
following a step say the same.

* `Value.WellFormed.of_mem_parts`, `Value.mem_parts_of_get?` — the parts are what plain steps lead
  to.
* `Value.WellFormed.of_follow` — whatever a path leads to in a well-formed value is well formed.
* `Value.inductionOnParts`, `Value.nestedInduction` — what holds of a value as soon as it holds of
  its parts holds of all.
-/

namespace JsonPath

/-! ## Members -/

namespace Members

variable {α : Type} {name : String} {value : α} {members before after : List (String × α)}

theorem mem_of_lookup (h : members.lookup name = some value) : (name, value) ∈ members := by
  obtain ⟨before, after, rfl, -⟩ := List.lookup_eq_some_iff.1 h
  simp

/-- The member that a name leads to, with the ones before it, which have other names. -/
theorem exists_append_of_lookup (h : members.lookup name = some value) :
    ∃ before after, members = before ++ (name, value) :: after ∧ name ∉ before.map Prod.fst := by
  obtain ⟨before, after, rfl, hb⟩ := List.lookup_eq_some_iff.1 h
  refine ⟨before, after, rfl, fun hmem => ?_⟩
  obtain ⟨m, hm, rfl⟩ := List.mem_map.1 hmem
  simpa using hb m hm

theorem lookup_append (h : name ∉ before.map Prod.fst) (value : α) :
    (before ++ (name, value) :: after).lookup name = some value := by
  refine List.lookup_eq_some_iff.2 ⟨before, after, rfl, fun m hm => bne_iff_ne.2 ?_⟩
  rintro rfl
  exact h (List.mem_map_of_mem hm)

theorem insert_append (h : name ∉ before.map Prod.fst) (old new : α) :
    insert name new (before ++ (name, old) :: after) = before ++ (name, new) :: after := by
  induction before with
  | nil => simp [insert]
  | cons m rest ih =>
    obtain ⟨hne, hrest⟩ := not_or.1 (mt List.mem_cons.2 h)
    simp [insert, Ne.symm hne, ih hrest]

theorem erase_append (h : name ∉ before.map Prod.fst) (old : α) :
    erase name (before ++ (name, old) :: after) = before ++ after := by
  induction before with
  | nil => simp [erase]
  | cons m rest ih =>
    obtain ⟨hne, hrest⟩ := not_or.1 (mt List.mem_cons.2 h)
    simp [erase, Ne.symm hne, ih hrest]

theorem lookup_of_mem (hn : (members.map Prod.fst).Nodup) (h : (name, value) ∈ members) :
    members.lookup name = some value := by
  obtain ⟨front, back, rfl⟩ := List.append_of_mem h
  rw [List.map_append, List.map_cons, List.nodup_append] at hn
  exact lookup_append (fun hmem => hn.2.2 name hmem name List.mem_cons_self rfl) value

/-- Storing the value that is there already changes nothing. -/
theorem insert_of_lookup (h : members.lookup name = some value) :
    insert name value members = members := by
  obtain ⟨before, after, rfl, hb⟩ := exists_append_of_lookup h
  exact insert_append hb value value

end Members

namespace Step

@[simp] theorem isPlain_index (i : Nat) : (index i).IsPlain := trivial

@[simp] theorem isPlain_name (s : String) : (name s).IsPlain := trivial

@[simp] theorem not_isPlain_root : ¬ root.IsPlain := id

variable {v w : Value}

/-- Positions lead into arrays only. -/
theorem get?_index_eq_some {i : Nat} :
    (index i).get? v = some w ↔ ∃ items, v = .array items ∧ items[i]? = some w := by
  cases v <;> simp [get?, Value.element?, Value.elements]

/-- Names lead into objects only. -/
theorem get?_name_eq_some {n : String} :
    (name n).get? v = some w ↔ ∃ members, v = .object members ∧ members.lookup n = some w := by
  cases v <;> simp [get?, Value.member?, Value.members]

end Step

namespace Value

/-! ## Well-formed values -/

theorem wellFormedItems_iff {items : List Value} :
    WellFormedItems items ↔ ∀ v ∈ items, v.WellFormed := by
  induction items with
  | nil => simp [WellFormedItems]
  | cons v rest ih => simp [WellFormedItems, ih]

theorem wellFormedMembers_iff {members : List (String × Value)} :
    WellFormedMembers members ↔ ∀ m ∈ members, m.2.WellFormed := by
  induction members with
  | nil => simp [WellFormedMembers]
  | cons m rest ih => simp [WellFormedMembers, ih]

@[simp] theorem wellFormed_array {items : List Value} :
    (array items).WellFormed ↔ ∀ v ∈ items, v.WellFormed := by
  rw [WellFormed, wellFormedItems_iff]

@[simp] theorem wellFormed_object {members : List (String × Value)} :
    (object members).WellFormed ↔
      (members.map Prod.fst).Nodup ∧ ∀ m ∈ members, m.2.WellFormed := by
  rw [WellFormed, wellFormedMembers_iff]

/-! ## Parts and steps -/

theorem mem_parts_array {items : List Value} {s : Step} {w : Value} :
    (s, w) ∈ (array items).parts ↔ ∃ i, s = .index i ∧ items[i]? = some w := by
  simp only [parts, List.mem_map, Prod.exists, Prod.mk.injEq, List.mem_zipIdx_iff_getElem?]
  constructor
  · rintro ⟨v, i, h, rfl, rfl⟩
    exact ⟨i, rfl, h⟩
  · rintro ⟨i, rfl, h⟩
    exact ⟨w, i, h, rfl, rfl⟩

theorem mem_parts_object {members : List (String × Value)} {s : Step} {w : Value} :
    (s, w) ∈ (object members).parts ↔ ∃ name, s = .name name ∧ (name, w) ∈ members := by
  simp only [parts, List.mem_map, Prod.exists, Prod.mk.injEq]
  constructor
  · rintro ⟨name, v, h, rfl, rfl⟩
    exact ⟨name, rfl, h⟩
  · rintro ⟨name, rfl, h⟩
    exact ⟨name, w, h, rfl, rfl⟩

/-- A part is well formed, and the step it is listed with leads to it. -/
theorem WellFormed.of_mem_parts {v w : Value} {s : Step} (hv : v.WellFormed)
    (h : (s, w) ∈ v.parts) : s.IsPlain ∧ s.get? v = some w ∧ w.WellFormed := by
  cases v with
  | array items =>
    obtain ⟨i, rfl, hi⟩ := mem_parts_array.1 h
    exact ⟨trivial, hi, wellFormed_array.1 hv w (List.mem_of_getElem? hi)⟩
  | object members =>
    obtain ⟨name, rfl, hm⟩ := mem_parts_object.1 h
    obtain ⟨hn, hw⟩ := wellFormed_object.1 hv
    exact ⟨trivial, Members.lookup_of_mem hn hm, hw _ hm⟩
  | null | bool | float | int | string => simp [parts] at h

theorem mem_parts_of_get? {v w : Value} {s : Step} (hs : s.IsPlain) (h : s.get? v = some w) :
    (s, w) ∈ v.parts := by
  cases s with
  | root => exact absurd hs Step.not_isPlain_root
  | index i =>
    obtain ⟨items, rfl, hi⟩ := Step.get?_index_eq_some.1 h
    exact mem_parts_array.2 ⟨i, rfl, hi⟩
  | name name =>
    obtain ⟨members, rfl, hm⟩ := Step.get?_name_eq_some.1 h
    exact mem_parts_object.2 ⟨name, rfl, Members.mem_of_lookup hm⟩

theorem WellFormed.of_get? {v w : Value} {s : Step} (hv : v.WellFormed) (h : s.get? v = some w) :
    w.WellFormed := by
  cases s with
  | root =>
    obtain rfl : v = w := by simpa [Step.get?] using h
    exact hv
  | index i => exact (hv.of_mem_parts (mem_parts_of_get? (Step.isPlain_index i) h)).2.2
  | name name => exact (hv.of_mem_parts (mem_parts_of_get? (Step.isPlain_name name) h)).2.2

/-- Whatever some steps lead to in a well-formed value is well formed. -/
theorem WellFormed.of_follow {v w : Value} {ss : List Step} (hv : v.WellFormed)
    (h : Path.follow ss v = some w) : w.WellFormed := by
  induction ss generalizing v with
  | nil =>
    obtain rfl : v = w := by simpa [Path.follow] using h
    exact hv
  | cons s ss ih =>
    obtain ⟨u, hu, hw⟩ := Option.bind_eq_some_iff.1 h
    exact ih (hv.of_get? hu) hw

/-! ## Induction -/

theorem sizeOf_lt_of_mem_parts {v w : Value} {s : Step} (h : (s, w) ∈ v.parts) :
    sizeOf w < sizeOf v := by
  cases v with
  | array items =>
    obtain ⟨i, -, hi⟩ := mem_parts_array.1 h
    have := List.sizeOf_lt_of_mem (List.mem_of_getElem? hi)
    simp only [array.sizeOf_spec]
    omega
  | object members =>
    obtain ⟨name, -, hm⟩ := mem_parts_object.1 h
    have := List.sizeOf_lt_of_mem hm
    simp only [Prod.mk.sizeOf_spec] at this
    simp only [object.sizeOf_spec]
    omega
  | null | bool | float | int | string => simp [parts] at h

/-- What holds of a value as soon as it holds of its parts holds of every value. -/
@[elab_as_elim]
theorem inductionOnParts {motive : Value → Prop}
    (step : ∀ v : Value, (∀ s w, (s, w) ∈ v.parts → motive w) → motive v) (v : Value) :
    motive v :=
  step v fun _ w _ => inductionOnParts step w
termination_by sizeOf v
decreasing_by exact sizeOf_lt_of_mem_parts (by assumption)

/-- The same with a case for each kind of value. -/
@[elab_as_elim]
theorem nestedInduction {motive : Value → Prop} (null : motive null) (bool : ∀ b, motive (bool b))
    (float : ∀ x, motive (float x)) (int : ∀ n, motive (int n)) (string : ∀ s, motive (string s))
    (array : ∀ items : List Value, (∀ v ∈ items, motive v) → motive (array items))
    (object : ∀ members : List (String × Value), (∀ m ∈ members, motive m.2) →
      motive (object members))
    (v : Value) : motive v := by
  induction v using inductionOnParts with
  | step v ih =>
    cases v with
    | null => exact null
    | bool b => exact bool b
    | float x => exact float x
    | int n => exact int n
    | string s => exact string s
    | array items =>
      refine array items fun w hw => ?_
      obtain ⟨i, hi⟩ := List.mem_iff_getElem?.1 hw
      exact ih (.index i) w (mem_parts_array.2 ⟨i, rfl, hi⟩)
    | object members =>
      exact object members fun m hm => ih (.name m.1) m.2 (mem_parts_object.2 ⟨m.1, rfl, hm⟩)

end Value

end JsonPath

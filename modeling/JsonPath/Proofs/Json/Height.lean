import JsonPath.Proofs.Json.Locations

/-!
# The height of a value

The height of a value is the number of steps to the deepest place in it. Values without parts, among
them empty arrays and objects, have height zero.

* `height_le_iff` — the parts of a value have smaller heights, and its own is the least with that.
* `height_le_iff_locations` — no location is deeper than the height, and one is as deep.
-/

namespace JsonPath.Value

mutual

/-- How deeply arrays and objects are nested, where those that hold nothing do not count. -/
def height : Value → Nat
  | array items => heightItems items
  | object members => heightMembers members
  | _ => 0

def heightItems : List Value → Nat
  | [] => 0
  | v :: rest => max (v.height + 1) (heightItems rest)

def heightMembers : List (String × Value) → Nat
  | [] => 0
  | (_, v) :: rest => max (v.height + 1) (heightMembers rest)

end

variable {v : Value} {k : Nat}

theorem heightItems_le_iff {items : List Value} :
    heightItems items ≤ k ↔ ∀ v ∈ items, v.height < k := by
  induction items with
  | nil => simp [heightItems]
  | cons v rest ih => rw [heightItems, List.forall_mem_cons, Nat.max_le, ih, Nat.succ_le_iff]

theorem heightMembers_le_iff {members : List (String × Value)} :
    heightMembers members ≤ k ↔ ∀ m ∈ members, m.2.height < k := by
  induction members with
  | nil => simp [heightMembers]
  | cons m rest ih => rw [heightMembers, List.forall_mem_cons, Nat.max_le, ih, Nat.succ_le_iff]

@[simp] theorem height_array_le {items : List Value} :
    (array items).height ≤ k ↔ ∀ v ∈ items, v.height < k := by
  rw [height, heightItems_le_iff]

@[simp] theorem height_object_le {members : List (String × Value)} :
    (object members).height ≤ k ↔ ∀ m ∈ members, m.2.height < k := by
  rw [height, heightMembers_le_iff]

theorem height_le_iff : v.height ≤ k ↔ ∀ s w, (s, w) ∈ v.parts → w.height < k := by
  cases v with
  | array items =>
    rw [height_array_le]
    constructor
    · intro h s w hw
      obtain ⟨i, -, hi⟩ := mem_parts_array.1 hw
      exact h w (List.mem_of_getElem? hi)
    · intro h w hw
      obtain ⟨i, hi⟩ := List.mem_iff_getElem?.1 hw
      exact h (.index i) w (mem_parts_array.2 ⟨i, rfl, hi⟩)
  | object members =>
    rw [height_object_le]
    constructor
    · intro h s w hw
      obtain ⟨name, -, hm⟩ := mem_parts_object.1 hw
      exact h (name, w) hm
    · rintro h ⟨name, w⟩ hm
      exact h (.name name) w (mem_parts_object.2 ⟨name, rfl, hm⟩)
  | null | bool | float | int | string => simp [height, parts]

theorem height_lt_of_mem_parts {s : Step} {w : Value} (h : (s, w) ∈ v.parts) :
    w.height < v.height :=
  height_le_iff.1 (Nat.le_refl v.height) s w h

/-- The height is the depth of the deepest location. -/
theorem height_le_iff_locations :
    v.height ≤ k ↔ ∀ ss w, (ss, w) ∈ v.locations → ss.length ≤ k := by
  induction v using inductionOnParts generalizing k with
  | step v ih =>
    rw [height_le_iff]
    constructor
    · intro h ss w hl
      cases ss with
      | nil => exact Nat.zero_le k
      | cons s ss =>
        obtain ⟨u, hu, hw⟩ := cons_mem_locations.1 hl
        have hlt : u.height < k := h s u hu
        have hlength : ss.length ≤ k - 1 := (ih s u hu).1 (by omega) ss w hw
        simp only [List.length_cons]
        omega
    · intro h s u hu
      have hpos : 1 ≤ k := h [s] u (cons_mem_locations.2 ⟨u, hu, nil_mem_locations.2 rfl⟩)
      have hle : u.height ≤ k - 1 := (ih s u hu).2 fun ss w hw => by
        have hlength := h (s :: ss) w (cons_mem_locations.2 ⟨u, hu, hw⟩)
        simp only [List.length_cons] at hlength
        omega
      omega

end JsonPath.Value

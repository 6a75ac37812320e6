import JsonPath.Proofs.Json.Equality
import JsonPath.Proofs.Number.Order

/-!
# Equivalence is an equality

Filters compare values by their numbers: `1` is equivalent to `1.0`, at any depth. Objects are
compared by their lengths and by looking up the members of the first in the second, which is the
same the other way round because each name stands once. What keeps equivalence from being an
equality like any other is doubles: NaN differs from itself, and integers that differ may be rounded
to one double. Values without doubles are equivalent just if they are the same.

* `Value.AllFloats` — a property of all doubles inside a value; with it `NaNFree` and `FloatFree`.
* `Value.Reordered` — members of objects in another order, at any depth.
* `Value.equivalent_self_iff`, `Value.equivalent_comm`, `Value.Reordered.equivalent_left`,
  `Value.equivalent_eq_same` — the laws by themselves.
* `Value.equivalent_laws` — all of them together.
-/

namespace JsonPath.Value

/-! ## Doubles inside a value -/

mutual

/-- Whether all doubles inside the value have a property. -/
def AllFloats (P : Float → Prop) : Value → Prop
  | float x => P x
  | array items => AllFloatsItems P items
  | object members => AllFloatsMembers P members
  | _ => True

def AllFloatsItems (P : Float → Prop) : List Value → Prop
  | [] => True
  | v :: rest => AllFloats P v ∧ AllFloatsItems P rest

def AllFloatsMembers (P : Float → Prop) : List (String × Value) → Prop
  | [] => True
  | (_, v) :: rest => AllFloats P v ∧ AllFloatsMembers P rest

end

/-- Whether there is no NaN inside the value. -/
def NaNFree (v : Value) : Prop := v.AllFloats fun x => x.isNaN = false

/-- Whether there is no double inside the value. -/
def FloatFree (v : Value) : Prop := v.AllFloats fun _ => False

variable {P : Float → Prop} {u v w x : Value} {items others : List Value}
  {members entries : List (String × Value)}

theorem allFloatsItems_iff : AllFloatsItems P items ↔ ∀ v ∈ items, v.AllFloats P := by
  induction items with
  | nil => simp [AllFloatsItems]
  | cons v rest ih => simp [AllFloatsItems, ih]

theorem allFloatsMembers_iff : AllFloatsMembers P members ↔ ∀ m ∈ members, m.2.AllFloats P := by
  induction members with
  | nil => simp [AllFloatsMembers]
  | cons m rest ih => simp [AllFloatsMembers, ih]

@[simp] theorem allFloats_array : (array items).AllFloats P ↔ ∀ v ∈ items, v.AllFloats P := by
  rw [AllFloats, allFloatsItems_iff]

@[simp] theorem allFloats_object :
    (object members).AllFloats P ↔ ∀ m ∈ members, m.2.AllFloats P := by
  rw [AllFloats, allFloatsMembers_iff]

/-! ## Items and members -/

theorem equivalentMembers_iff : equivalentMembers members entries = true ↔
    ∀ m ∈ members, ∃ w, entries.lookup m.1 = some w ∧ m.2.equivalent w = true := by
  induction members with
  | nil => simp [equivalentMembers]
  | cons m members ih =>
    rw [equivalentMembers, Bool.and_eq_true, ih, List.forall_mem_cons]
    cases entries.lookup m.1 <;> simp

theorem equivalent_object : (object members).equivalent (object entries) = true ↔
    members.length = entries.length ∧
      ∀ m ∈ members, ∃ w, entries.lookup m.1 = some w ∧ m.2.equivalent w = true := by
  rw [equivalent, Bool.and_eq_true, beq_iff_eq, equivalentMembers_iff]

/-! ## Every value is equivalent to itself, NaN apart -/

theorem equivalentItems_self_iff :
    equivalentItems items items = true ↔ ∀ v ∈ items, v.equivalent v = true := by
  induction items with
  | nil => simp [equivalentItems]
  | cons v rest ih => simp [equivalentItems, ih]

theorem equivalent_self_iff (hv : v.WellFormed) : v.equivalent v = true ↔ v.NaNFree := by
  induction v using nestedInduction with
  | null => exact iff_of_true rfl trivial
  | bool b => exact iff_of_true (beq_self_eq_true b) trivial
  | int n => exact iff_of_true (beq_self_eq_true n) trivial
  | string s => exact iff_of_true (beq_self_eq_true s) trivial
  | float x => exact Number.beq_self_iff x
  | array items ih =>
    rw [equivalent, equivalentItems_self_iff, NaNFree, allFloats_array]
    exact forall₂_congr fun v hmem => ih v hmem (wellFormed_array.1 hv v hmem)
  | object members ih =>
    obtain ⟨hnodup, hmembers⟩ := wellFormed_object.1 hv
    rw [equivalent_object, NaNFree, allFloats_object, and_iff_right rfl]
    refine forall₂_congr fun m hm => ?_
    rw [Members.lookup_of_mem hnodup hm]
    exact Iff.trans (by simp) (ih m hm (hmembers m hm))

/-! ## The sides may be swapped -/

theorem equivalentItems_comm (ih : ∀ v ∈ items, ∀ w ∈ others, v.equivalent w = w.equivalent v) :
    equivalentItems items others = equivalentItems others items := by
  induction items generalizing others with
  | nil => cases others <;> rfl
  | cons v items hitems =>
    cases others with
    | nil => rfl
    | cons w others =>
      rw [equivalentItems, equivalentItems, ih v List.mem_cons_self w List.mem_cons_self]
      rw [hitems fun a ha b hb => ih a (List.mem_cons_of_mem v ha) b (List.mem_cons_of_mem w hb)]

/-- As many names that are all found are the same names. -/
theorem names_perm (hmembers : (members.map Prod.fst).Nodup)
    (hlength : members.length = entries.length)
    (h : ∀ m ∈ members, ∃ w, entries.lookup m.1 = some w) :
    (members.map Prod.fst).Perm (entries.map Prod.fst) := by
  have hsubset : members.map Prod.fst ⊆ entries.map Prod.fst := by
    intro name hname
    obtain ⟨m, hm, rfl⟩ := List.mem_map.1 hname
    obtain ⟨w, hw⟩ := h m hm
    exact List.mem_map.2 ⟨(m.1, w), Members.mem_of_lookup hw, rfl⟩
  refine (List.subperm_of_subset hmembers hsubset).perm_of_length_le ?_
  simp [hlength]

theorem equivalent_object_swap (hmembers : (members.map Prod.fst).Nodup)
    (hentries : (entries.map Prod.fst).Nodup)
    (ih : ∀ m ∈ members, ∀ n ∈ entries, m.2.equivalent n.2 = true → n.2.equivalent m.2 = true)
    (h : (object members).equivalent (object entries) = true) :
    (object entries).equivalent (object members) = true := by
  rw [equivalent_object] at h ⊢
  obtain ⟨hlength, hfound⟩ := h
  have hnames := names_perm hmembers hlength fun m hm => (hfound m hm).imp fun _ hw => hw.1
  refine ⟨hlength.symm, fun n hn => ?_⟩
  obtain ⟨m, hm, hname⟩ := List.mem_map.1 (hnames.mem_iff.2 (List.mem_map_of_mem hn))
  obtain ⟨w, hw, hequivalent⟩ := hfound m hm
  -- The member that is found for `m` is the one with that name, which is `n`.
  rw [hname, Members.lookup_of_mem hentries hn] at hw
  obtain rfl := Option.some.inj hw
  exact ⟨m.2, hname ▸ Members.lookup_of_mem hmembers hm, ih m hm n hn hequivalent⟩

theorem equivalent_comm (hv : v.WellFormed) (hw : w.WellFormed) :
    v.equivalent w = w.equivalent v := by
  induction v using nestedInduction generalizing w with
  | null => cases w <;> rfl
  | bool b =>
    cases w with
    | bool c => exact BEq.comm
    | _ => rfl
  | int m =>
    cases w with
    | int n => exact BEq.comm
    | float y => exact Number.beq_comm _ _
    | _ => rfl
  | string s =>
    cases w with
    | string t => exact BEq.comm
    | _ => rfl
  | float x =>
    cases w with
    | int n | float y => exact Number.beq_comm _ _
    | _ => rfl
  | array items ih =>
    cases w with
    | array others =>
      exact equivalentItems_comm fun a ha b hb =>
        ih a ha (wellFormed_array.1 hv a ha) (wellFormed_array.1 hw b hb)
    | _ => rfl
  | object members ih =>
    cases w with
    | object entries =>
      obtain ⟨hmembers, hvalues⟩ := wellFormed_object.1 hv
      obtain ⟨hentries, hothers⟩ := wellFormed_object.1 hw
      have hparts : ∀ m ∈ members, ∀ n ∈ entries, m.2.equivalent n.2 = n.2.equivalent m.2 :=
        fun m hm n hn => ih m hm (hvalues m hm) (hothers n hn)
      rw [Bool.eq_iff_iff]
      exact ⟨equivalent_object_swap hmembers hentries fun m hm n hn => (hparts m hm n hn ▸ ·),
        equivalent_object_swap hentries hmembers fun n hn m hm => (hparts m hm n hn ▸ ·)⟩
    | _ => rfl

/-! ## The order of members does not matter -/

/-- Whether a value comes of another by putting members of objects into another order, at any depth
and any number of times. -/
inductive Reordered : Value → Value → Prop where
  | refl (a : Value) : Reordered a a
  | trans {a b c : Value} (h : Reordered a b) (h' : Reordered b c) : Reordered a c
  | members {ms ns : List (String × Value)} (h : ms.Perm ns) : Reordered (object ms) (object ns)
  | element {a b : Value} (before after : List Value) (h : Reordered a b) :
    Reordered (array (before ++ a :: after)) (array (before ++ b :: after))
  | member {a b : Value} (before after : List (String × Value)) (name : String)
    (h : Reordered a b) :
    Reordered (object (before ++ (name, a) :: after)) (object (before ++ (name, b) :: after))

namespace Reordered

theorem wellFormed (h : Reordered v w) (hv : v.WellFormed) : w.WellFormed := by
  induction h with
  | refl => exact hv
  | trans _ _ ih ih' => exact ih' (ih hv)
  | members h =>
    obtain ⟨hnodup, hvalues⟩ := wellFormed_object.1 hv
    exact wellFormed_object.2
      ⟨(h.map Prod.fst).nodup_iff.1 hnodup, fun m hm => hvalues m (h.mem_iff.2 hm)⟩
  | element before after _ ih =>
    simp only [wellFormed_array, List.forall_mem_append, List.forall_mem_cons] at hv ⊢
    exact ⟨hv.1, ih hv.2.1, hv.2.2⟩
  | member before after name _ ih =>
    simp only [wellFormed_object, List.map_append, List.map_cons, List.forall_mem_append,
      List.forall_mem_cons] at hv ⊢
    exact ⟨hv.1, hv.2.1, ih hv.2.2.1, hv.2.2.2⟩

theorem equivalentItems_congr (h : ∀ x, v.equivalent x = w.equivalent x)
    (before after : List Value) (xs : List Value) :
    equivalentItems (before ++ v :: after) xs = equivalentItems (before ++ w :: after) xs := by
  induction before generalizing xs with
  | nil => cases xs <;> simp [equivalentItems, h]
  | cons a before ih => cases xs <;> simp [equivalentItems, ih]

theorem equivalentMembers_congr (h : ∀ x, v.equivalent x = w.equivalent x)
    (before after : List (String × Value)) (name : String) (xs : List (String × Value)) :
    equivalentMembers (before ++ (name, v) :: after) xs =
      equivalentMembers (before ++ (name, w) :: after) xs := by
  induction before with
  | nil => simp [equivalentMembers, h]
  | cons a before ih => simp [equivalentMembers, ih]

/-- The first side may be reordered. -/
theorem equivalent_left (h : Reordered v w) (x : Value) : v.equivalent x = w.equivalent x := by
  induction h generalizing x with
  | refl => rfl
  | trans _ _ ih ih' => exact (ih x).trans (ih' x)
  | members h =>
    cases x with
    | object entries =>
      rw [Bool.eq_iff_iff, equivalent_object, equivalent_object, h.length_eq]
      simp only [h.mem_iff]
    | _ => rfl
  | element before after _ ih =>
    cases x with
    | array xs => exact equivalentItems_congr ih before after xs
    | _ => rfl
  | member before after name _ ih =>
    cases x with
    | object xs =>
      simp only [equivalent, List.length_append, List.length_cons,
        equivalentMembers_congr ih before after name xs]
    | _ => rfl

/-- Both sides may be reordered. -/
theorem equivalent_eq {v' w' : Value} (hv : Reordered v v') (hw : Reordered w w')
    (hvw : v.WellFormed) (hww : w.WellFormed) : v'.equivalent w' = v.equivalent w :=
  calc v'.equivalent w' = v.equivalent w' := (hv.equivalent_left w').symm
    _ = w'.equivalent v := equivalent_comm hvw (hw.wellFormed hww)
    _ = w.equivalent v := (hw.equivalent_left v).symm
    _ = v.equivalent w := equivalent_comm hww hvw

end Reordered

/-! ## Sameness -/

theorem equivalentItems_of_same
    (ih : ∀ v ∈ items, ∀ w, v.same w = true → v.equivalent w = true)
    (h : sameItems items others = true) : equivalentItems items others = true := by
  induction items generalizing others with
  | nil => cases others <;> simp_all [sameItems, equivalentItems]
  | cons v items hitems =>
    cases others with
    | nil => contradiction
    | cons w others =>
      obtain ⟨hfirst, hrest⟩ := Bool.and_eq_true_iff.1 h
      refine Bool.and_eq_true_iff.2 ⟨ih v List.mem_cons_self w hfirst, hitems ?_ hrest⟩
      exact fun a ha => ih a (List.mem_cons_of_mem v ha)

/-- Values that are the same are equivalent. -/
theorem equivalent_of_same (h : v.same w = true) : v.equivalent w = true := by
  induction v using nestedInduction generalizing w with
  | null | bool | string => cases w <;> exact h
  | int m =>
    cases w with
    | float y => contradiction
    | _ => exact h
  | float x =>
    cases w with
    | int n => contradiction
    | _ => exact h
  | array items ih =>
    cases w with
    | array others => exact equivalentItems_of_same (fun a ha b => ih a ha) h
    | _ => contradiction
  | object members ih =>
    cases w with
    | object entries =>
      obtain ⟨hlength, hmembers⟩ := Bool.and_eq_true_iff.1 h
      refine equivalent_object.2 ⟨beq_iff_eq.1 hlength, fun m hm => ?_⟩
      obtain ⟨w, hw, hsame⟩ := sameMembers_iff.1 hmembers m hm
      exact ⟨w, hw, ih m hm hsame⟩
    | _ => contradiction

theorem same_of_equivalentItems
    (ih : ∀ v ∈ items, ∀ w ∈ others, v.equivalent w = true → v.same w = true)
    (h : equivalentItems items others = true) : sameItems items others = true := by
  induction items generalizing others with
  | nil => cases others <;> simp_all [sameItems, equivalentItems]
  | cons v items hitems =>
    cases others with
    | nil => contradiction
    | cons w others =>
      obtain ⟨hfirst, hrest⟩ := Bool.and_eq_true_iff.1 h
      refine Bool.and_eq_true_iff.2
        ⟨ih v List.mem_cons_self w List.mem_cons_self hfirst, hitems (fun a ha b hb => ?_) hrest⟩
      exact ih a (List.mem_cons_of_mem v ha) b (List.mem_cons_of_mem w hb)

/-- Equivalent values without doubles are the same. -/
theorem same_of_equivalent (hv : v.FloatFree) (hw : w.FloatFree) (h : v.equivalent w = true) :
    v.same w = true := by
  induction v using nestedInduction generalizing w with
  | null | bool | string => cases w <;> exact h
  | int m =>
    cases w with
    | int n => exact h
    | float y => exact hw.elim
    | _ => contradiction
  | float x => exact hv.elim
  | array items ih =>
    cases w with
    | array others =>
      exact same_of_equivalentItems (fun a ha b hb =>
        ih a ha (allFloats_array.1 hv a ha) (allFloats_array.1 hw b hb)) h
    | _ => contradiction
  | object members ih =>
    cases w with
    | object entries =>
      obtain ⟨hlength, hmembers⟩ := equivalent_object.1 h
      refine Bool.and_eq_true_iff.2 ⟨beq_iff_eq.2 hlength, sameMembers_iff.2 fun m hm => ?_⟩
      obtain ⟨x, hx, hequivalent⟩ := hmembers m hm
      have hxfree := allFloats_object.1 hw (m.1, x) (Members.mem_of_lookup hx)
      exact ⟨x, hx, ih m hm (allFloats_object.1 hv m hm) hxfree hequivalent⟩
    | _ => contradiction

theorem equivalent_eq_same (hv : v.FloatFree) (hw : w.FloatFree) : v.equivalent w = v.same w :=
  Bool.eq_iff_iff.2 ⟨same_of_equivalent hv hw, equivalent_of_same⟩

theorem sameItems_trans {first second third : List Value}
    (ih : ∀ v ∈ first, ∀ w x, v.same w = true → w.same x = true → v.same x = true)
    (h : sameItems first second = true) (h' : sameItems second third = true) :
    sameItems first third = true := by
  induction first generalizing second third with
  | nil =>
    cases second with
    | nil => exact h'
    | cons => contradiction
  | cons v first hitems =>
    cases second with
    | nil => contradiction
    | cons w second =>
      cases third with
      | nil => contradiction
      | cons x third =>
        obtain ⟨hvw, hrest⟩ := Bool.and_eq_true_iff.1 h
        obtain ⟨hwx, hrest'⟩ := Bool.and_eq_true_iff.1 h'
        refine Bool.and_eq_true_iff.2
          ⟨ih v List.mem_cons_self w x hvw hwx, hitems (fun a ha => ?_) hrest hrest'⟩
        exact ih a (List.mem_cons_of_mem v ha)

/-- Sameness is transitive, doubles or not. -/
theorem same_trans (h : v.same w = true) (h' : w.same x = true) : v.same x = true := by
  induction v using nestedInduction generalizing w x with
  | null =>
    cases w with
    | null => exact h'
    | _ => contradiction
  | bool b =>
    cases w with
    | bool c =>
      obtain rfl : b = c := beq_iff_eq.1 h
      exact h'
    | _ => contradiction
  | int m =>
    cases w with
    | int n =>
      obtain rfl : m = n := beq_iff_eq.1 h
      exact h'
    | _ => contradiction
  | string s =>
    cases w with
    | string t =>
      obtain rfl : s = t := beq_iff_eq.1 h
      exact h'
    | _ => contradiction
  | float a =>
    cases w with
    | float b =>
      cases x with
      | float c => exact Number.beq_trans h h'
      | _ => contradiction
    | _ => contradiction
  | array items ih =>
    cases w with
    | array others =>
      cases x with
      | array thirds => exact sameItems_trans (fun a ha b c => ih a ha) h h'
      | _ => contradiction
    | _ => contradiction
  | object members ih =>
    cases w with
    | object entries =>
      cases x with
      | object thirds =>
        obtain ⟨hlength, hmembers⟩ := Bool.and_eq_true_iff.1 h
        obtain ⟨hlength', hentries⟩ := Bool.and_eq_true_iff.1 h'
        have hlengths := (beq_iff_eq.1 hlength).trans (beq_iff_eq.1 hlength')
        refine Bool.and_eq_true_iff.2 ⟨beq_iff_eq.2 hlengths, sameMembers_iff.2 fun m hm => ?_⟩
        obtain ⟨b, hb, hsame⟩ := sameMembers_iff.1 hmembers m hm
        obtain ⟨c, hc, hsame'⟩ := sameMembers_iff.1 hentries (m.1, b) (Members.mem_of_lookup hb)
        exact ⟨c, hc, ih m hm hsame hsame'⟩
      | _ => contradiction
    | _ => contradiction

/-! ## All laws -/

/-- **Equivalence is an equality.** It holds of a value and itself unless there is a NaN inside, it
is symmetric, it holds of values that are the same, and the order of members makes no difference to
it. Of values without doubles it is sameness, and so it is transitive. -/
theorem equivalent_laws (hv : v.WellFormed) (hw : w.WellFormed) :
    (v.equivalent v = true ↔ v.NaNFree) ∧
      v.equivalent w = w.equivalent v ∧
      (v.same w = true → v.equivalent w = true) ∧
      (∀ v' w' : Value, Reordered v v' → Reordered w w' → v'.equivalent w' = v.equivalent w) ∧
      (v.FloatFree → w.FloatFree → v.equivalent w = v.same w ∧
        ∀ x : Value, x.FloatFree → v.equivalent w = true → w.equivalent x = true →
          v.equivalent x = true) := by
  refine ⟨equivalent_self_iff hv, equivalent_comm hv hw, equivalent_of_same,
    fun v' w' hv' hw' => hv'.equivalent_eq hw' hv hw, fun hvfree hwfree => ?_⟩
  refine ⟨equivalent_eq_same hvfree hwfree, fun x hxfree hvw hwx => equivalent_of_same ?_⟩
  exact same_trans (same_of_equivalent hvfree hwfree hvw) (same_of_equivalent hwfree hxfree hwx)

/-- `{"a":1,"b":[0.5]}` is equivalent to `{"b":[0.5],"a":1.0}`, which is `{"a":1.0,"b":[0.5]}` in
another order, and the other way round. -/
theorem equivalent_laws_reordered :
    (object [("a", int 1), ("b", array [float 0.5])]).equivalent
        (object [("b", array [float 0.5]), ("a", float 1.0)]) = true ∧
      (object [("a", float 1.0), ("b", array [float 0.5])]).equivalent
        (object [("a", int 1), ("b", array [float 0.5])]) = true := by
  have hv : (object [("a", int 1), ("b", array [float 0.5])]).WellFormed := by
    simp [WellFormed, WellFormedMembers, WellFormedItems]
  have hw : (object [("a", float 1.0), ("b", array [float 0.5])]).WellFormed := by
    simp [WellFormed, WellFormedMembers, WellFormedItems]
  obtain ⟨-, hcomm, -, hreordered, -⟩ := equivalent_laws hv hw
  have hequivalent : (object [("a", int 1), ("b", array [float 0.5])]).equivalent
      (object [("a", float 1.0), ("b", array [float 0.5])]) = true := by decide
  rw [← hcomm, hreordered _ _ (.refl _) (.members (.swap _ _ _))]
  exact ⟨hequivalent, hequivalent⟩

end JsonPath.Value

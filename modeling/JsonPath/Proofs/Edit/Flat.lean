import JsonPath.Edit.Flat
import JsonPath.Proofs.Edit.Store
import JsonPath.Proofs.Json.Locations
import JsonPath.Proofs.Location.RoundTrip

/-!
# Documents rebuilt from their flat form

The entries of a flat form are the leaves of the document, in document order. When the leaves of a
part come, all parts before it are complete and it is the one that comes next in its container. So
the first of its leaves adds it at the end, as an empty container of its kind if it has parts, and
the others are stored inside it. Nothing is ever padded, and no leaf finds its place taken.

* `leaves_eq` — the leaves are the locations of what has no parts.
* `Step.IsNext` — the place where a part is added at the end.
* `storeAll?_leafLocations` — the leaves of the next part add that part, by induction on the part.
* `foldlM_addEntry` — from the first entry on, reading a flat form is storing its leaves.
-/

namespace JsonPath

variable {s t : Step} {ss : List Step} {v w u x : Value}

/-! ## Members -/

namespace Members

theorem insert_insert {α : Type} (name : String) (a b : α) (members : List (String × α)) :
    insert name b (insert name a members) = insert name b members := by
  induction members with
  | nil => simp [insert]
  | cons m rest ih => by_cases h : m.1 = name <;> simp [insert, h, ih]

theorem insert_of_notMem {α : Type} {name : String} {members : List (String × α)}
    (h : name ∉ members.map Prod.fst) (value : α) :
    insert name value members = members ++ [(name, value)] := by
  induction members with
  | nil => rfl
  | cons m rest ih =>
    obtain ⟨hne, hrest⟩ := not_or.1 (mt List.mem_cons.2 h)
    simp [insert, Ne.symm hne, ih hrest]

theorem notMem_of_nodup {α : Type} {m : String × α} {before after : List (String × α)}
    (h : ((before ++ m :: after).map Prod.fst).Nodup) : m.1 ∉ before.map Prod.fst := by
  rw [List.map_append, List.map_cons, List.nodup_append] at h
  exact fun hmem => h.2.2 m.1 hmem m.1 List.mem_cons_self rfl

theorem foldl_insert {α : Type} (before entries : List (String × α))
    (h : ((before ++ entries).map Prod.fst).Nodup) :
    entries.foldl (fun members m => insert m.1 m.2 members) before = before ++ entries := by
  induction entries generalizing before with
  | nil => simp
  | cons m rest ih =>
    rw [List.foldl_cons, insert_of_notMem (notMem_of_nodup h)]
    simpa using ih (before ++ [m]) (by rwa [List.append_cons] at h)

/-- Entries with different names are members as they are. -/
theorem ofList_eq_self {α : Type} {entries : List (String × α)}
    (h : (entries.map Prod.fst).Nodup) : ofList entries = entries :=
  foldl_insert [] entries h

end Members

/-! ## Leaves -/

namespace Value

/-- The locations of what has no parts, in document order. -/
def leafLocations (v : Value) : List (List Step × Value) :=
  v.locations.filter fun l => l.2.parts.isEmpty

theorem leafLocations_of_parts_eq_nil (h : v.parts = []) : v.leafLocations = [([], v)] := by
  rw [leafLocations, locations_eq, h]
  simp [h]

theorem leafLocations_of_parts_ne_nil (h : v.parts ≠ []) :
    v.leafLocations =
      v.parts.flatMap fun m => m.2.leafLocations.map fun l => (m.1 :: l.1, l.2) := by
  rw [leafLocations, locations_eq, List.filter_cons_of_neg (by simpa using h), List.filter_flatMap]
  refine congrArg (v.parts.flatMap ·) (funext fun m => ?_)
  rw [locationsIn, List.filter_map]
  rfl

theorem leafLocations_ne_nil (v : Value) : v.leafLocations ≠ [] := by
  induction v using inductionOnParts with
  | step v ih =>
    cases hparts : v.parts with
    | nil => simp [leafLocations_of_parts_eq_nil hparts]
    | cons m rest =>
      rw [leafLocations_of_parts_ne_nil (by simp [hparts]), hparts]
      simp [ih m.1 m.2 (by simp [hparts])]

/-- The first leaf of what has parts lies in the first part. -/
theorem leafLocations_eq_cons {m : Step × Value} {rest : List (Step × Value)}
    (h : v.parts = m :: rest) : ∃ ss x ls, v.leafLocations = (m.1 :: ss, x) :: ls := by
  obtain ⟨l, ls, hl⟩ := List.exists_cons_of_ne_nil (leafLocations_ne_nil m.2)
  rw [leafLocations_of_parts_ne_nil (by simp [h]), h, List.flatMap_cons, hl]
  exact ⟨l.1, l.2, _, rfl⟩

/-- What has parts is no leaf, so its leaves lie further on. -/
theorem ne_nil_of_mem_leafLocations (h : v.parts ≠ []) {l : List Step × Value}
    (hl : l ∈ v.leafLocations) : l.1 ≠ [] := by
  rw [leafLocations_of_parts_ne_nil h] at hl
  obtain ⟨m, -, hl⟩ := List.mem_flatMap.1 hl
  obtain ⟨l', -, rfl⟩ := List.mem_map.1 hl
  exact List.cons_ne_nil m.1 l'.1

end Value

open Value

theorem leavesOfItems_eq (path : Path) (i : Nat) (items : List Value) :
    leavesOfItems path i items =
      (items.zipIdx i).flatMap fun m => leaves (path.child (.index m.2)) m.1 := by
  induction items generalizing i with
  | nil => rfl
  | cons v rest ih =>
    rw [leavesOfItems, ih, List.zipIdx_cons, List.flatMap_cons]
    rfl

theorem leavesOfMembers_eq (path : Path) (members : List (String × Value)) :
    leavesOfMembers path members =
      members.flatMap fun m => leaves (path.child (.name m.1)) m.2 := by
  induction members with
  | nil => rfl
  | cons m rest ih =>
    rw [leavesOfMembers, ih, List.flatMap_cons]
    rfl

theorem leaves_of_parts_eq_nil (path : Path) (h : v.parts = []) : leaves path v = [(path, v)] := by
  cases v with
  | array items =>
    obtain rfl : items = [] := by simpa [parts] using h
    rw [leaves] <;> simp
  | object members =>
    obtain rfl : members = [] := by simpa [parts] using h
    rw [leaves] <;> simp
  | null | bool | float | int | string => rw [leaves] <;> simp

theorem leaves_of_parts_ne_nil (path : Path) (h : v.parts ≠ []) :
    leaves path v = v.parts.flatMap fun m => leaves (path.child m.1) m.2 := by
  cases v with
  | array items =>
    cases items with
    | nil => simp [parts] at h
    | cons v rest => rw [leaves, leavesOfItems_eq, parts, List.flatMap_map]
  | object members =>
    cases members with
    | nil => simp [parts] at h
    | cons m rest => rw [leaves, leavesOfMembers_eq, parts, List.flatMap_map]
  | null | bool | float | int | string => simp [parts] at h

/-- The leaves of a value are the locations of what has no parts. -/
theorem leaves_eq (path : Path) (v : Value) :
    leaves path v = v.leafLocations.map fun l => (⟨path.steps ++ l.1⟩, l.2) := by
  induction v using inductionOnParts generalizing path with
  | step v ih =>
    by_cases h : v.parts = []
    · simp [leaves_of_parts_eq_nil path h, leafLocations_of_parts_eq_nil h]
    · rw [leaves_of_parts_ne_nil path h, leafLocations_of_parts_ne_nil h, List.map_flatMap,
        List.flatMap_def, List.flatMap_def]
      refine congrArg List.flatten (List.map_congr_left fun m hm => ?_)
      rw [ih m.1 m.2 hm, List.map_map]
      simp [Path.child, Function.comp_def]

/-! ## Entries -/

/-- The entry of a leaf in a flat form. -/
def Path.entry (l : List Step × Value) : String × Value := (text ⟨l.1⟩, l.2)

theorem Value.nodup_names_entries (hv : v.WellFormed) :
    ((v.leafLocations.map Path.entry).map Prod.fst).Nodup := by
  have hnodup : (v.leafLocations.map Prod.fst).Nodup :=
    (nodup_locations hv).sublist (List.filter_sublist.map Prod.fst)
  have hplain : ∀ ss ∈ v.leafLocations.map Prod.fst, Path.IsPlain ⟨ss⟩ := by
    intro ss hss
    obtain ⟨l, hl, rfl⟩ := List.mem_map.1 hss
    exact ((mem_locations hv).1 (List.mem_of_mem_filter hl)).1
  have hnames : (v.leafLocations.map Path.entry).map Prod.fst =
      (v.leafLocations.map Prod.fst).map fun ss => Path.text ⟨ss⟩ := by
    simp [Path.entry, Function.comp_def]
  rw [hnames]
  refine hnodup.map_on fun ss hss ts hts h => ?_
  exact congrArg Path.steps (Path.eq_of_text_eq (hplain ss hss) (hplain ts hts) h)

/-- No two leaves are written alike, so a flat form has an entry for each. -/
theorem flatten_eq (hv : v.WellFormed) :
    flatten v = .object (v.leafLocations.map Path.entry) := by
  rw [← Members.ofList_eq_self (nodup_names_entries hv), flatten, leaves_eq, List.map_map]
  rfl

/-! ## One more part -/

/-- The value with one more part at the end. -/
def Value.append (v : Value) (m : Step × Value) : Value :=
  match m.1, v with
  | .index _, .array items => .array (items ++ [m.2])
  | .name n, .object members => .object (members ++ [(n, m.2)])
  | _, v => v

namespace Step

/-- What was put somewhere last is there. -/
theorem put_put (s : Step) (x y v : Value) : s.put y (s.put x v) = s.put y v := by
  cases s with
  | root => rfl
  | index i => cases v <;> simp [put]
  | name n => cases v <;> simp [put, Members.insert_insert]

theorem isNull_put (hs : s.IsPlain) (x v : Value) : (s.put x v).isNull = v.isNull := by
  cases s with
  | root => exact absurd hs not_isPlain_root
  | index | name => cases v <;> rfl

end Step

section Storing

variable [Memory]

namespace Step

/-- The step leads to the place of one more part at the end, for which there is room. -/
inductive IsNext : Step → Value → Prop where
  | index {items : List Value} (h : items.length < maxItems) :
      IsNext (.index items.length) (.array items)
  | name {n : String} {members : List (String × Value)} (h : n ∉ members.map Prod.fst) :
      IsNext (.name n) (.object members)

namespace IsNext

theorem isPlain (h : s.IsNext v) : s.IsPlain := by
  cases h <;> trivial

theorem get?_eq_none (h : s.IsNext v) : s.get? v = none := by
  cases h with
  | @index items h => exact List.getElem?_eq_none_iff.2 (Nat.le_refl items.length)
  | name h =>
    refine List.lookup_eq_none_iff.2 fun m hm => bne_iff_ne.2 ?_
    rintro rfl
    exact h (List.mem_map_of_mem hm)

/-- A part that comes next is made without padding. -/
theorem provide?_eq (h : s.IsNext v) (new : Value) :
    s.provide? new v = some (v.append (s, new)) := by
  have hnone := h.get?_eq_none
  cases h with
  | index h => simp [provide?, padTo?, h, append]
  | @name n members h =>
    have hlookup : members.lookup n = none := hnone
    simp [provide?, hlookup, append]

theorem get?_append (h : s.IsNext v) (new : Value) : s.get? (v.append (s, new)) = some new := by
  cases h with
  | index h => exact List.getElem?_concat_length
  | name h => exact Members.lookup_append h new

theorem put_append (h : s.IsNext v) (old new : Value) :
    s.put new (v.append (s, old)) = v.append (s, new) := by
  cases h with
  | index h => simp [put, append]
  | name h => exact congrArg Value.object (Members.insert_append h old new)

end IsNext

theorem isNull_of_provide? (h : s.provide? x v = some u) : u.isNull = v.isNull := by
  cases s with
  | root =>
    obtain rfl : v = u := by simpa [provide?] using h
    rfl
  | index i =>
    cases v with
    | array items =>
      simp only [provide?] at h
      split at h
      · obtain rfl := Option.some.inj h
        rfl
      · obtain ⟨_, -, rfl⟩ := Option.map_eq_some_iff.1 h
        rfl
    | _ => contradiction
  | name n =>
    cases v with
    | object members =>
      simp only [provide?] at h
      split at h <;> obtain rfl := Option.some.inj h <;> rfl
    | _ => contradiction

end Step

/-! ## Storing leaves -/

namespace Path

/-- The value with another one stored at a location, whatever is missing being created. -/
def storeNew? (v : Value) (l : List Step × Value) : Option Value :=
  if (storeSteps true l.2 l.1 v).2 then some (storeSteps true l.2 l.1 v).1 else none

/-- The value with others stored at their locations, one after the other. -/
def storeAll? (ls : List (List Step × Value)) (v : Value) : Option Value := ls.foldlM storeNew? v

/-- The locations as seen from the container that a step leads out of. -/
def under (s : Step) (ls : List (List Step × Value)) : List (List Step × Value) :=
  ls.map fun l => (s :: l.1, l.2)

/-! ### In a part that is there -/

theorem storeNew?_cons (hs : s.IsPlain) (hw : s.get? v = some w) (ss : List Step) (x : Value) :
    storeNew? v (s :: ss, x) = (storeNew? w (ss, x)).map fun u => s.put u v := by
  cases ss with
  | nil => simp [storeNew?, storeSteps, storeLast_of_get? hs hw]
  | cons t rest =>
    simp only [storeNew?, storeSteps_of_get? hs hw]
    split <;> rfl

/-- Whatever is stored in a part can be stored in the whole. -/
theorem storeAll?_under (hs : s.IsPlain) {ls : List (List Step × Value)} (hw : s.get? v = some w)
    (h : storeAll? ls w = some u) : storeAll? (under s ls) v = some (s.put u v) := by
  induction ls generalizing v w with
  | nil =>
    obtain rfl : w = u := by simpa [storeAll?] using h
    rw [(Step.put_eq_self_iff hs hw).2 rfl]
    rfl
  | cons l rest ih =>
    obtain ⟨w', hl, hrest⟩ := Option.bind_eq_some_iff.1 h
    have hstore : storeNew? v (s :: l.1, l.2) = some (s.put w' v) := by
      rw [storeNew?_cons hs hw, hl]
      rfl
    have ih := ih (Step.get?_put hs hw w') hrest
    rw [Step.put_put] at ih
    exact Option.bind_eq_some_iff.2 ⟨_, hstore, ih⟩

/-! ### In a part that comes next -/

theorem storeNew?_last (h : s.IsNext v) (x : Value) :
    storeNew? v ([s], x) = some (v.append (s, x)) := by
  have hlast : storeLast true x s v = (v.append (s, x), true) := by
    cases s with
    | root => exact absurd h.isPlain Step.not_isPlain_root
    | index | name => simp [storeLast, h.get?_eq_none, h.provide?_eq]
  simp [storeNew?, storeSteps, hlast]

/-- A container that comes next is made empty by the first value that is stored in it. -/
theorem storeNew?_next (h : s.IsNext v) (t : Step) (rest : List Step) (x : Value) :
    storeNew? v (s :: t :: rest, x) = storeNew? (v.append (s, t.container)) (s :: t :: rest, x) := by
  have hthere := Step.provide?_of_get? h.isPlain (h.get?_append t.container) t.container
  simp [storeNew?, storeSteps, h.provide?_eq, hthere, h.get?_append]

/-- The values that are stored first in a container that comes next make it. -/
theorem storeAll?_next (h : s.IsNext v) {t : Step} {rest : List Step} {x : Value}
    {ls : List (List Step × Value)} (hw : storeAll? ((t :: rest, x) :: ls) t.container = some w) :
    storeAll? (under s ((t :: rest, x) :: ls)) v = some (v.append (s, w)) := by
  have hmade := storeAll?_under h.isPlain (h.get?_append t.container) hw
  rw [h.put_append] at hmade
  rw [← hmade]
  simp only [storeAll?, under, List.map_cons, List.foldlM_cons, storeNew?_next h]

end Path

/-! ### Part by part -/

namespace Value

/-- Each of the parts comes next when those before it are there. -/
def CanAppend : List (Step × Value) → Value → Prop
  | [], _ => True
  | m :: rest, v => m.1.IsNext v ∧ CanAppend rest (v.append m)

/-- An array grows from empty to all of its elements. -/
theorem append_items (before items : List Value)
    (hmax : before.length + items.length ≤ maxItems) :
    CanAppend ((items.zipIdx before.length).map fun m => (.index m.2, m.1)) (array before) ∧
      ((items.zipIdx before.length).map fun m => ((.index m.2 : Step), m.1)).foldl append
        (array before) = array (before ++ items) := by
  induction items generalizing before with
  | nil => simp [CanAppend]
  | cons v rest ih =>
    rw [List.length_cons] at hmax
    have ih := ih (before ++ [v]) (by rw [List.length_append, List.length_singleton]; omega)
    rw [List.length_append, List.length_singleton] at ih
    simp only [List.zipIdx_cons, List.map_cons, List.foldl_cons, CanAppend]
    rw [List.append_cons]
    exact ⟨⟨.index (by omega), ih.1⟩, ih.2⟩

/-- An object grows from empty to all of its members. -/
theorem append_members (before members : List (String × Value))
    (hn : ((before ++ members).map Prod.fst).Nodup) :
    CanAppend (members.map fun m => (.name m.1, m.2)) (object before) ∧
      (members.map fun m => ((.name m.1 : Step), m.2)).foldl append (object before) =
        object (before ++ members) := by
  induction members generalizing before with
  | nil => simp [CanAppend]
  | cons m rest ih =>
    have hnew := Members.notMem_of_nodup hn
    rw [List.append_cons] at hn ⊢
    have ih := ih (before ++ [m]) hn
    simp only [List.map_cons, List.foldl_cons, CanAppend]
    exact ⟨⟨.name hnew, ih.1⟩, ih.2⟩

/-- A value with parts grows from the empty container of its kind to the whole. -/
theorem append_parts (hv : v.WellFormed) (hmax : v.elements.length ≤ maxItems) {m : Step × Value}
    {rest : List (Step × Value)} (h : v.parts = m :: rest) :
    CanAppend v.parts m.1.container ∧ v.parts.foldl append m.1.container = v := by
  cases v with
  | array items =>
    have hcontainer : m.1.container = array [] := by
      obtain ⟨i, hi, -⟩ := mem_parts_array.1 (h ▸ List.mem_cons_self)
      rw [hi]
      rfl
    rw [hcontainer]
    exact append_items [] items (by simpa [elements] using hmax)
  | object members =>
    have hcontainer : m.1.container = object [] := by
      obtain ⟨n, hn, -⟩ := mem_parts_object.1 (h ▸ List.mem_cons_self)
      rw [hn]
      rfl
    rw [hcontainer]
    exact append_members [] members (wellFormed_object.1 hv).1
  | null | bool | float | int | string => simp [parts] at h

/-- Memory has room for every array inside the value. -/
def WithinLimits (v : Value) : Prop := ∀ l ∈ v.locations, l.2.elements.length ≤ maxItems

theorem WithinLimits.length_elements (h : v.WithinLimits) : v.elements.length ≤ maxItems :=
  h ([], v) (nil_mem_locations.2 rfl)

theorem WithinLimits.of_mem_parts (h : v.WithinLimits) (hw : (s, w) ∈ v.parts) :
    w.WithinLimits :=
  fun l hl => h (s :: l.1, l.2) (cons_mem_locations.2 ⟨w, hw, hl⟩)

end Value

namespace Path

theorem storeAll?_append {ls ls' : List (List Step × Value)} (h : storeAll? ls v = some w) :
    storeAll? (ls ++ ls') v = storeAll? ls' w := by
  rw [storeAll?, List.foldlM_append]
  exact (congrArg (· >>= storeAll? ls') h).trans rfl

/-- If the leaves of each part add that part, those of some parts add them all. -/
theorem storeAll?_parts {ms : List (Step × Value)} (hnext : CanAppend ms v)
    (h : ∀ m ∈ ms, ∀ {u}, m.1.IsNext u →
      storeAll? (under m.1 m.2.leafLocations) u = some (u.append m)) :
    storeAll? (ms.flatMap fun m => under m.1 m.2.leafLocations) v = some (ms.foldl append v) := by
  induction ms generalizing v with
  | nil => rfl
  | cons m rest ih =>
    rw [List.flatMap_cons, storeAll?_append (h m List.mem_cons_self hnext.1)]
    exact ih hnext.2 fun m hm => h m (List.mem_cons_of_mem _ hm)

/-- **One part.** The leaves of the part that comes next add that part, and those of a value with
parts build it from the empty container of its kind. -/
theorem storeAll?_leafLocations (w : Value) (hw : w.WellFormed) (hmax : w.WithinLimits) :
    (∀ m rest, w.parts = m :: rest → storeAll? w.leafLocations m.1.container = some w) ∧
      ∀ {s v}, s.IsNext v → storeAll? (under s w.leafLocations) v = some (v.append (s, w)) := by
  induction w using inductionOnParts with
  | step w ih =>
    have hwhole : ∀ m rest, w.parts = m :: rest →
        storeAll? w.leafLocations m.1.container = some w := by
      intro m rest h
      obtain ⟨hnext, hfold⟩ := append_parts hw hmax.length_elements h
      rw [leafLocations_of_parts_ne_nil (by simp [h])]
      refine (storeAll?_parts hnext fun m hm u hu => ?_).trans (congrArg some hfold)
      exact (ih m.1 m.2 hm (hw.of_mem_parts hm).2.2 (hmax.of_mem_parts hm)).2 hu
    refine ⟨hwhole, fun {s v} hs => ?_⟩
    cases hparts : w.parts with
    | nil =>
      rw [leafLocations_of_parts_eq_nil hparts]
      exact Option.bind_eq_some_iff.2 ⟨_, storeNew?_last hs w, rfl⟩
    | cons m rest =>
      obtain ⟨ss, x, ls, hleaves⟩ := leafLocations_eq_cons hparts
      have hwhole := hwhole m rest hparts
      rw [hleaves] at hwhole ⊢
      exact storeAll?_next hs hwhole

/-! ### Values that are not null -/

theorem isNull_storeSteps (hs : s.IsPlain) (x : Value) (rest : List Step) (v : Value) :
    (storeSteps true x (s :: rest) v).1.isNull = v.isNull := by
  cases rest with
  | nil =>
    rw [storeSteps]
    unfold storeLast
    split
    · rfl
    · split
      · exact Step.isNull_put hs x v
      · rw [if_pos rfl]
        split
        · exact Step.isNull_of_provide? (by assumption)
        · rfl
  | cons t rest =>
    rw [storeSteps, if_pos rfl]
    split
    · rfl
    · rename_i u hu
      split
      · rfl
      · exact (Step.isNull_put hs _ u).trans (Step.isNull_of_provide? hu)

theorem isNull_of_storeNew? (hs : s.IsPlain) (h : storeNew? v (s :: ss, x) = some w) :
    w.isNull = v.isNull := by
  unfold storeNew? at h
  split at h
  · obtain rfl := Option.some.inj h
    exact isNull_storeSteps hs x ss v
  · contradiction

end Path

/-! ## Reading entries -/

/-- Positions that there is room for can be written. -/
theorem maxItems_le_indexBound : maxItems ≤ Path.indexBound := by
  apply Nat.le_of_lt
  calc maxItems ≤ 72 * maxItems := Nat.le_mul_of_pos_left maxItems (by decide)
    _ < Nat.pow 2 63 := Memory.room
    _ ≤ Path.indexBound := by decide

theorem Value.isWritable_of_mem_locations (hv : v.WithinLimits) (h : (ss, w) ∈ v.locations) :
    ∀ s ∈ ss, s.IsWritable := by
  induction ss generalizing v with
  | nil => simp
  | cons s ss ih =>
    obtain ⟨u, hu, h⟩ := cons_mem_locations.1 h
    refine List.forall_mem_cons.2 ⟨?_, ih (hv.of_mem_parts hu) h⟩
    cases v with
    | array items =>
      obtain ⟨i, rfl, hi⟩ := mem_parts_array.1 hu
      have hlt := (List.getElem?_eq_some_iff.1 hi).1
      have hle : items.length ≤ maxItems := hv.length_elements
      exact Nat.lt_of_lt_of_le hlt (Nat.le_trans hle maxItems_le_indexBound)
    | object members =>
      obtain ⟨n, rfl, -⟩ := mem_parts_object.1 hu
      trivial
    | null | bool | float | int | string => simp [parts] at hu

section Entries

variable {l : List Step × Value} {ls : List (List Step × Value)}

/-- Once something is in the document, adding an entry is storing its leaf. -/
theorem addEntry_eq_ok (hs : ∀ s ∈ l.1, s.IsWritable) (hv : v.isNull = false)
    (h : Path.storeNew? v l = some w) :
    addEntry v (Path.text ⟨l.1⟩) l.2 = .ok w := by
  have hparse : Path.parse (Path.text ⟨l.1⟩) = .ok ⟨l.1⟩ := Path.parse_text hs
  unfold Path.storeNew? at h
  split at h
  · rename_i hstored
    obtain rfl := Option.some.inj h
    simp [addEntry, hparse, hv, Path.store, hstored]
  · contradiction

theorem foldlM_addEntry (hls : ∀ l ∈ ls, l.1 ≠ []) (hs : ∀ l ∈ ls, ∀ s ∈ l.1, s.IsWritable)
    (hv : v.isNull = false) (h : Path.storeAll? ls v = some w) :
    (ls.map Path.entry).foldlM (fun document (key, leaf) => addEntry document key leaf) v =
      .ok w := by
  induction ls generalizing v with
  | nil =>
    obtain rfl : v = w := by simpa [Path.storeAll?] using h
    rfl
  | cons l rest ih =>
    obtain ⟨u, hu, hrest⟩ := Option.bind_eq_some_iff.1 h
    obtain ⟨hl, hls⟩ := List.forall_mem_cons.1 hls
    obtain ⟨hsl, hs⟩ := List.forall_mem_cons.1 hs
    have hnull : u.isNull = false := by
      obtain ⟨_ | ⟨s, ss⟩, x⟩ := l
      · exact absurd rfl hl
      · exact (Path.isNull_of_storeNew? (hsl s List.mem_cons_self).isPlain hu).trans hv
    rw [List.map_cons, List.foldlM_cons]
    exact Query.bind_eq_ok.2 ⟨u, addEntry_eq_ok hsl hv hu, ih hls hs hnull hrest⟩

/-- Before anything is in the document, the first entry gets a container for its first step. -/
theorem addEntry_null (x : Value) (hs : ∀ t ∈ s :: ss, t.IsWritable) :
    addEntry .null (Path.text ⟨s :: ss⟩) x = addEntry s.container (Path.text ⟨s :: ss⟩) x := by
  have hparse : Path.parse (Path.text ⟨s :: ss⟩) = .ok ⟨s :: ss⟩ := Path.parse_text hs
  have hnull : s.container.isNull = false := by cases s <;> rfl
  have hstart : Value.null.isNull = true := rfl
  simp [addEntry, hparse, hnull, hstart, Path.isRoot, seed]

end Entries

/-- **Documents come back from their flat form.** The flat form of any well-formed document that
there is room for is read as the document itself. -/
theorem unflatten_flatten (hv : v.WellFormed) (hmax : v.WithinLimits) :
    unflatten (flatten v) = .ok v := by
  have hwritable : ∀ l ∈ v.leafLocations, ∀ s ∈ l.1, s.IsWritable := fun l hl =>
    isWritable_of_mem_locations hmax (List.mem_of_mem_filter hl)
  rw [flatten_eq hv]
  cases hparts : v.parts with
  | nil =>
    -- The root is a leaf: its entry is the whole document, null or not.
    have hparse : Path.parse (Path.text ⟨[]⟩) = .ok ⟨[]⟩ :=
      Path.parse_text (by simp [Path.IsWritable])
    rw [leafLocations_of_parts_eq_nil hparts]
    simp [unflatten, Path.entry, addEntry, hparse, isNull, Path.isRoot]
  | cons m rest =>
    have hls := fun l => ne_nil_of_mem_leafLocations (v := v) (l := l) (by simp [hparts])
    have hstore := (Path.storeAll?_leafLocations v hv hmax).1 m rest hparts
    obtain ⟨ss, x, ls, hleaves⟩ := leafLocations_eq_cons hparts
    have hnull : m.1.container.isNull = false := by cases m.1 <;> rfl
    have hread := foldlM_addEntry hls hwritable hnull hstore
    rw [hleaves] at hread hwritable ⊢
    rw [List.map_cons, List.foldlM_cons] at hread
    rw [unflatten, List.map_cons, List.foldlM_cons]
    dsimp only [Path.entry] at hread ⊢
    rw [addEntry_null x (hwritable _ List.mem_cons_self)]
    exact hread

end Storing

/-- Empty containers and nulls at several depths, and names that look like paths, come back. -/
theorem unflatten_flatten_nested :
    unflatten (flatten (.object [("b", .array [.array [], .object [], .null]),
        ("a']['b", .object [("", .null)]), ("a", .array [.array [.bool true]])])) =
      .ok (.object [("b", .array [.array [], .object [], .null]),
        ("a']['b", .object [("", .null)]), ("a", .array [.array [.bool true]])]) :=
  unflatten_flatten (by simp [WellFormed, WellFormedMembers, WellFormedItems])
    (by simp [WithinLimits, locations_eq, locationsIn, parts, elements, maxItems])

end JsonPath

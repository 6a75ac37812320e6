import Mathlib.Data.Finset.Insert
import Mathlib.Data.List.Basic
import Mathlib.Logic.Function.Basic
import JsonPath.Proofs.Json.Parts
import JsonPath.Proofs.Location.Order

/-!
# Rebuilding a value from below

Removing, replacing and updating several places at once all mean one thing: the parts of a value are
rebuilt first, and then it is decided for each of them what takes its place, if anything does. The
decision is an *edit*, a function of the steps that lead to the part and of the rebuilt part. Steps
are those in the original value, so no decision depends on what was removed before.

* `Value.rebuild` — a value with an edit applied to all of its parts, the deepest first.
* `rebuild_congr` — only the edits of places that exist matter.
* `get?_rebuild` — where an edit keeps the part at a step and all before it, the step leads to the
  rebuilt part.
* `put_rebuild`, `erase?_rebuild` — then changing or taking out that part gives what the edit with
  this one change would have given. This is the step of every run over paths in descending order.
-/

namespace JsonPath

open Std

/-! ## Edits -/

/-- What takes the place of the part that some steps lead to; nothing if it is taken out. -/
abbrev Edit := List Step → Value → Option Value

namespace Edit

/-- The edit as the part at a step sees it. -/
def below (e : Edit) (s : Step) : Edit := fun ss => e (s :: ss)

/-- The edits do the same except at the part that a step leads to, and below it. -/
def AgreeOff (s : Step) (e e' : Edit) : Prop := ∀ t, t ≠ s → ∀ ss, e (t :: ss) = e' (t :: ss)

/-- The edit leaves some part in the place of each that comes no later than the one at a step. -/
def FillsThrough (e : Edit) (s : Step) : Prop :=
  ∀ t, (t.compare s).isLE → ∀ w, (e [t] w).isSome

/-- The edit changes nothing at places that come no later than some steps lead. -/
def KeepsThrough (e : Edit) (ss : List Step) : Prop :=
  ∀ ts, (Path.compareSteps ts ss).isLE → ∀ w, e ts w = some w

theorem AgreeOff.below {s t : Step} {e e' : Edit} (h : AgreeOff s e e') (ht : t ≠ s) :
    e.below t = e'.below t :=
  funext fun ss => h t ht ss

theorem KeepsThrough.below {e : Edit} {s : Step} {ss : List Step} (h : e.KeepsThrough (s :: ss)) :
    (e.below s).KeepsThrough ss := by
  intro ts hts w
  exact h (s :: ts) (by simpa using hts) w

theorem KeepsThrough.singleton {e : Edit} {s t : Step} {ss : List Step}
    (h : e.KeepsThrough (s :: ss)) (ht : (t.compare s).isLE) (w : Value) : e [t] w = some w :=
  h [t] (Path.compareSteps_singleton_isLE ht ss) w

theorem KeepsThrough.fillsThrough {e : Edit} {s : Step} {ss : List Step}
    (h : e.KeepsThrough (s :: ss)) : e.FillsThrough s := by
  intro t ht w
  rw [h.singleton ht]
  rfl

/-! ### A change at one place -/

theorem below_update (e : Edit) (s : Step) (ss : List Step) (f : Value → Option Value) :
    below (Function.update e (s :: ss) f) s = Function.update (e.below s) ss f :=
  Function.update_comp_eq_of_injective' e List.cons_injective ss f

theorem agreeOff_update (e : Edit) (s : Step) (ss : List Step) (f : Value → Option Value) :
    AgreeOff s e (Function.update e (s :: ss) f) := by
  intro t ht ts
  rw [Function.update_of_ne]
  simp [ht]

end Edit

/-! ### Changes at some paths -/

namespace Path

variable {β : Type} {S : Finset Path} {f : Path → β} {b : β} {ss : List Step} {p : Path}

/-- A function of places that is given at some paths and the same everywhere else. -/
def onPaths (S : Finset Path) (f : Path → β) (b : β) (ss : List Step) : β :=
  if ⟨ss⟩ ∈ S then f ⟨ss⟩ else b

theorem onPaths_of_mem (h : ⟨ss⟩ ∈ S) : onPaths S f b ss = f ⟨ss⟩ := if_pos h

theorem onPaths_of_notMem (h : ⟨ss⟩ ∉ S) : onPaths S f b ss = b := if_neg h

/-- Up to a path that comes before all those given there is nothing special. -/
theorem onPaths_of_isLE (h : ∀ q ∈ S, p.compare q = .lt) (hss : (compareSteps ss p.steps).isLE) :
    onPaths S f b ss = b :=
  onPaths_of_notMem fun hmem => OrientedCmp.not_lt_of_isLE hss (h _ hmem)

theorem onPaths_insert (p : Path) (S : Finset Path) (f : Path → β) (b : β) :
    onPaths (insert p S) f b = Function.update (onPaths S f b) p.steps (f p) := by
  funext ss
  by_cases h : ss = p.steps
  · rw [h, Function.update_self]
    exact onPaths_of_mem (Finset.mem_insert_self p S)
  · have hne : (⟨ss⟩ : Path) ≠ p := fun he => h (congrArg steps he)
    rw [Function.update_of_ne h]
    simp [onPaths, hne]

end Path

namespace Value

/-! ## Rebuilding -/

mutual

/-- The value with its parts rebuilt, and the edit applied to each of them after that. -/
def rebuild (e : Edit) : Value → Value
  | array items => array (rebuildItems e 0 items)
  | object members => object (rebuildMembers e members)
  | v => v

def rebuildItems (e : Edit) (i : Nat) : List Value → List Value
  | [] => []
  | v :: rest =>
    match e [.index i] (rebuild (e.below (.index i)) v) with
    | some w => w :: rebuildItems e (i + 1) rest
    | none => rebuildItems e (i + 1) rest

def rebuildMembers (e : Edit) : List (String × Value) → List (String × Value)
  | [] => []
  | (name, v) :: rest =>
    match e [.name name] (rebuild (e.below (.name name)) v) with
    | some w => (name, w) :: rebuildMembers e rest
    | none => rebuildMembers e rest

end

/-- What becomes of the part at a step. -/
def rebuildPart (e : Edit) (s : Step) (v : Value) : Option Value := e [s] (v.rebuild (e.below s))

theorem rebuildItems_eq (e : Edit) (i : Nat) (items : List Value) :
    rebuildItems e i items =
      (items.zipIdx i).filterMap fun m => rebuildPart e (.index m.2) m.1 := by
  induction items generalizing i with
  | nil => rfl
  | cons v rest ih =>
    simp only [rebuildItems, ih, List.zipIdx_cons, List.filterMap_cons, rebuildPart]
    cases e [.index i] (v.rebuild (e.below (.index i))) <;> rfl

theorem rebuildMembers_eq (e : Edit) (members : List (String × Value)) :
    rebuildMembers e members =
      members.filterMap fun m => (rebuildPart e (.name m.1) m.2).map (m.1, ·) := by
  induction members with
  | nil => rfl
  | cons m rest ih =>
    simp only [rebuildMembers, ih, List.filterMap_cons, rebuildPart]
    cases e [.name m.1] (m.2.rebuild (e.below (.name m.1))) <;> rfl

theorem rebuildPart_congr {e e' : Edit} {s t : Step} (h : Edit.AgreeOff s e e') (ht : t ≠ s)
    (w : Value) : rebuildPart e t w = rebuildPart e' t w := by
  rw [rebuildPart, rebuildPart, h.below ht, h t ht []]

/-! ## What a rebuilt value depends on -/

/-- A value is rebuilt the same way if its parts are. -/
theorem rebuild_congr_parts {e e' : Edit} {v : Value}
    (h : ∀ s w, (s, w) ∈ v.parts → rebuildPart e s w = rebuildPart e' s w) :
    v.rebuild e = v.rebuild e' := by
  cases v with
  | array items =>
    simp only [rebuild, rebuildItems_eq]
    congr 1
    refine List.filterMap_congr fun m hm => h _ _ (mem_parts_array.2 ⟨m.2, rfl, ?_⟩)
    exact List.mem_zipIdx_iff_getElem?.1 hm
  | object members =>
    simp only [rebuild, rebuildMembers_eq]
    congr 1
    refine List.filterMap_congr fun m hm => ?_
    rw [h _ _ (mem_parts_object.2 ⟨m.1, rfl, hm⟩)]
  | null | bool | float | int | string => rfl

/-- Only the edits of places that exist matter, and not the one of the whole. -/
theorem rebuild_congr {v : Value} (hv : v.WellFormed) : ∀ {e e' : Edit},
    (∀ ss, ss ≠ [] → (Path.follow ss v).isSome → e ss = e' ss) → v.rebuild e = v.rebuild e' := by
  induction v using inductionOnParts with
  | step v ih =>
    intro e e' h
    refine rebuild_congr_parts fun s w hw => ?_
    obtain ⟨-, hget, hwf⟩ := hv.of_mem_parts hw
    have hbelow : w.rebuild (e.below s) = w.rebuild (e'.below s) := by
      refine ih s w hw hwf fun ss _ hss => h (s :: ss) (List.cons_ne_nil s ss) ?_
      simpa [Path.follow, hget] using hss
    have hpart : e [s] = e' [s] := h [s] (List.cons_ne_nil s []) (by simp [Path.follow, hget])
    rw [rebuildPart, rebuildPart, hbelow, hpart]

/-- An edit that keeps every part gives the value itself. -/
theorem rebuild_eq_self {v : Value} : ∀ {e : Edit}, (∀ ss w, ss ≠ [] → e ss w = some w) →
    v.rebuild e = v := by
  induction v using inductionOnParts with
  | step v ih =>
    intro e h
    have hpart : ∀ s w, (s, w) ∈ v.parts → rebuildPart e s w = some w := by
      intro s w hw
      have hbelow : w.rebuild (e.below s) = w :=
        ih s w hw fun ss u _ => h (s :: ss) u (List.cons_ne_nil s ss)
      rw [rebuildPart, hbelow]
      exact h [s] w (List.cons_ne_nil s [])
    cases v with
    | array items =>
      rw [rebuild, rebuildItems_eq, List.filterMap_congr (g := fun m => some m.1)]
      · simp
      · intro m hm
        exact hpart _ _ (mem_parts_array.2 ⟨m.2, rfl, List.mem_zipIdx_iff_getElem?.1 hm⟩)
    | object members =>
      rw [rebuild, rebuildMembers_eq, List.filterMap_congr (g := some)]
      · simp
      · intro m hm
        rw [hpart _ _ (mem_parts_object.2 ⟨m.1, rfl, hm⟩)]
        rfl
    | null | bool | float | int | string => rfl

/-! ## Steps into a rebuilt value -/

theorem getElem?_rebuildItems {e : Edit} {items : List Value} {k i : Nat}
    (h : ∀ j, j ≤ k + i → ∀ w, (e [.index j] w).isSome) :
    (rebuildItems e k items)[i]? = items[i]?.bind (rebuildPart e (.index (k + i))) := by
  induction items generalizing k i with
  | nil => rfl
  | cons v rest ih =>
    obtain ⟨w, hw⟩ := Option.isSome_iff_exists.1
      (h k (Nat.le_add_right k i) (v.rebuild (e.below (.index k))))
    simp only [rebuildItems, hw]
    cases i with
    | zero => simp [rebuildPart, hw]
    | succ i =>
      have hki : k + (i + 1) = k + 1 + i := by omega
      rw [List.getElem?_cons_succ, List.getElem?_cons_succ, hki]
      exact ih (hki ▸ h)

theorem lookup_rebuildMembers {e : Edit} {members : List (String × Value)} {name : String}
    (h : ∀ w, (e [.name name] w).isSome) :
    (rebuildMembers e members).lookup name =
      (members.lookup name).bind (rebuildPart e (.name name)) := by
  induction members with
  | nil => rfl
  | cons m rest ih =>
    obtain ⟨n, v⟩ := m
    by_cases hn : n = name
    · subst hn
      obtain ⟨w, hw⟩ := Option.isSome_iff_exists.1 (h (v.rebuild (e.below (.name n))))
      simp [rebuildMembers, rebuildPart, hw]
    · have hb : (name == n) = false := beq_eq_false_iff_ne.2 (Ne.symm hn)
      simp only [rebuildMembers, List.lookup_cons, hb]
      cases e [.name n] (v.rebuild (e.below (.name n))) with
      | none => exact ih
      | some w => simpa only [List.lookup_cons, hb] using ih

/-- Where an edit fills the place at a step and all before it, the step leads to what the part there
has become. -/
theorem get?_rebuild {e : Edit} {s : Step} (hs : s.IsPlain) (h : e.FillsThrough s) (v : Value) :
    s.get? (v.rebuild e) = (s.get? v).bind (rebuildPart e s) := by
  cases s with
  | root => exact absurd hs Step.not_isPlain_root
  | index i =>
    cases v with
    | array items =>
      have hi : (rebuildItems e 0 items)[i]? = items[i]?.bind (rebuildPart e (.index (0 + i))) :=
        getElem?_rebuildItems fun j hj =>
          h (.index j) (Step.compare_index_isLE.2 (Nat.zero_add i ▸ hj))
      rwa [Nat.zero_add] at hi
    | _ => rfl
  | name name =>
    cases v with
    | object members =>
      exact lookup_rebuildMembers (h (.name name) (by simp))
    | _ => rfl

/-- Where an edit changes nothing up to some steps, the first of them leads to the rebuilt part. -/
theorem get?_rebuild_of_keepsThrough {e : Edit} {s : Step} {ss : List Step} (hs : s.IsPlain)
    (h : e.KeepsThrough (s :: ss)) (v : Value) :
    s.get? (v.rebuild e) = (s.get? v).map fun w => w.rebuild (e.below s) := by
  rw [get?_rebuild hs h.fillsThrough, Option.map_eq_bind]
  congr 1
  funext w
  exact h.singleton (by simp) _

/-! ## Changing one part of a rebuilt value -/

theorem rebuildItems_append (e : Edit) (k : Nat) (before after : List Value) :
    rebuildItems e k (before ++ after) =
      rebuildItems e k before ++ rebuildItems e (k + before.length) after := by
  simp only [rebuildItems_eq, List.zipIdx_append, List.filterMap_append]

theorem rebuildItems_cons (e : Edit) (k : Nat) (w : Value) (rest : List Value) :
    rebuildItems e k (w :: rest) =
      (rebuildPart e (.index k) w).toList ++ rebuildItems e (k + 1) rest := by
  simp only [rebuildItems_eq, List.zipIdx_cons, List.filterMap_cons]
  cases rebuildPart e (.index k) w <;> rfl

theorem rebuildItems_agree {e e' : Edit} {i k : Nat} {items : List Value}
    (h : Edit.AgreeOff (.index i) e e') (hi : i < k ∨ k + items.length ≤ i) :
    rebuildItems e k items = rebuildItems e' k items := by
  rw [rebuildItems_eq, rebuildItems_eq]
  refine List.filterMap_congr fun m hm => rebuildPart_congr h ?_ m.1
  have hk := List.le_snd_of_mem_zipIdx hm
  have hl := List.snd_lt_add_of_mem_zipIdx hm
  intro hm
  obtain rfl : m.2 = i := by simpa using hm
  omega

theorem length_rebuildItems {e : Edit} {k : Nat} {items : List Value}
    (h : ∀ j, j < k + items.length → ∀ w, (e [.index j] w).isSome) :
    (rebuildItems e k items).length = items.length := by
  induction items generalizing k with
  | nil => rfl
  | cons v rest ih =>
    rw [List.length_cons] at h
    obtain ⟨w, hw⟩ := Option.isSome_iff_exists.1
      (h k (by omega) (v.rebuild (e.below (.index k))))
    simp only [rebuildItems, hw, List.length_cons]
    rw [ih fun j hj => h j (by omega)]

theorem rebuildMembers_append (e : Edit) (before after : List (String × Value)) :
    rebuildMembers e (before ++ after) = rebuildMembers e before ++ rebuildMembers e after := by
  simp only [rebuildMembers_eq, List.filterMap_append]

theorem rebuildMembers_cons (e : Edit) (name : String) (w : Value)
    (rest : List (String × Value)) :
    rebuildMembers e ((name, w) :: rest) =
      ((rebuildPart e (.name name) w).map (name, ·)).toList ++ rebuildMembers e rest := by
  simp only [rebuildMembers_eq, List.filterMap_cons]
  cases rebuildPart e (.name name) w <;> rfl

theorem rebuildMembers_agree {e e' : Edit} {name : String} {members : List (String × Value)}
    (h : Edit.AgreeOff (.name name) e e') (hn : name ∉ members.map Prod.fst) :
    rebuildMembers e members = rebuildMembers e' members := by
  rw [rebuildMembers_eq, rebuildMembers_eq]
  refine List.filterMap_congr fun m hm => ?_
  rw [rebuildPart_congr h _ m.2]
  intro he
  obtain rfl : m.1 = name := by simpa using he
  exact hn (List.mem_map_of_mem hm)

/-- Members may go, but no name comes new and the order stays. -/
theorem names_rebuildMembers_sublist (e : Edit) (members : List (String × Value)) :
    ((rebuildMembers e members).map Prod.fst).Sublist (members.map Prod.fst) := by
  induction members with
  | nil => exact List.Sublist.refl _
  | cons m rest ih =>
    rw [rebuildMembers_cons, List.map_append, List.map_cons]
    cases rebuildPart e (.name m.1) m.2 with
    | none => exact ih.cons m.1
    | some w => exact ih.cons_cons m.1

/-- The two sides of the element at a position, before and after a change of the edit there. -/
theorem exists_rebuildItems_append {e e' : Edit} {items : List Value} {i : Nat} {w : Value}
    (hf : e.FillsThrough (.index i)) (ha : Edit.AgreeOff (.index i) e e')
    (hw : items[i]? = some w) : ∃ before old after, before.length = i ∧
      rebuildItems e 0 items = before ++ old :: after ∧
      rebuildItems e' 0 items = before ++ ((rebuildPart e' (.index i) w).toList ++ after) := by
  obtain ⟨hi, rfl⟩ := List.getElem?_eq_some_iff.1 hw
  have hsplit : items = items.take i ++ items[i] :: items.drop (i + 1) := by
    rw [← List.drop_eq_getElem_cons hi, List.take_append_drop]
  have hlen : (items.take i).length = i := by
    rw [List.length_take]
    omega
  obtain ⟨old, hold⟩ := Option.isSome_iff_exists.1
    (hf (.index i) (by simp) (items[i].rebuild (e.below (.index i))))
  refine ⟨rebuildItems e 0 (items.take i), old, rebuildItems e (i + 1) (items.drop (i + 1)),
    ?_, ?_, ?_⟩
  · rw [length_rebuildItems, hlen]
    intro j hj w
    exact hf (.index j) (Step.compare_index_isLE.2 (by omega)) w
  · conv_lhs => rw [hsplit]
    rw [rebuildItems_append, rebuildItems_cons, hlen, Nat.zero_add, rebuildPart, hold]
    rfl
  · conv_lhs => rw [hsplit]
    rw [rebuildItems_append, rebuildItems_cons, hlen, Nat.zero_add,
      rebuildItems_agree ha (.inr (by omega)), rebuildItems_agree ha (.inl (Nat.lt_succ_self i))]

/-- The two sides of the member of a name, before and after a change of the edit there. -/
theorem exists_rebuildMembers_append {e e' : Edit} {members : List (String × Value)}
    {name : String} {w : Value} (hn : (members.map Prod.fst).Nodup)
    (hf : e.FillsThrough (.name name)) (ha : Edit.AgreeOff (.name name) e e')
    (hw : members.lookup name = some w) : ∃ before old after, name ∉ before.map Prod.fst ∧
      rebuildMembers e members = before ++ (name, old) :: after ∧
      rebuildMembers e' members =
        before ++ (((rebuildPart e' (.name name) w).map (name, ·)).toList ++ after) := by
  obtain ⟨front, back, rfl, hfront⟩ := Members.exists_append_of_lookup hw
  have hback : name ∉ back.map Prod.fst := by
    rw [List.map_append, List.map_cons, List.nodup_append, List.nodup_cons] at hn
    exact hn.2.1.1
  obtain ⟨old, hold⟩ := Option.isSome_iff_exists.1
    (hf (.name name) (by simp) (w.rebuild (e.below (.name name))))
  refine ⟨rebuildMembers e front, old, rebuildMembers e back,
    fun h => hfront ((names_rebuildMembers_sublist e front).subset h), ?_, ?_⟩
  · rw [rebuildMembers_append, rebuildMembers_cons, rebuildPart, hold]
    rfl
  · rw [rebuildMembers_append, rebuildMembers_cons, rebuildMembers_agree ha hfront,
      rebuildMembers_agree ha hback]

section Change

variable {e e' : Edit} {s : Step} {v w : Value}

/-- Putting in the place of a part what another edit makes of it gives what that edit makes of the
whole, if the edits agree elsewhere. -/
theorem put_rebuild {x : Value} (hv : v.WellFormed) (hs : s.IsPlain) (hf : e.FillsThrough s)
    (ha : Edit.AgreeOff s e e') (hw : s.get? v = some w) (hx : rebuildPart e' s w = some x) :
    s.put x (v.rebuild e) = v.rebuild e' := by
  cases s with
  | root => exact absurd hs Step.not_isPlain_root
  | index i =>
    obtain ⟨items, rfl, hi⟩ := Step.get?_index_eq_some.1 hw
    obtain ⟨before, old, after, rfl, he, he'⟩ := exists_rebuildItems_append hf ha hi
    simp [rebuild, he, he', hx, Step.put]
  | name name =>
    obtain ⟨members, rfl, hm⟩ := Step.get?_name_eq_some.1 hw
    obtain ⟨before, old, after, hb, he, he'⟩ :=
      exists_rebuildMembers_append (wellFormed_object.1 hv).1 hf ha hm
    simp [rebuild, he, he', hx, Step.put, Members.insert_append hb]

/-- Taking out a part that another edit takes out gives what that edit makes of the whole. -/
theorem erase?_rebuild (hv : v.WellFormed) (hs : s.IsPlain) (hf : e.FillsThrough s)
    (ha : Edit.AgreeOff s e e') (hw : s.get? v = some w) (hx : rebuildPart e' s w = none) :
    s.erase? (v.rebuild e) = some (v.rebuild e') := by
  cases s with
  | root => exact absurd hs Step.not_isPlain_root
  | index i =>
    obtain ⟨items, rfl, hi⟩ := Step.get?_index_eq_some.1 hw
    obtain ⟨before, old, after, rfl, he, he'⟩ := exists_rebuildItems_append hf ha hi
    simp [rebuild, he, he', hx, Step.erase?, eraseElement?, List.eraseIdx_append_of_length_le]
  | name name =>
    obtain ⟨members, rfl, hm⟩ := Step.get?_name_eq_some.1 hw
    obtain ⟨before, old, after, hb, he, he'⟩ :=
      exists_rebuildMembers_append (wellFormed_object.1 hv).1 hf ha hm
    have hlookup : (before ++ (name, old) :: after).lookup name = some old :=
      Members.lookup_append hb old
    simp [rebuild, he, he', hx, Step.erase?, eraseMember?, hlookup, Members.erase_append hb]

end Change

end Value

end JsonPath

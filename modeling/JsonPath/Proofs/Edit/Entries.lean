import JsonPath.Proofs.Edit.Flat
import JsonPath.Proofs.Edit.Frame

/-!
# What the entries of a flat object add up to

Entries are stored one after the other, in whatever order they come. A later entry at or above the
place of an earlier one is stored without complaint, and what it brings replaces what was there. So
the last entry at or above a place decides what stands there, unless entries below the place come
after it. An entry below a value without parts is refused, but only as long as that value stands.

* `enter?`, `enterAll?` — entries stored, null being the place where nothing is yet.
* `follow_enterAll?_of_apart`, `isSome_follow_enterAll?` — what entries do at places that none of
  them is at or above: beside these nothing, and above them they leave a container.
* `Upholds` — how the entries behind one may leave its value in place.
* `follow_enterAll?_iff` — a value without parts stands after all entries just if they uphold it.
-/

namespace JsonPath

open JsonPath.Path JsonPath.Value

variable {s t : Step} {ss qs : List Step} {v w x y d : Value} {key : String} {p : Path}
  {l : List Step × Value} {ls : List (List Step × Value)} {members : List (String × Value)}

/-! ## Values without parts -/

/-- Whether a value is null, a boolean, a number or a string. -/
def Value.IsScalar : Value → Prop
  | array _ | object _ => False
  | _ => True

theorem get?_of_parts_eq_nil (h : v.parts = []) (hs : s.IsPlain) : s.get? v = none := by
  rw [Option.eq_none_iff_forall_ne_some]
  intro w hw
  have hmem := mem_parts_of_get? hs hw
  rw [h] at hmem
  contradiction

theorem Value.IsScalar.parts_eq_nil (h : v.IsScalar) : v.parts = [] := by
  cases v <;> first | rfl | exact absurd h id

theorem eq_null_of_isNull (h : v.isNull = true) : v = .null := by
  cases v <;> first | rfl | contradiction

/-! ## Lists of entries -/

/-- Of entries some of which are at or above a place, the last such one. -/
theorem exists_last_above (qs : List Step) (ls : List (List Step × Value)) :
    (∀ l ∈ ls, ¬ l.1 <+: qs) ∨ ∃ before ss y after, ls = before ++ (ss, y) :: after ∧ ss <+: qs ∧
      ∀ l ∈ after, ¬ l.1 <+: qs := by
  induction ls with
  | nil => exact .inl (by simp)
  | cons l ls ih =>
    rcases ih with hnone | ⟨before, ss, y, after, rfl, habove, hafter⟩
    · by_cases hl : l.1 <+: qs
      · exact .inr ⟨[], l.1, l.2, ls, rfl, hl, hnone⟩
      · exact .inl (List.forall_mem_cons.2 ⟨hl, hnone⟩)
    · exact .inr ⟨l :: before, ss, y, after, rfl, habove, hafter⟩

/-- The entries of a flat object, in order, as far as their names are paths. -/
def readEntries (members : List (String × Value)) : List (List Step × Value) :=
  members.filterMap fun m => (Path.parse m.1).toOption.map fun p => (p.steps, m.2)

theorem readEntries_cons_of_parse (h : Path.parse key = .ok p) (x : Value)
    (members : List (String × Value)) :
    readEntries ((key, x) :: members) = (p.steps, x) :: readEntries members := by
  simp [readEntries, h, Except.toOption]

theorem readEntries_append (members members' : List (String × Value)) :
    readEntries (members ++ members') = readEntries members ++ readEntries members' :=
  List.filterMap_append

theorem isPlain_of_parse (h : Path.parse key = .ok p) : p.IsPlain :=
  fun s hs => (Path.isWritable_of_parse h s hs).isPlain

theorem mem_readEntries :
    l ∈ readEntries members ↔ ∃ m ∈ members, ∃ p, Path.parse m.1 = .ok p ∧ (p.steps, m.2) = l := by
  rw [readEntries, List.mem_filterMap]
  refine exists_congr fun m => and_congr_right fun _ => ?_
  cases Path.parse m.1 <;> simp [Except.toOption]

theorem isPlain_of_mem_readEntries (h : l ∈ readEntries members) : ∀ s ∈ l.1, s.IsPlain := by
  obtain ⟨m, -, p, hp, rfl⟩ := mem_readEntries.1 h
  exact isPlain_of_parse hp

/-! ## One entry -/

section Storing

variable [Memory]

/-- The document with one entry stored, where null stands for nothing yet. -/
def enter? (v : Value) (l : List Step × Value) : Option Value :=
  storeNew? (if v.isNull then seed ⟨l.1⟩ else v) l

theorem storeNew?_nil (v x : Value) : storeNew? v ([], x) = some x := rfl

theorem storeNew?_eq_some :
    storeNew? v l = some w ↔ (storeSteps true l.2 l.1 v).2 = true ∧
      (storeSteps true l.2 l.1 v).1 = w := by
  rw [storeNew?]
  split <;> simp_all

theorem storeNew?_eq_none_iff (hl : ∀ s ∈ l.1, s.IsPlain) :
    storeNew? v l = none ↔ IsBarred l.1 v := by
  rw [storeNew?, ← storeSteps_true_fails_iff hl l.2]
  cases (storeSteps true l.2 l.1 v).2 <;> simp

/-- An entry whose name can be read is stored at the path that was read, or is a conflict. -/
theorem addEntry_of_parse (h : Path.parse key = .ok p) (v x : Value) :
    addEntry v key x = (enter? v (p.steps, x)).elim (.error (.conflict key)) .ok := by
  obtain ⟨steps⟩ := p
  rw [addEntry, h, enter?]
  cases steps with
  | nil =>
    rw [storeNew?_nil]
    cases v.isNull <;> simp [Path.isRoot, Path.store, storeSteps]
  | cons s rest =>
    simp only [Path.isRoot, List.isEmpty_cons, Bool.and_false, Bool.false_eq_true, if_false,
      Path.store, storeNew?]
    generalize (if v.isNull = true then seed ⟨s :: rest⟩ else v) = start
    by_cases hstored : (storeSteps true x (s :: rest) start).2 = true <;> simp [hstored]

/-- What was entered is there. -/
theorem follow_enter? (hl : ∀ s ∈ l.1, s.IsPlain) (h : enter? v l = some w) :
    follow l.1 w = some l.2 := by
  obtain ⟨hstored, rfl⟩ := storeNew?_eq_some.1 h
  exact follow_storeSteps hl hstored

/-- A place apart from an entry holds what it held, or a null that fills a gap. -/
theorem follow_enter?_of_apart (hl : ∀ s ∈ l.1, s.IsPlain) (hqs : ∀ t ∈ qs, t.IsPlain)
    (h : enter? v l = some w) (ha : Apart qs l.1) :
    (IsPadding qs l.1 → follow qs w = some ((follow qs v).getD .null)) ∧
      (¬ IsPadding qs l.1 → follow qs w = follow qs v) := by
  obtain ⟨hstored, rfl⟩ := storeNew?_eq_some.1 h
  have hbeside := follow_storeSteps_of_apart hl hqs hstored ha
  by_cases hnull : v.isNull = true
  · -- In the container made for the first entry there is as much as in null: nothing.
    have hseed : follow qs (seed ⟨l.1⟩) = follow qs v := by
      obtain ⟨t, qs', s, rest, rfl, hss⟩ := ha.exists_cons
      have hnone := follow_provision hl hqs ha .null
      rw [hss] at hnone ⊢
      rw [eq_null_of_isNull hnull]
      have ht := hqs t List.mem_cons_self
      cases t with
      | root => exact absurd ht Step.not_isPlain_root
      | index | name => exact hnone
    rw [if_pos hnull] at hbeside ⊢
    rwa [hseed] at hbeside
  · rw [if_neg hnull] at hbeside ⊢
    exact hbeside

/-- A part of a place stays, or comes, when an entry is stored that is not at or above the place. -/
theorem isSome_follow_enter? (hl : ∀ s ∈ l.1, s.IsPlain) (hqs : ∀ s ∈ qs ++ [t], s.IsPlain)
    (h : enter? v l = some w) (hnot : ¬ l.1 <+: qs)
    (hthere : (follow (qs ++ [t]) v).isSome ∨ qs ++ [t] <+: l.1) :
    (follow (qs ++ [t]) w).isSome := by
  by_cases hbelow : qs ++ [t] <+: l.1
  · obtain ⟨rest, hrest⟩ := hbelow
    have hget := follow_enter? hl h
    rw [← hrest, follow_append] at hget
    exact Option.isSome_of_isSome_bind (Option.isSome_of_eq_some hget)
  · have ha : Apart (qs ++ [t]) l.1 := by
      refine ⟨hbelow, fun habove => ?_⟩
      rcases List.prefix_concat_iff.1 habove with heq | habove
      · exact hbelow (heq ▸ List.prefix_rfl)
      · exact hnot habove
    have hbeside := follow_enter?_of_apart hl hqs h ha
    by_cases hpad : IsPadding (qs ++ [t]) l.1
    · rw [hbeside.1 hpad]
      rfl
    · rw [hbeside.2 hpad]
      exact hthere.resolve_right hbelow

/-! ## Several entries -/

/-- The document with some entries stored, one after the other. -/
def enterAll? (ls : List (List Step × Value)) (v : Value) : Option Value := ls.foldlM enter? v

theorem enterAll?_cons_eq_some :
    enterAll? (l :: ls) v = some w ↔ ∃ u, enter? v l = some u ∧ enterAll? ls u = some w :=
  Option.bind_eq_some_iff

theorem enterAll?_append_eq_some {ls' : List (List Step × Value)} :
    enterAll? (ls ++ ls') v = some w ↔ ∃ u, enterAll? ls v = some u ∧ enterAll? ls' u = some w := by
  rw [enterAll?, List.foldlM_append]
  exact Option.bind_eq_some_iff

/-- A place apart from all entries holds what it held, or a null that fills a gap. -/
theorem follow_enterAll?_of_apart (hls : ∀ l ∈ ls, ∀ s ∈ l.1, s.IsPlain)
    (hqs : ∀ t ∈ qs, t.IsPlain) (h : enterAll? ls v = some w) (ha : ∀ l ∈ ls, Apart qs l.1) :
    ((∃ l ∈ ls, IsPadding qs l.1) → follow qs w = some ((follow qs v).getD .null)) ∧
      ((¬ ∃ l ∈ ls, IsPadding qs l.1) → follow qs w = follow qs v) := by
  induction ls generalizing v with
  | nil =>
    obtain rfl : v = w := Option.some.inj h
    simp
  | cons l ls ih =>
    obtain ⟨hl, hls⟩ := List.forall_mem_cons.1 hls
    obtain ⟨hal, ha⟩ := List.forall_mem_cons.1 ha
    obtain ⟨u, hu, hw⟩ := enterAll?_cons_eq_some.1 h
    have hfirst := follow_enter?_of_apart hl hqs hu hal
    have hrest := ih hls hw ha
    simp only [List.mem_cons, exists_eq_or_imp]
    by_cases hpad : IsPadding qs l.1
    · -- From here on there is something at the place, which nothing changes any more.
      rw [hfirst.1 hpad] at hrest
      have hkept : follow qs w = some ((follow qs v).getD .null) := by
        by_cases hpads : ∃ l ∈ ls, IsPadding qs l.1
        · exact hrest.1 hpads
        · exact hrest.2 hpads
      exact ⟨fun _ => hkept, fun hnot => absurd (.inl hpad) hnot⟩
    · rw [hfirst.2 hpad] at hrest
      simpa [hpad] using hrest

/-- A part of a place stays, or comes, when entries are stored none of which is at or above the
place. -/
theorem isSome_follow_enterAll? (hls : ∀ l ∈ ls, ∀ s ∈ l.1, s.IsPlain)
    (hqs : ∀ s ∈ qs ++ [t], s.IsPlain) (h : enterAll? ls v = some w)
    (hnot : ∀ l ∈ ls, ¬ l.1 <+: qs)
    (hthere : (follow (qs ++ [t]) v).isSome ∨ ∃ l ∈ ls, qs ++ [t] <+: l.1) :
    (follow (qs ++ [t]) w).isSome := by
  induction ls generalizing v with
  | nil =>
    obtain rfl : v = w := Option.some.inj h
    simpa using hthere
  | cons l ls ih =>
    obtain ⟨hl, hls⟩ := List.forall_mem_cons.1 hls
    obtain ⟨hnotl, hnot⟩ := List.forall_mem_cons.1 hnot
    obtain ⟨u, hu, hw⟩ := enterAll?_cons_eq_some.1 h
    refine ih hls hw hnot ?_
    simp only [List.mem_cons, exists_eq_or_imp, ← or_assoc] at hthere
    exact hthere.imp_left (isSome_follow_enter? hl hqs hu hnotl)

/-! ## Values that stay -/

/-- Below an entry that comes last there is a container, which is no value without parts. -/
theorem follow_enterAll?_of_below (hls : ∀ l ∈ ls, ∀ s ∈ l.1, s.IsPlain)
    (h : enterAll? ls v = some w) (hnot : ∀ l ∈ ls, ¬ l.1 <+: qs) (hl : l ∈ ls)
    (hbelow : qs <+: l.1) (hx : x.parts = []) : follow qs w ≠ some x := by
  intro hget
  obtain ⟨rest, hrest⟩ := hbelow
  have hplain := hls l hl
  cases rest with
  | nil =>
    rw [List.append_nil] at hrest
    exact hnot l hl (hrest ▸ List.prefix_rfl)
  | cons t rest =>
    rw [List.append_cons] at hrest
    rw [← hrest] at hplain
    have hsome := isSome_follow_enterAll? hls
      (fun s hs => hplain s (List.mem_append_left rest hs)) h hnot
      (.inr ⟨l, hl, hrest ▸ List.prefix_append _ rest⟩)
    have hnone := get?_of_parts_eq_nil hx (s := t) (hplain t (by simp))
    simp [follow_append, hget, follow, hnone] at hsome

/-- How some entries leave a value in place: all are apart from it, or the last one at or above it
brings it again, or that one brings nothing there and an array is padded with it, the value being
null. -/
inductive Upholds (qs : List Step) (x : Value) (ls : List (List Step × Value)) : Prop where
  | untouched (h : ∀ l ∈ ls, Apart qs l.1)
  | repeated {before after : List (List Step × Value)} {ss rest : List Step} {y : Value}
      (hls : ls = before ++ (ss, y) :: after) (hqs : qs = ss ++ rest)
      (hy : follow rest y = some x) (h : ∀ l ∈ after, Apart qs l.1)
  | padded {before after : List (List Step × Value)} {ss rest : List Step} {y : Value}
      (hls : ls = before ++ (ss, y) :: after) (hqs : qs = ss ++ rest)
      (hy : follow rest y = none) (hx : x = .null) (h : ∀ l ∈ after, Apart qs l.1)
      (hpad : ∃ l ∈ after, IsPadding qs l.1)

/-- Behind the last entry at or above a place, a value without parts stands there just if the
entries are all apart from the place, and it stood there before or fills a gap. -/
theorem follow_enterAll?_of_not_above (hls : ∀ l ∈ ls, ∀ s ∈ l.1, s.IsPlain)
    (hqs : ∀ t ∈ qs, t.IsPlain) (h : enterAll? ls v = some w) (hnot : ∀ l ∈ ls, ¬ l.1 <+: qs)
    (hx : x.parts = []) :
    follow qs w = some x ↔ (∀ l ∈ ls, Apart qs l.1) ∧
      (follow qs v = some x ∨ follow qs v = none ∧ x = .null ∧ ∃ l ∈ ls, IsPadding qs l.1) := by
  by_cases ha : ∀ l ∈ ls, Apart qs l.1
  · have hbeside := follow_enterAll?_of_apart hls hqs h ha
    rw [and_iff_right ha]
    by_cases hpad : ∃ l ∈ ls, IsPadding qs l.1
    · rw [hbeside.1 hpad]
      cases follow qs v with
      | some u => simp
      | none => simp [hpad, eq_comm]
    · rw [hbeside.2 hpad]
      simp [hpad]
  · rw [iff_false_right (fun h => ha h.1)]
    simp only [Apart, not_forall, not_and] at ha
    obtain ⟨l, hl, ha⟩ := ha
    by_cases hbelow : qs <+: l.1
    · exact follow_enterAll?_of_below hls h hnot hl hbelow hx
    · exact absurd (hnot l hl) (ha hbelow)

/-- A value without parts stands after some entries just if it stood there before and they uphold
it. -/
theorem follow_enterAll?_iff (hls : ∀ l ∈ ls, ∀ s ∈ l.1, s.IsPlain) (hqs : ∀ t ∈ qs, t.IsPlain)
    (h : enterAll? ls v = some w) (hv : follow qs v = some x) (hx : x.parts = []) :
    follow qs w = some x ↔ Upholds qs x ls := by
  -- What the last entry at or above the place brings is what stands there when the others come.
  have hlast : ∀ before ss y after rest, ls = before ++ (ss, y) :: after → qs = ss ++ rest →
      (∀ l ∈ after, ¬ l.1 <+: qs) → (follow qs w = some x ↔ (∀ l ∈ after, Apart qs l.1) ∧
        (follow rest y = some x ∨
          follow rest y = none ∧ x = .null ∧ ∃ l ∈ after, IsPadding qs l.1)) := by
    rintro before ss y after rest rfl rfl hnot
    obtain ⟨u, -, hu⟩ := enterAll?_append_eq_some.1 h
    obtain ⟨u', hu', hw⟩ := enterAll?_cons_eq_some.1 hu
    have hget := follow_enter? (hls (ss, y) (by simp)) hu'
    have hy : follow (ss ++ rest) u' = follow rest y := by
      rw [follow_append, hget, Option.bind_some]
    rw [← hy]
    exact follow_enterAll?_of_not_above (fun l hl => hls l (by simp [hl])) hqs hw hnot hx
  constructor
  · intro hw
    rcases exists_last_above qs ls with hnone | ⟨before, ss, y, after, hsplit, ⟨rest, hrest⟩, hnot⟩
    · exact .untouched ((follow_enterAll?_of_not_above hls hqs h hnone hx).1 hw).1
    · obtain ⟨ha, hy | ⟨hy, hnull, hpad⟩⟩ :=
        (hlast before ss y after rest hsplit hrest.symm hnot).1 hw
      · exact .repeated hsplit hrest.symm hy ha
      · exact .padded hsplit hrest.symm hy hnull ha hpad
  · rintro (ha | ⟨hsplit, hrest, hy, ha⟩ | ⟨hsplit, hrest, hy, hnull, ha, hpad⟩)
    · exact (follow_enterAll?_of_not_above hls hqs h (fun l hl => (ha l hl).2) hx).2 ⟨ha, .inl hv⟩
    · exact (hlast _ _ _ _ _ hsplit hrest fun l hl => (ha l hl).2).2 ⟨ha, .inl hy⟩
    · exact (hlast _ _ _ _ _ hsplit hrest fun l hl => (ha l hl).2).2
        ⟨ha, .inr ⟨hy, hnull, hpad⟩⟩

/-! ## Flat objects -/

/-- The document after some more members of a flat object. -/
def addMembers (members : List (String × Value)) (v : Value) : Except FlattenError Value :=
  members.foldlM (fun v m => addEntry v m.1 m.2) v

theorem unflatten_object (members : List (String × Value)) :
    unflatten (.object members) = addMembers members .null := rfl

theorem addMembers_cons (m : String × Value) (members : List (String × Value)) (v : Value) :
    addMembers (m :: members) v = addEntry v m.1 m.2 >>= addMembers members := rfl

theorem addMembers_append (h : addMembers members v = .ok w) (members' : List (String × Value)) :
    addMembers (members ++ members') v = addMembers members' w := by
  rw [addMembers, List.foldlM_append]
  exact congrArg (· >>= addMembers members') h

/-- Members add up to a document just if all their names are paths and all entries can be
stored. -/
theorem addMembers_eq_ok_iff :
    addMembers members v = .ok w ↔
      (∀ m ∈ members, ∃ p, Path.parse m.1 = .ok p) ∧ enterAll? (readEntries members) v = some w := by
  induction members generalizing v with
  | nil => simp [addMembers, readEntries, enterAll?, pure, Except.pure]
  | cons m members ih =>
    obtain ⟨key, x⟩ := m
    rw [addMembers_cons, List.forall_mem_cons]
    cases hp : Path.parse key with
    | error e => simp [addEntry, hp, bind, Except.bind]
    | ok p =>
      rw [readEntries_cons_of_parse hp, enterAll?_cons_eq_some, addEntry_of_parse hp]
      cases enter? v (p.steps, x) with
      | none => simp [bind, Except.bind]
      | some u => simpa [bind, Except.bind] using ih

/-- A member at or above what is there already is stored. -/
theorem exists_addEntry_of_isSome (hp : Path.parse key = .ok p) (hthere : (p.get? v).isSome)
    (x : Value) : ∃ w, addEntry v key x = .ok w ∧ p.get? w = some x := by
  have hplain := isPlain_of_parse hp
  rw [addEntry_of_parse hp]
  cases henter : enter? v (p.steps, x) with
  | some w => exact ⟨w, rfl, follow_enter? (l := (p.steps, x)) hplain henter⟩
  | none =>
    rw [enter?, storeNew?_eq_none_iff (l := (p.steps, x)) hplain] at henter
    by_cases hnull : v.isNull = true
    · -- Of null there is nothing but the whole, and storing the whole is not barred.
      obtain ⟨steps⟩ := p
      cases steps with
      | nil => exact absurd henter (not_isBarred_of_isSome rfl)
      | cons s rest =>
        rw [eq_null_of_isNull hnull] at hthere
        have hnone : s.get? .null = none := get?_of_parts_eq_nil rfl (hplain s List.mem_cons_self)
        simp [Path.get?, follow, hnone] at hthere
    · rw [if_neg hnull] at henter
      exact absurd henter (not_isBarred_of_isSome hthere)

/-- A member below a value without parts is a conflict, unless that value is the null of an empty
document. -/
theorem addEntry_eq_conflict {q : Path} (hp : Path.parse key = .ok p) (hq : q.steps <+: p.steps)
    (hne : q ≠ p) (hget : q.get? v = some y) (hy : y.IsScalar) (hnull : v.isNull = false)
    (x : Value) : addEntry v key x = .error (.conflict key) := by
  have hplain := isPlain_of_parse hp
  have hbarred : IsBarred p.steps v := by
    obtain ⟨rest, hrest⟩ := hq
    cases rest with
    | nil =>
      rw [List.append_nil] at hrest
      exact absurd (congrArg mk hrest) hne
    | cons s rest =>
      have hs : s.IsPlain := hplain s (by simp [← hrest])
      refine ⟨q.steps, s, rest, y, hrest.symm, hget, get?_of_parts_eq_nil hy.parts_eq_nil hs, .inl ?_⟩
      cases s <;> cases y <;> first | exact id | exact absurd hy id
  have hnone : enter? v (p.steps, x) = none := by
    rw [enter?, hnull, storeNew?_eq_none_iff (l := (p.steps, x)) hplain]
    exact hbarred
  rw [addEntry_of_parse hp, hnone]
  rfl

/-- **What becomes of the entries of a flat object.** If a flat object can be read, the entry of a
value without parts stands in the document just if the entries behind it uphold it. An entry at or
above what earlier entries have put into the document is never refused, and an entry below a value
without parts always is. -/
theorem unflatten_entries (before after : List (String × Value)) (x : Value)
    (hp : Path.parse key = .ok p) :
    (∀ d, unflatten (.object (before ++ (key, x) :: after)) = .ok d → x.IsScalar →
      (p.get? d = some x ↔ Upholds p.steps x (readEntries after))) ∧
    (∀ v, unflatten (.object before) = .ok v → (p.get? v).isSome →
      ∃ d, unflatten (.object (before ++ [(key, x)])) = .ok d ∧ p.get? d = some x) ∧
    (∀ v q y, unflatten (.object before) = .ok v → v.isNull = false → q.steps <+: p.steps →
      q ≠ p → q.get? v = some y → y.IsScalar →
      unflatten (.object (before ++ (key, x) :: after)) = .error (.conflict key)) := by
  refine ⟨?_, ?_, ?_⟩
  · intro d h hx
    rw [unflatten_object, addMembers_eq_ok_iff, readEntries_append,
      readEntries_cons_of_parse hp, enterAll?_append_eq_some] at h
    obtain ⟨-, v, -, hv⟩ := h
    obtain ⟨w, hw, hd⟩ := enterAll?_cons_eq_some.1 hv
    exact follow_enterAll?_iff (fun l hl => isPlain_of_mem_readEntries hl) (isPlain_of_parse hp) hd
      (follow_enter? (l := (p.steps, x)) (isPlain_of_parse hp) hw) hx.parts_eq_nil
  · intro v h hthere
    obtain ⟨d, hd, hget⟩ := exists_addEntry_of_isSome hp hthere x
    refine ⟨d, ?_, hget⟩
    rw [unflatten_object] at h ⊢
    rw [addMembers_append h, addMembers_cons, hd]
    rfl
  · intro v q y h hnull hq hne hget hy
    rw [unflatten_object] at h ⊢
    rw [addMembers_append h, addMembers_cons, addEntry_eq_conflict hp hq hne hget hy hnull]
    rfl

end Storing

/-- An entry that is spelled twice stands if both bring the same; one at an object replaces it; and
one below a number is a conflict. -/
theorem unflatten_entries_spellings :
    (Path.parse "$.a" = .ok ⟨[.name "a"]⟩ ∧
        unflatten (.object [("$.a", .int 1), ("$['a']", .int 1)]) = .ok (.object [("a", .int 1)]) ∧
        Upholds [.name "a"] (.int 1) (readEntries [("$['a']", .int 1)])) ∧
      (∃ d, unflatten (.object [("$.a.b", .int 2), ("$.a", .int 1)]) = .ok d ∧
        Path.get? ⟨[.name "a"]⟩ d = some (.int 1)) ∧
      unflatten (.object [("$.a", .int 1), ("$.a.b", .int 2)]) = .error (.conflict "$.a.b") := by
  have ha : Path.parse "$.a" = .ok ⟨[.name "a"]⟩ := by cbv
  have hb : Path.parse "$.a.b" = .ok ⟨[.name "a", .name "b"]⟩ := by cbv
  have htwice : unflatten (.object [("$.a", .int 1), ("$['a']", .int 1)]) =
      .ok (.object [("a", .int 1)]) := by cbv
  have hone : unflatten (.object [("$.a", .int 1)]) = .ok (.object [("a", .int 1)]) := by cbv
  have hnested : unflatten (.object [("$.a.b", .int 2)]) =
      .ok (.object [("a", .object [("b", .int 2)])]) := by cbv
  refine ⟨⟨ha, htwice, ?_⟩, ?_, ?_⟩
  · exact ((unflatten_entries [] [("$['a']", .int 1)] (.int 1) ha).1 _ htwice trivial).1 rfl
  · exact (unflatten_entries [("$.a.b", .int 2)] [] (.int 1) ha).2.1 _ hnested rfl
  · exact (unflatten_entries [("$.a", .int 1)] [] (.int 2) hb).2.2 _ ⟨[.name "a"]⟩ (.int 1) hone rfl
      (by simp) (by simp) rfl trivial

/-- In `{"$['a']['b']":2,"$['a']":1}` the second entry replaces what the first has brought, and no
conflict is reported. -/
theorem unflatten_drops_entry :
    unflatten (.object [("$['a']['b']", .int 2), ("$['a']", .int 1)]) =
        .ok (.object [("a", .int 1)]) ∧
      Path.get? ⟨[.name "a", .name "b"]⟩ (.object [("a", .int 1)]) = none := by
  refine ⟨by cbv, rfl⟩

end JsonPath

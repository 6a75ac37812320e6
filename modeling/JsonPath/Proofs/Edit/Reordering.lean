import JsonPath.Proofs.Edit.Entries
import JsonPath.Proofs.Edit.Preservation
import JsonPath.Proofs.Json.Equality

/-!
# Flat forms in another order

The entries of a flat form can come in another order than the leaves of the document. No leaf lies
below another one, so none of them replaces what another one has brought, and what they add up to in
the end is the document, up to the order of members. But an element that an entry has padded past is
null until its own entries come. If it is to be a container, the first of these finds the null on
its way and is refused.

* `AreLeaves` — some entries are the leaves of a document, in any order.
* `IsBlocked`, `InTurn` — an entry comes upon a null on its way; no entry does.
* `AreLeaves.enter?_eq_none_iff` — an entry is refused just if it is blocked.
* `AreLeaves.agrees` — entries that are all stored add up to the document.
* `Value.NestsLast` — the documents whose flat forms are read in every order.
-/

namespace JsonPath

open JsonPath.Path JsonPath.Value

variable {s t : Step} {ss ts front rest : List Step} {v w u c d x y g : Value}
  {l m : List Step × Value} {ls done todo : List (List Step × Value)}
  {members : List (String × Value)} {e : FlattenError}

/-! ## The places of leaves -/

theorem mem_leafLocations (hd : d.WellFormed) :
    (ss, w) ∈ d.leafLocations ↔ (∀ s ∈ ss, s.IsPlain) ∧ follow ss d = some w ∧ w.parts = [] := by
  simp [leafLocations, mem_locations hd, and_assoc]

/-- At every place, or below it, there is a leaf. -/
theorem exists_leaf_below (hd : d.WellFormed) (hss : ∀ s ∈ ss, s.IsPlain)
    (h : follow ss d = some w) : ∃ l ∈ d.leafLocations, ss <+: l.1 := by
  obtain ⟨l, ls, hls⟩ := List.exists_cons_of_ne_nil (leafLocations_ne_nil w)
  have hl : (l.1, l.2) ∈ w.leafLocations := hls ▸ List.mem_cons_self
  obtain ⟨hplain, hfollow, hparts⟩ := (mem_leafLocations (hd.of_follow h)).1 hl
  refine ⟨(ss ++ l.1, l.2), (mem_leafLocations hd).2 ⟨?_, ?_, hparts⟩, List.prefix_append ss l.1⟩
  · exact List.forall_mem_append.2 ⟨hss, hplain⟩
  · rw [follow_append, h]
    exact hfollow

/-- No leaf lies below another one. -/
theorem eq_of_prefix_of_leaf (hd : d.WellFormed) (hw : (ss, w) ∈ d.leafLocations)
    (hx : (ts, x) ∈ d.leafLocations) (h : ss <+: ts) : ss = ts := by
  obtain ⟨rest, rfl⟩ := h
  cases rest with
  | nil => rw [List.append_nil]
  | cons s rest =>
    obtain ⟨-, hget, hparts⟩ := (mem_leafLocations hd).1 hw
    obtain ⟨hplain, hfollow, -⟩ := (mem_leafLocations hd).1 hx
    have hnone : s.get? w = none := get?_of_parts_eq_nil hparts (hplain s (by simp))
    rw [follow_append, hget, Option.bind_some, follow, hnone] at hfollow
    contradiction

/-- At each step on the way to a leaf there is a part. -/
theorem exists_part_of_leaf (hd : d.WellFormed) (hw : (ss, w) ∈ d.leafLocations)
    (hsplit : ss = front ++ s :: rest) : ∃ c part,
      (front, c) ∈ d.locations ∧ follow front d = some c ∧ s.get? c = some part ∧
        follow rest part = some w := by
  subst hsplit
  obtain ⟨hplain, hfollow, -⟩ := (mem_leafLocations hd).1 hw
  rw [follow_append] at hfollow
  obtain ⟨c, hc, hrest⟩ := Option.bind_eq_some_iff.1 hfollow
  obtain ⟨part, hpart, hrest⟩ := Option.bind_eq_some_iff.1 hrest
  have hloc : (front, c) ∈ d.locations :=
    (mem_locations hd).2 ⟨fun t ht => hplain t (List.mem_append_left _ ht), hc⟩
  exact ⟨c, part, hloc, hc, hpart, hrest⟩

theorem wellFormed_of_parts_eq_nil (h : v.parts = []) : v.WellFormed := by
  cases v with
  | array items => simp [show items = [] by simpa [parts] using h]
  | object members => simp [show members = [] by simpa [parts] using h]
  | null | bool | float | int | string => trivial

theorem follow_null (hss : ∀ s ∈ ss, s.IsPlain) (hne : ss ≠ []) : follow ss .null = none := by
  obtain ⟨s, rest, rfl⟩ := List.exists_cons_of_ne_nil hne
  rw [follow, get?_of_parts_eq_nil rfl (hss s List.mem_cons_self)]
  rfl

/-! ## Entries that are leaves -/

theorem nodup_leafLocations (hd : d.WellFormed) : (d.leafLocations.map Prod.fst).Nodup :=
  (nodup_locations hd).sublist (List.filter_sublist.map Prod.fst)

/-- The places of some entries are those of the leaves of a document, each once, in any order. -/
def AreLeaves (ls : List (List Step × Value)) (d : Value) : Prop :=
  (ls.map Prod.fst).Perm (d.leafLocations.map Prod.fst)

theorem Path.Apart.symm (h : Apart ss ts) : Apart ts ss := And.symm h

namespace AreLeaves

theorem leaf (h : AreLeaves ls d) (hl : l ∈ ls) : ∃ w, (l.1, w) ∈ d.leafLocations := by
  obtain ⟨k, hk, heq⟩ := List.mem_map.1 (h.mem_iff.1 (List.mem_map_of_mem hl))
  exact ⟨k.2, heq ▸ hk⟩

theorem isPlain (h : AreLeaves ls d) (hd : d.WellFormed) : ∀ l ∈ ls, ∀ s ∈ l.1, s.IsPlain := by
  intro l hl
  obtain ⟨w, hw⟩ := h.leaf hl
  exact ((mem_leafLocations hd).1 hw).1

theorem exists_below (h : AreLeaves ls d) (hd : d.WellFormed) (hss : ∀ s ∈ ss, s.IsPlain)
    (hw : follow ss d = some w) : ∃ l ∈ ls, ss <+: l.1 := by
  obtain ⟨l, hl, hbelow⟩ := exists_leaf_below hd hss hw
  obtain ⟨m, hm, heq⟩ := List.mem_map.1 (h.mem_iff.2 (List.mem_map_of_mem hl))
  exact ⟨m, hm, heq ▸ hbelow⟩

/-- The places of any two of the entries lie apart. -/
theorem pairwise_apart (h : AreLeaves ls d) (hd : d.WellFormed) :
    ls.Pairwise fun l m => Apart l.1 m.1 := by
  have hnodup := h.nodup_iff.2 (nodup_leafLocations hd)
  refine (List.pairwise_map.1 hnodup).imp_of_mem fun {l m} hl hm hne => ?_
  obtain ⟨w, hw⟩ := h.leaf hl
  obtain ⟨x, hx⟩ := h.leaf hm
  exact ⟨fun hp => hne (eq_of_prefix_of_leaf hd hw hx hp),
    fun hp => hne (eq_of_prefix_of_leaf hd hx hw hp).symm⟩

theorem apart (h : AreLeaves (done ++ l :: todo) d) (hd : d.WellFormed) :
    (∀ m ∈ done, Apart l.1 m.1) ∧ ∀ m ∈ todo, Apart l.1 m.1 := by
  obtain ⟨-, hcons, hacross⟩ := List.pairwise_append.1 (h.pairwise_apart hd)
  exact ⟨fun m hm => (hacross m hm l List.mem_cons_self).symm, (List.pairwise_cons.1 hcons).1⟩

theorem not_prefix_front (h : AreLeaves (done ++ l :: todo) d) (hd : d.WellFormed)
    (hsplit : l.1 = front ++ rest) : ∀ m ∈ done, ¬ m.1 <+: front := by
  intro m hm habove
  exact ((h.apart hd).1 m hm).2 (hsplit ▸ habove.trans (List.prefix_append front rest))

/-- An element that was padded past is one of the document. -/
theorem isSome_follow_of_isPadding (h : AreLeaves ls d) (hd : d.WellFormed) (hl : l ∈ ls)
    (hpad : IsPadding ss l.1) : (follow ss d).isSome := by
  obtain ⟨front, t, s, rest, rfl, hsplit, hp⟩ := hpad
  obtain ⟨w, hw⟩ := h.leaf hl
  obtain ⟨c, part, -, hc, hpart, -⟩ := exists_part_of_leaf hd hw hsplit
  obtain ⟨x, hx⟩ := Option.isSome_iff_exists.1 (hp.isSome_get? hpart)
  simp [follow_append, hc, follow, hx]

end AreLeaves

theorem readEntries_map_entry (h : ∀ l ∈ ls, Path.IsWritable ⟨l.1⟩) :
    readEntries (ls.map entry) = ls := by
  induction ls with
  | nil => rfl
  | cons l ls ih =>
    obtain ⟨hl, hls⟩ := List.forall_mem_cons.1 h
    have hparse : Path.parse (entry l).1 = .ok ⟨l.1⟩ := Path.parse_text hl
    rw [List.map_cons, ← Prod.eta (entry l), readEntries_cons_of_parse hparse, ih hls]
    rfl

/-- The places of entries are read from their names. -/
theorem map_fst_readEntries (members : List (String × Value)) :
    (readEntries members).map Prod.fst =
      (members.map Prod.fst).filterMap fun key => (Path.parse key).toOption.map Path.steps := by
  rw [readEntries, List.map_filterMap, List.filterMap_map]
  simp [Function.comp_def]

/-! ## Entries in turn -/

/-- Whether a way leads through an element that some entries have padded past and none has reached:
there it comes upon a null. -/
def IsBlocked (done : List (List Step × Value)) (ss : List Step) : Prop :=
  ∃ front s rest, ss = front ++ s :: rest ∧ (∃ m ∈ done, IsPadding front m.1) ∧
    ∀ m ∈ done, ¬ front <+: m.1

/-- Whether no entry is blocked by those before it. -/
def InTurn (ls : List (List Step × Value)) : Prop :=
  ∀ done l todo, ls = done ++ l :: todo → ¬ IsBlocked done l.1

theorem inTurn_concat : InTurn (ls ++ [l]) ↔ InTurn ls ∧ ¬ IsBlocked ls l.1 := by
  constructor
  · intro h
    refine ⟨?_, h ls l [] rfl⟩
    rintro done m todo rfl
    exact h done m (todo ++ [l]) (by simp)
  · rintro ⟨hls, hl⟩ done m todo hsplit
    rcases List.eq_nil_or_concat todo with rfl | ⟨todo, k, rfl⟩
    · obtain ⟨rfl, hlast⟩ := List.append_inj' hsplit rfl
      obtain rfl : l = m := by simpa using hlast
      exact hl
    · have hcut : ls ++ [l] = (done ++ m :: todo) ++ [k] := by simpa using hsplit
      exact hls done m todo (List.append_inj' hcut rfl).1

/-! ## Documents that are read in every order -/

/-- Whether in every array only the last element may have parts. -/
def Value.NestsLast (d : Value) : Prop :=
  ∀ ss items, (ss, array items) ∈ d.locations → ∀ (i : Nat) w, items[i]? = some w → w.parts ≠ [] →
    items.length = i + 1

/-- Only an element with parts can be in the way, and nothing is padded to lie behind the last. -/
theorem AreLeaves.inTurn (h : AreLeaves ls d) (hd : d.WellFormed) (hnests : d.NestsLast) :
    InTurn ls := by
  rintro done l todo rfl ⟨-, s, rest, hsplit, ⟨m, hm, front, t, s', after, rfl, hmsplit, hp⟩, -⟩
  obtain ⟨i, k, rfl, rfl, hik⟩ := hp.exists_index
  obtain ⟨w, hw⟩ := h.leaf (l := l) (by simp)
  obtain ⟨x, hx⟩ := h.leaf (l := m) (by simp [hm])
  rw [List.append_assoc, List.singleton_append] at hsplit
  obtain ⟨c, u, hloc, hc, hu, hrest⟩ := exists_part_of_leaf hd hw hsplit
  obtain ⟨c', y, -, hc', hy, -⟩ := exists_part_of_leaf hd hx hmsplit
  obtain rfl := Option.some.inj (hc.symm.trans hc')
  obtain ⟨items, rfl, hi⟩ := Step.get?_index_eq_some.1 hu
  have hk : k < items.length := (List.getElem?_eq_some_iff.1 hy).1
  have hparts : u.parts ≠ [] := by
    intro hnil
    have hs := ((mem_leafLocations hd).1 hw).1 s (by simp [hsplit])
    rw [follow, get?_of_parts_eq_nil hnil hs] at hrest
    contradiction
  have hlast := hnests front items hloc i u hi hparts
  omega

/-- If an element with parts comes before another one, the leaves can come in an order in which one
is blocked. -/
theorem exists_perm_not_inTurn (hd : d.WellFormed) (hnests : ¬ d.NestsLast) :
    ∃ ls, ls.Perm d.leafLocations ∧ ¬ InTurn ls := by
  simp only [NestsLast, not_forall] at hnests
  obtain ⟨front, items, hloc, i, w, hi, hparts, hlength⟩ := hnests
  obtain ⟨hfront, hfollow⟩ := (mem_locations hd).1 hloc
  have hlt := (List.getElem?_eq_some_iff.1 hi).1
  have hnext : i + 1 < items.length := by omega
  have hplain : ∀ k, ∀ s ∈ front ++ [.index k], s.IsPlain := fun k =>
    List.forall_mem_append.2 ⟨hfront, by simp⟩
  have hfollowed : ∀ k, follow (front ++ [.index k]) d = items[k]? := fun k => by
    rw [follow_append, hfollow]
    simp [follow, Step.get?, element?, Value.elements]
  -- A leaf in the element, and one in the element behind it, which comes first.
  obtain ⟨l, hl, rest, hrest⟩ := exists_leaf_below hd (hplain i) ((hfollowed i).trans hi)
  obtain ⟨m, hm, after, hafter⟩ := exists_leaf_below hd (hplain (i + 1))
    ((hfollowed (i + 1)).trans (List.getElem?_eq_getElem hnext))
  have hbeside : ¬ front ++ [.index i] <+: m.1 := by
    rw [← hafter, List.append_assoc, List.prefix_append_right_inj, List.singleton_append,
      List.cons_prefix_cons]
    simp
  have hne : l ≠ m := by
    rintro rfl
    exact hbeside ⟨rest, hrest⟩
  classical
  have hfirst := List.perm_cons_erase hm
  have hsecond := List.perm_cons_erase ((List.mem_erase_of_ne hne).2 hl)
  refine ⟨_, (hfirst.trans (hsecond.cons m)).symm, fun hturn => hturn [m] l _ rfl ?_⟩
  cases rest with
  | nil =>
    have hmem : (l.1, l.2) ∈ d.leafLocations := hl
    obtain ⟨-, hget, hleaf⟩ := (mem_leafLocations hd).1 hmem
    rw [← hrest, List.append_nil, hfollowed, hi] at hget
    exact absurd (Option.some.inj hget ▸ hleaf) hparts
  | cons s rest =>
    refine ⟨front ++ [.index i], s, rest, hrest.symm, ⟨m, by simp, ?_⟩, by simpa using hbeside⟩
    exact ⟨front, .index i, .index (i + 1), after, rfl, by simp [← hafter], Nat.lt_succ_self i⟩

/-! ## One entry -/

section Storing

variable [Memory]

/-- There is room for every position on the way to a leaf. -/
theorem lt_maxItems_of_leaf (hd : d.WellFormed) (hmax : d.WithinLimits)
    (hw : (ss, w) ∈ d.leafLocations) {i : Nat} (hi : .index i ∈ ss) : i < maxItems := by
  obtain ⟨front, rest, rfl⟩ := List.append_of_mem hi
  obtain ⟨c, part, hloc, -, hpart, -⟩ := exists_part_of_leaf hd hw rfl
  obtain ⟨items, rfl, hitem⟩ := Step.get?_index_eq_some.1 hpart
  exact Nat.lt_of_lt_of_le (List.getElem?_eq_some_iff.1 hitem).1 (hmax _ hloc)

theorem Step.not_fits_null (s : Step) : ¬ s.Fits .null := by
  cases s <;> exact id

/-- Steps that both lead to parts of one value lead into the same kind of container. -/
theorem Step.fits_of_get? (hs : s.IsPlain) (hw : s.get? c = some w) (hx : t.get? c = some x)
    (ht : t.IsPlain) (hy : t.get? u = some y) (hmax : ∀ i, s = .index i → i < maxItems) :
    s.Fits u := by
  cases s with
  | root => exact absurd hs not_isPlain_root
  | index i =>
    obtain ⟨items, rfl, -⟩ := get?_index_eq_some.1 hw
    cases t with
    | root => exact absurd ht not_isPlain_root
    | index k =>
      obtain ⟨others, rfl, -⟩ := get?_index_eq_some.1 hy
      exact hmax i rfl
    | name n => contradiction
  | name n =>
    obtain ⟨members, rfl, -⟩ := get?_name_eq_some.1 hw
    cases t with
    | root => exact absurd ht not_isPlain_root
    | index k => contradiction
    | name m =>
      obtain ⟨others, rfl, -⟩ := get?_name_eq_some.1 hy
      trivial

/-- The container made for the first entry takes it. -/
theorem not_isBarred_seed (hss : ∀ s ∈ ss, s.IsPlain) (hmax : ∀ i, .index i ∈ ss → i < maxItems) :
    ¬ IsBarred ss (seed ⟨ss⟩) := by
  cases ss with
  | nil => exact not_isBarred_of_isSome rfl
  | cons s rest =>
    have hs := hss s List.mem_cons_self
    intro hbarred
    rcases (isBarred_cons_of_none (Step.get?_container hs)).1 hbarred with hf | ⟨i, hi, hle⟩
    · exact hf ((Step.fits_container_iff hs).2 fun i hi => hmax i (hi ▸ List.mem_cons_self))
    · exact Nat.not_lt.2 hle (hmax i (List.mem_cons_of_mem s hi))

namespace AreLeaves

variable (h : AreLeaves (done ++ l :: todo) d) (hd : d.WellFormed) (hmax : d.WithinLimits)
include h hd

/-- Where an entry has led on from a place, a container stands at the place. -/
theorem isSome_get?_of_prefix (hv : enterAll? done .null = some v) (hm : m ∈ done)
    (hmt : m.1 = front ++ t :: ts) (hsplit : l.1 = front ++ rest) (hu : follow front v = some u) :
    (t.get? u).isSome := by
  rw [List.append_cons] at hmt
  have hplain : ∀ k ∈ done, ∀ s ∈ k.1, s.IsPlain := fun k hk => h.isPlain hd k (by simp [hk])
  have hfront : ∀ s ∈ front ++ [t], s.IsPlain := fun s hs =>
    hplain m hm s (hmt ▸ List.mem_append_left ts hs)
  have hsome := isSome_follow_enterAll? hplain hfront hv (h.not_prefix_front hd hsplit)
    (.inr ⟨m, hm, hmt ▸ List.prefix_append _ ts⟩)
  rw [follow_append, hu] at hsome
  simpa [follow] using hsome

/-- On the way to the next leaf, where no entry has led on, there is a null if one has padded past
the place, and else nothing. -/
theorem follow_front_eq_some (hv : enterAll? done .null = some v) (hne : done ≠ [])
    (hsplit : l.1 = front ++ rest) (hnot : ∀ m ∈ done, ¬ front <+: m.1) :
    follow front v = some u ↔ u = .null ∧ ∃ m ∈ done, IsPadding front m.1 := by
  have hplain : ∀ m ∈ done, ∀ s ∈ m.1, s.IsPlain := fun m hm => h.isPlain hd m (by simp [hm])
  have hfront : ∀ t ∈ front, t.IsPlain := fun t ht =>
    h.isPlain hd l (by simp) t (by simp [hsplit, ht])
  have hnil : front ≠ [] := by
    rintro rfl
    obtain ⟨m, after, rfl⟩ := List.exists_cons_of_ne_nil hne
    exact hnot m List.mem_cons_self List.nil_prefix
  have hbeside := follow_enterAll?_of_apart hplain hfront hv
    fun m hm => ⟨hnot m hm, h.not_prefix_front hd hsplit m hm⟩
  rw [follow_null hfront hnil, Option.getD_none] at hbeside
  by_cases hpad : ∃ m ∈ done, IsPadding front m.1
  · rw [hbeside.1 hpad, and_iff_left hpad, Option.some.injEq, eq_comm]
  · rw [hbeside.2 hpad]
    exact iff_of_false (Option.some_ne_none u).symm fun hu => hpad hu.2

theorem isNull_eq_false (hv : enterAll? done .null = some v) (hne : done ≠ []) :
    v.isNull = false := by
  obtain ⟨m, rest, rfl⟩ := List.exists_cons_of_ne_nil hne
  have hm := List.mem_cons_self (a := m) (l := rest)
  have hnil : m.1 ≠ [] := fun hnil => ((h.apart hd).1 m hm).2 (hnil ▸ List.nil_prefix)
  obtain ⟨t, ts, hmt⟩ := List.exists_cons_of_ne_nil hnil
  have hfirst : m.1 = [] ++ t :: ts := hmt
  have hsome := h.isSome_get?_of_prefix hd hv hm hfirst rfl rfl
  by_contra hnull
  have ht : t.IsPlain := h.isPlain hd m (by simp) t (by simp [hmt])
  rw [eq_null_of_isNull (eq_true_of_ne_false hnull), get?_of_parts_eq_nil rfl ht] at hsome
  contradiction

include hmax

/-- Where an entry has led on from a place, the next leaf beyond the place finds what it needs: in
the document both lead on from one container. -/
theorem fits_of_prefix (hv : enterAll? done .null = some v) (hm : m ∈ done) (hbelow : front <+: m.1)
    (hsplit : l.1 = front ++ s :: rest) (hu : follow front v = some u) : s.Fits u := by
  have hplain := h.isPlain hd
  obtain ⟨w, hw⟩ := h.leaf (l := l) (by simp)
  obtain ⟨x, hx⟩ := h.leaf (l := m) (by simp [hm])
  obtain ⟨c, part, -, hc, hs, -⟩ := exists_part_of_leaf hd hw hsplit
  obtain ⟨after, hafter⟩ := hbelow
  cases after with
  | nil =>
    rw [List.append_nil] at hafter
    exact absurd (hafter ▸ List.prefix_rfl) (h.not_prefix_front hd hsplit m hm)
  | cons t ts =>
    obtain ⟨c', part', -, hc', ht, -⟩ := exists_part_of_leaf hd hx hafter.symm
    obtain rfl := Option.some.inj (hc.symm.trans hc')
    have hthere := h.isSome_get?_of_prefix hd hv hm hafter.symm hsplit hu
    obtain ⟨y, hy⟩ := Option.isSome_iff_exists.1 hthere
    refine Step.fits_of_get? (hplain l (by simp) s (by simp [hsplit])) hs ht
      (hplain m (by simp [hm]) t (by simp [← hafter])) hy ?_
    rintro i rfl
    exact lt_maxItems_of_leaf hd hmax hw (by simp [hsplit])

/-- Once there is something in the document, the way of an entry is barred just if it is blocked. -/
theorem isBarred_iff_isBlocked (hv : enterAll? done .null = some v) (hne : done ≠ []) :
    IsBarred l.1 v ↔ IsBlocked done l.1 := by
  obtain ⟨w, hw⟩ := h.leaf (l := l) (by simp)
  constructor
  · rintro ⟨front, s, rest, u, hsplit, hu, -, hbar⟩
    have hfits : ¬ s.Fits u := by
      refine hbar.resolve_right ?_
      rintro ⟨i, hi, hle⟩
      exact Nat.not_lt.2 hle (lt_maxItems_of_leaf hd hmax hw (by simp [hsplit, hi]))
    have hnot : ∀ m ∈ done, ¬ front <+: m.1 := fun m hm hbelow =>
      hfits (h.fits_of_prefix hd hmax hv hm hbelow hsplit hu)
    exact ⟨front, s, rest, hsplit, ((h.follow_front_eq_some hd hv hne hsplit hnot).1 hu).2, hnot⟩
  · rintro ⟨front, s, rest, hsplit, hpad, hnot⟩
    have hs : s.IsPlain := h.isPlain hd l (by simp) s (by simp [hsplit])
    have hnull := (h.follow_front_eq_some hd hv hne hsplit hnot).2 ⟨rfl, hpad⟩
    exact ⟨front, s, rest, .null, hsplit, hnull, get?_of_parts_eq_nil rfl hs,
      .inl s.not_fits_null⟩

/-- **One entry.** Behind other leaves a leaf is refused just if it is blocked. -/
theorem enter?_eq_none_iff (hv : enterAll? done .null = some v) :
    enter? v l = none ↔ IsBlocked done l.1 := by
  have hplain := h.isPlain hd l (by simp)
  rw [enter?, storeNew?_eq_none_iff hplain]
  by_cases hne : done = []
  · subst hne
    obtain rfl : .null = v := Option.some.inj hv
    obtain ⟨w, hw⟩ := h.leaf (l := l) (by simp)
    have hfree : ¬ IsBlocked [] l.1 := by
      rintro ⟨-, -, -, -, ⟨m, hm, -⟩, -⟩
      contradiction
    have hopen := not_isBarred_seed hplain fun i hi => lt_maxItems_of_leaf hd hmax hw hi
    exact iff_of_false hopen hfree
  · rw [h.isNull_eq_false hd hv hne]
    exact h.isBarred_iff_isBlocked hd hmax hv hne

end AreLeaves

/-! ## All entries -/

theorem enterAll?_wellFormed (hls : ∀ l ∈ ls, l.2.WellFormed) (hv : v.WellFormed)
    (h : enterAll? ls v = some w) : w.WellFormed := by
  induction ls generalizing v with
  | nil =>
    obtain rfl : v = w := Option.some.inj h
    exact hv
  | cons l ls ih =>
    obtain ⟨hl, hls⟩ := List.forall_mem_cons.1 hls
    obtain ⟨u, hu, hw⟩ := enterAll?_cons_eq_some.1 h
    refine ih hls ?_ hw
    obtain ⟨-, rfl⟩ := storeNew?_eq_some.1 hu
    refine storeSteps_wellFormed hl ?_
    split
    · unfold seed
      split
      · exact Step.container_wellFormed _
      · trivial
    · exact hv

namespace AreLeaves

/-- **Which orders are read.** Some of the leaves can be stored first, in their order, just if none
of them is blocked. -/
theorem exists_enterAll?_iff (h : AreLeaves (done ++ todo) d) (hd : d.WellFormed)
    (hmax : d.WithinLimits) : (∃ v, enterAll? done .null = some v) ↔ InTurn done := by
  induction done using List.reverseRecOn generalizing todo with
  | nil =>
    refine iff_of_true ⟨.null, rfl⟩ fun done l todo hsplit => ?_
    simp at hsplit
  | append_singleton done l ih =>
    rw [List.append_assoc] at h
    rw [inTurn_concat, ← ih h]
    constructor
    · rintro ⟨w, hw⟩
      obtain ⟨v, hv, hlast⟩ := enterAll?_append_eq_some.1 hw
      obtain ⟨u, hu, -⟩ := enterAll?_cons_eq_some.1 hlast
      refine ⟨⟨v, hv⟩, fun hblocked => ?_⟩
      rw [(h.enter?_eq_none_iff hd hmax hv).2 hblocked] at hu
      contradiction
    · rintro ⟨⟨v, hv⟩, hfree⟩
      have hsome := mt (h.enter?_eq_none_iff hd hmax hv).1 hfree
      obtain ⟨w, hw⟩ := Option.ne_none_iff_exists'.1 hsome
      exact ⟨w, enterAll?_append_eq_some.2 ⟨v, hv, enterAll?_cons_eq_some.2 ⟨w, hw, rfl⟩⟩⟩

/-- A leaf stays where it was stored. -/
theorem follow_eq (h : AreLeaves ls d) (hd : d.WellFormed) (hv : enterAll? ls .null = some v)
    (hl : l ∈ ls) : follow l.1 v = some l.2 := by
  obtain ⟨done, todo, rfl⟩ := List.append_of_mem hl
  have hplain := h.isPlain hd
  obtain ⟨u, -, hu⟩ := enterAll?_append_eq_some.1 hv
  obtain ⟨w, hw, hv⟩ := enterAll?_cons_eq_some.1 hu
  have hget := follow_enter? (hplain l hl) hw
  have hbeside := follow_enterAll?_of_apart (fun m hm => hplain m (by simp [hm])) (hplain l hl) hv
    (h.apart hd).2
  rw [hget] at hbeside
  by_cases hpad : ∃ m ∈ todo, IsPadding l.1 m.1
  · exact hbeside.1 hpad
  · exact hbeside.2 hpad

/-- Leaves that can all be stored bring nothing but what is in the document. -/
theorem isSome_follow_of_stored (h : AreLeaves ls d) (hd : d.WellFormed)
    (hparts : ∀ l ∈ ls, l.2.parts = []) (hv : enterAll? ls .null = some v)
    (hss : ∀ s ∈ ss, s.IsPlain) (hsome : (follow ss v).isSome) : (follow ss d).isSome := by
  by_contra hnone
  have hbelow : ∀ l ∈ ls, ¬ ss <+: l.1 := by
    rintro l hl ⟨rest, hrest⟩
    obtain ⟨w, hw⟩ := h.leaf hl
    have hthere := ((mem_leafLocations hd).1 hw).2.1
    rw [← hrest, follow_append] at hthere
    exact hnone (Option.isSome_of_isSome_bind (Option.isSome_of_eq_some hthere))
  have habove : ∀ l ∈ ls, ¬ l.1 <+: ss := by
    rintro l hl ⟨rest, rfl⟩
    rw [follow_append, h.follow_eq hd hv hl, Option.bind_some] at hsome
    cases rest with
    | nil => exact hbelow l hl (by simp)
    | cons s rest =>
      rw [follow, get?_of_parts_eq_nil (hparts l hl) (hss s (by simp))] at hsome
      contradiction
  have hpad : ¬ ∃ l ∈ ls, IsPadding ss l.1 := by
    rintro ⟨l, hl, hpad⟩
    exact hnone (h.isSome_follow_of_isPadding hd hl hpad)
  have hnil : ss ≠ [] := by
    rintro rfl
    exact hnone rfl
  have hbeside := (follow_enterAll?_of_apart (h.isPlain hd) hss hv
    fun l hl => ⟨hbelow l hl, habove l hl⟩).2 hpad
  rw [hbeside, follow_null hss hnil] at hsome
  contradiction

variable (h : AreLeaves ls d) (hd : d.WellFormed)
  (hsame : ∀ l ∈ ls, ∃ w, (l.1, w) ∈ d.leafLocations ∧ l.2.same w = true)
  (hv : enterAll? ls .null = some v)
include h hd hsame hv

/-- **What leaves add up to.** Leaves that can all be stored, in whatever order, bring what is in
the document, and nothing else. -/
theorem agrees (hparts : ∀ l ∈ ls, l.2.parts = []) : Agrees v d where
  isSome_iff ss hss := by
    refine ⟨h.isSome_follow_of_stored hd hparts hv hss, fun hsome => ?_⟩
    obtain ⟨w, hw⟩ := Option.isSome_iff_exists.1 hsome
    obtain ⟨l, hl, rest, hrest⟩ := h.exists_below hd hss hw
    have hget := h.follow_eq hd hv hl
    rw [← hrest, follow_append] at hget
    exact Option.isSome_of_isSome_bind (Option.isSome_of_eq_some hget)
  leaves ss w hss hw hnone := by
    have hleaf : (ss, w) ∈ d.leafLocations := (mem_leafLocations hd).2 ⟨hss, hw, hnone⟩
    obtain ⟨l, hl, rfl⟩ := List.mem_map.1 (h.mem_iff.2 (List.mem_map_of_mem hleaf))
    obtain ⟨w', hw', heq⟩ := hsame l hl
    obtain rfl : w' = w := Option.some.inj (((mem_leafLocations hd).1 hw').2.1.symm.trans hw)
    exact ⟨l.2, h.follow_eq hd hv hl, heq⟩

theorem same : v.same d = true := by
  have hparts : ∀ l ∈ ls, l.2.parts = [] := by
    intro l hl
    obtain ⟨w, hw, heq⟩ := hsame l hl
    exact parts_eq_nil_of_same heq ((mem_leafLocations hd).1 hw).2.2
  have hnull : Value.null.WellFormed := wellFormed_of_parts_eq_nil rfl
  have hwf : v.WellFormed := enterAll?_wellFormed
    (fun l hl => wellFormed_of_parts_eq_nil (hparts l hl)) hnull hv
  exact same_of_agrees hwf hd (h.agrees hd hsame hv hparts)

end AreLeaves

/-! ## Flat forms -/

theorem isWritable_of_leaf (hmax : d.WithinLimits) (hl : l ∈ d.leafLocations) :
    Path.IsWritable ⟨l.1⟩ :=
  isWritable_of_mem_locations hmax (List.mem_of_mem_filter hl)

section SameFlatten

variable (hd : d.WellFormed) (hmax : d.WithinLimits)
  (h : (object members).same (flatten d) = true)
include hd hmax h

/-- The members of what equals a flat form are named by the places of leaves, and their values equal
the leaves. -/
theorem exists_leaf_of_same_flatten : ∀ m ∈ members, ∃ l ∈ d.leafLocations,
    Path.text ⟨l.1⟩ = m.1 ∧ Path.parse m.1 = .ok ⟨l.1⟩ ∧ m.2.same l.2 = true := by
  rw [flatten_eq hd] at h
  intro m hm
  obtain ⟨w, hw, hsame⟩ := sameMembers_iff.1 (Bool.and_eq_true_iff.1 h).2 m hm
  obtain ⟨l, hl, heq⟩ := List.mem_map.1 (Members.mem_of_lookup hw)
  obtain ⟨hname, rfl⟩ := Prod.mk.inj heq
  exact ⟨l, hl, hname, hname ▸ Path.parse_text (isWritable_of_leaf hmax hl), hsame⟩

theorem names_perm_of_same_flatten (hg : (object members).WellFormed) :
    (members.map Prod.fst).Perm ((d.leafLocations.map entry).map Prod.fst) := by
  have hsub : members.map Prod.fst ⊆ (d.leafLocations.map entry).map Prod.fst := by
    intro name hname
    obtain ⟨m, hm, rfl⟩ := List.mem_map.1 hname
    obtain ⟨l, hl, hname, -⟩ := exists_leaf_of_same_flatten hd hmax h m hm
    exact List.mem_map.2 ⟨entry l, List.mem_map_of_mem hl, hname⟩
  rw [flatten_eq hd] at h
  have hlength : members.length = (d.leafLocations.map entry).length :=
    beq_iff_eq.1 (Bool.and_eq_true_iff.1 h).1
  refine (List.subperm_of_subset (wellFormed_object.1 hg).1 hsub).perm_of_length_le ?_
  simpa using hlength.ge

/-- The entries of what equals a flat form are the leaves. -/
theorem areLeaves_readEntries (hg : (object members).WellFormed) :
    AreLeaves (readEntries members) d := by
  have hperm := (names_perm_of_same_flatten hd hmax h hg).filterMap
    fun key => (Path.parse key).toOption.map Path.steps
  rwa [← map_fst_readEntries, ← map_fst_readEntries,
    readEntries_map_entry fun l hl => isWritable_of_leaf hmax hl] at hperm

theorem same_of_mem_readEntries : ∀ l ∈ readEntries members,
    ∃ w, (l.1, w) ∈ d.leafLocations ∧ l.2.same w = true := by
  intro l hl
  obtain ⟨m, hm, p, hp, rfl⟩ := mem_readEntries.1 hl
  obtain ⟨k, hk, -, hparse, hsame⟩ := exists_leaf_of_same_flatten hd hmax h m hm
  obtain rfl : p = ⟨k.1⟩ := Except.ok.inj (hp.symm.trans hparse)
  exact ⟨k.2, hk, hsame⟩

end SameFlatten

/-- Members that do not add up to a document have a first one that cannot be added. -/
theorem exists_of_addMembers_eq_error (h : addMembers members v = .error e) :
    ∃ before m after w, members = before ++ m :: after ∧ addMembers before v = .ok w ∧
      addEntry w m.1 m.2 = .error e := by
  induction members generalizing v with
  | nil => contradiction
  | cons m members ih =>
    rw [addMembers_cons] at h
    cases hm : addEntry v m.1 m.2 with
    | error e' =>
      rw [hm] at h
      obtain rfl : e' = e := Except.error.inj h
      exact ⟨[], m, members, v, rfl, rfl, hm⟩
    | ok u =>
      rw [hm] at h
      obtain ⟨before, k, after, w, rfl, hbefore, hk⟩ := ih h
      refine ⟨m :: before, k, after, w, rfl, ?_, hk⟩
      rw [addMembers_cons, hm]
      exact hbefore

/-- If the entries are leaves and do not come in turn, one that is blocked is a conflict. -/
theorem exists_conflict (hd : d.WellFormed) (hmax : d.WithinLimits)
    (h : AreLeaves (readEntries members) d) (hparse : ∀ m ∈ members, ∃ p, Path.parse m.1 = .ok p)
    (hout : ¬ InTurn (readEntries members)) : ∃ before key x after p,
      members = before ++ (key, x) :: after ∧ Path.parse key = .ok p ∧
      IsBlocked (readEntries before) p.steps ∧
      unflatten (object members) = .error (.conflict key) := by
  have hall : AreLeaves (readEntries members ++ []) d := by rwa [List.append_nil]
  cases hread : unflatten (object members) with
  | ok d' =>
    have hstored := (addMembers_eq_ok_iff.1 hread).2
    exact absurd ((hall.exists_enterAll?_iff hd hmax).1 ⟨d', hstored⟩) hout
  | error e =>
    obtain ⟨before, ⟨key, x⟩, after, v, hsplit, hv, hadd⟩ := exists_of_addMembers_eq_error hread
    obtain ⟨p, hp⟩ := hparse (key, x) (by simp [hsplit])
    rw [hsplit, readEntries_append, readEntries_cons_of_parse hp] at h
    have hstep := h.enter?_eq_none_iff hd hmax (addMembers_eq_ok_iff.1 hv).2
    rw [addEntry_of_parse hp] at hadd
    cases henter : enter? v (p.steps, x) with
    | none =>
      rw [henter] at hadd
      obtain rfl : .conflict key = e := Except.error.inj hadd
      exact ⟨before, key, x, after, p, hsplit, hp, hstep.1 henter, rfl⟩
    | some u =>
      rw [henter] at hadd
      contradiction

/-- If an element with parts comes before another one, the members of the flat form can be put in an
order that is a conflict. -/
theorem exists_perm_conflict (hd : d.WellFormed) (hmax : d.WithinLimits)
    (hnests : ¬ d.NestsLast) : ∃ members key, members.Perm (flatten d).members ∧
      unflatten (object members) = .error (.conflict key) := by
  obtain ⟨ls, hperm, hout⟩ := exists_perm_not_inTurn hd hnests
  have hwritable : ∀ l ∈ ls, Path.IsWritable ⟨l.1⟩ := fun l hl =>
    isWritable_of_leaf hmax (hperm.mem_iff.1 hl)
  have hparse : ∀ m ∈ ls.map entry, ∃ p, Path.parse m.1 = .ok p := by
    intro m hm
    obtain ⟨l, hl, rfl⟩ := List.mem_map.1 hm
    exact ⟨⟨l.1⟩, Path.parse_text (hwritable l hl)⟩
  have hleaves : AreLeaves ls d := hperm.map Prod.fst
  rw [← readEntries_map_entry hwritable] at hleaves hout
  obtain ⟨before, key, x, after, p, -, -, -, hread⟩ := exists_conflict hd hmax hleaves hparse hout
  rw [flatten_eq hd]
  exact ⟨ls.map entry, key, hperm.map entry, hread⟩

/-- **Flat forms in another order.** What equals the flat form of a document is read as the
document, up to the order of members, if its entries come in turn. If not, one that is blocked is
reported as a conflict, although nothing stands in its way but a null that no entry has brought.
Entries come in turn in every order if no array has an element with parts before another element;
for any other document there is an order in which they do not. -/
theorem unflatten_of_same_flatten (hd : d.WellFormed) (hmax : d.WithinLimits) (hg : g.WellFormed)
    (h : g.same (flatten d) = true) :
    (InTurn (readEntries g.members) → ∃ d', unflatten g = .ok d' ∧ d'.same d = true) ∧
      (¬ InTurn (readEntries g.members) → ∃ before key x after p,
        g.members = before ++ (key, x) :: after ∧ Path.parse key = .ok p ∧
        IsBlocked (readEntries before) p.steps ∧ unflatten g = .error (.conflict key)) ∧
      (d.NestsLast → InTurn (readEntries g.members)) ∧
      (¬ d.NestsLast → ∃ members key, members.Perm (flatten d).members ∧
        unflatten (object members) = .error (.conflict key)) := by
  cases g with
  | object members =>
    have hleaves := areLeaves_readEntries hd hmax h hg
    have hall : AreLeaves (readEntries members ++ []) d := by rwa [List.append_nil]
    have hparse : ∀ m ∈ members, ∃ p, Path.parse m.1 = .ok p := by
      intro m hm
      obtain ⟨l, -, -, hparse, -⟩ := exists_leaf_of_same_flatten hd hmax h m hm
      exact ⟨⟨l.1⟩, hparse⟩
    refine ⟨fun hin => ?_, exists_conflict hd hmax hleaves hparse, hleaves.inTurn hd,
      exists_perm_conflict hd hmax⟩
    obtain ⟨d', hd'⟩ := (hall.exists_enterAll?_iff hd hmax).2 hin
    exact ⟨d', addMembers_eq_ok_iff.2 ⟨hparse, hd'⟩,
      hleaves.same hd (same_of_mem_readEntries hd hmax h) hd'⟩
  | _ =>
    rw [flatten_eq hd] at h
    contradiction

end Storing

/-- With the later element first, `{"a":[1,{"b":null}]}` comes back. -/
theorem unflatten_of_same_flatten_padded :
    (object [("$['a'][1]['b']", null), ("$['a'][0]", int 1)]).same
        (flatten (object [("a", array [int 1, object [("b", null)]])])) = true ∧
      ∃ d', unflatten (object [("$['a'][1]['b']", null), ("$['a'][0]", int 1)]) = .ok d' ∧
        d'.same (object [("a", array [int 1, object [("b", null)]])]) = true := by
  have hd : (object [("a", array [int 1, object [("b", null)]])]).WellFormed := by
    simp [WellFormed, WellFormedItems, WellFormedMembers]
  have hmax : (object [("a", array [int 1, object [("b", null)]])]).WithinLimits := by
    simp [WithinLimits, locations_eq, locationsIn, parts, Value.elements, maxItems]
  have hg : (object [("$['a'][1]['b']", null), ("$['a'][0]", int 1)]).WellFormed := by
    simp [WellFormed, WellFormedMembers]
  have hnests : (object [("a", array [int 1, object [("b", null)]])]).NestsLast := by
    intro ss items hloc i w hi hparts
    obtain ⟨rfl, rfl⟩ : ss = [.name "a"] ∧ items = [int 1, object [("b", null)]] := by
      simpa [locations_eq, locationsIn, parts] using hloc
    rcases i with _ | _ | i
    · obtain rfl : int 1 = w := Option.some.inj hi
      exact absurd rfl hparts
    · rfl
    · contradiction
  have hsame : (object [("$['a'][1]['b']", null), ("$['a'][0]", int 1)]).same
      (flatten (object [("a", array [int 1, object [("b", null)]])])) = true := by cbv
  obtain ⟨hread, -, hturn, -⟩ := unflatten_of_same_flatten hd hmax hg hsame
  exact ⟨hsame, hread (hturn hnests)⟩

/-- In `[{"a":1},5]` the first element has parts. If the entry of the second comes first, the one
inside the first is reported as a conflict. -/
theorem unflatten_reordered_conflict :
    (object [("$[1]", int 5), ("$[0]['a']", int 1)]).same
        (flatten (array [object [("a", int 1)], int 5])) = true ∧
      unflatten (object [("$[1]", int 5), ("$[0]['a']", int 1)]) =
        .error (.conflict "$[0]['a']") := by
  refine ⟨by cbv, ?_⟩
  have hlater : Path.parse "$[1]" = .ok ⟨[.index 1]⟩ := rfl
  have hearlier : Path.parse "$[0]['a']" = .ok ⟨[.index 0, .name "a"]⟩ :=
    Path.parse_text (p := ⟨[.index 0, .name "a"]⟩) (by decide)
  rw [unflatten_object, addMembers_cons, addEntry_of_parse hlater]
  change addMembers [("$[0]['a']", int 1)] (array [null, int 5]) = _
  rw [addMembers_cons, addEntry_of_parse hearlier]
  rfl

end JsonPath

import JsonPath.Proofs.Edit.Store
import JsonPath.Proofs.Json.WellFormed

/-!
# What a store leaves as it was

A successful store opens the document step by step: where the next part is missing, it is made, and
an array may be padded for that. Then the part that was reached is put back, changed. Both happen
along the path only, so that all other places keep what they hold. The one thing that appears
elsewhere is a null that fills a gap in an array on the way.

* `Step.Opens` — a value with a part where the step leads, found or made.
* `storeSteps_cons` — the first step of a successful store, and what is left to do.
* `follow_storeSteps_of_apart` — a place beside the path holds what it held, or is a padding null.
* `names_storeSteps` — an object on the way keeps its names in order, with at most one more at the
  end.
* `storeSteps_false_iff`, `storeSteps_true_fails_iff` — when a store succeeds: without creating just
  where something is, with creating unless the way is barred.
-/

namespace JsonPath

variable {s t : Step} {ss qs rest : List Step} {v w u new part x : Value} {create : Bool}

/-! ## One step -/

namespace Step

/-- Whether two steps are positions, in this order. -/
def Precedes : Step → Step → Prop
  | index i, index k => i < k
  | _, _ => False

instance (s t : Step) : Decidable (s.Precedes t) :=
  match s, t with
  | index i, index k => inferInstanceAs (Decidable (i < k))
  | root, _ | name _, _ | index _, root | index _, name _ => inferInstanceAs (Decidable False)

theorem Precedes.exists_index (h : t.Precedes s) :
    ∃ i k, t = index i ∧ s = index k ∧ i < k := by
  cases t with
  | root | name => exact absurd h id
  | index i =>
    cases s with
    | root | name => exact absurd h id
    | index k => exact ⟨i, k, rfl, rfl, h⟩

theorem Precedes.ne (h : t.Precedes s) : t ≠ s := by
  obtain ⟨i, k, rfl, rfl, hik⟩ := h.exists_index
  exact fun heq => Nat.ne_of_lt hik (index.inj heq)

/-- Positions before one that is there are there too. -/
theorem Precedes.isSome_get? (h : t.Precedes s) (hw : s.get? v = some w) : (t.get? v).isSome := by
  obtain ⟨i, k, rfl, rfl, hik⟩ := h.exists_index
  obtain ⟨items, rfl, hk⟩ := get?_index_eq_some.1 hw
  have hi : i < items.length := Nat.lt_trans hik (List.getElem?_eq_some_iff.1 hk).1
  simp [get?, Value.element?, Value.elements, hi]

/-- Putting something where one step leads changes nothing where another one does. -/
theorem get?_put_of_ne (hs : s.IsPlain) (ht : t.IsPlain) (hne : t ≠ s) (x v : Value) :
    t.get? (s.put x v) = t.get? v := by
  cases s with
  | root => exact absurd hs not_isPlain_root
  | index k =>
    cases v with
    | array items =>
      cases t with
      | root => exact absurd ht not_isPlain_root
      | index i =>
        have hki : k ≠ i := fun h => hne (congrArg index h.symm)
        exact List.getElem?_set_ne hki
      | name => rfl
    | _ => rfl
  | name n =>
    cases v with
    | object members =>
      cases t with
      | root => exact absurd ht not_isPlain_root
      | index => rfl
      | name m => exact Members.lookup_insert_of_ne (fun h => hne (congrArg name h)) x members
    | _ => rfl

end Step

namespace Path

/-! ## Places -/

/-- Whether two places lie apart: neither at or above the other. -/
def Apart (qs ss : List Step) : Prop := ¬ qs <+: ss ∧ ¬ ss <+: qs

/-- Whether the first place is an element before the one that leads on to the second, in an array
on the way there. -/
def IsPadding (qs ss : List Step) : Prop :=
  ∃ front t s rest, qs = front ++ [t] ∧ ss = front ++ s :: rest ∧ t.Precedes s

theorem apart_cons_cons : Apart (t :: qs) (s :: ss) ↔ (t = s → Apart qs ss) := by
  simp only [Apart, List.cons_prefix_cons]
  by_cases h : t = s
  · subst h
    simp
  · simp [h, Ne.symm h]

theorem Apart.exists_cons (h : Apart qs ss) :
    ∃ t qs' s ss', qs = t :: qs' ∧ ss = s :: ss' := by
  cases qs with
  | nil => exact absurd List.nil_prefix h.1
  | cons t qs' =>
    cases ss with
    | nil => exact absurd List.nil_prefix h.2
    | cons s ss' => exact ⟨t, qs', s, ss', rfl, rfl⟩

theorem isPadding_cons_cons :
    IsPadding (t :: qs) (s :: ss) ↔ (qs = [] ∧ t.Precedes s) ∨ (t = s ∧ IsPadding qs ss) := by
  constructor
  · rintro ⟨front, t', s', rest, hqs, hss, hp⟩
    cases front with
    | nil =>
      obtain ⟨rfl, rfl⟩ := List.cons.inj hqs
      obtain ⟨rfl, rfl⟩ := List.cons.inj hss
      exact .inl ⟨rfl, hp⟩
    | cons f front =>
      obtain ⟨rfl, rfl⟩ := List.cons.inj hqs
      obtain ⟨rfl, rfl⟩ := List.cons.inj hss
      exact .inr ⟨rfl, front, t', s', rest, rfl, rfl, hp⟩
  · rintro (⟨rfl, hp⟩ | ⟨rfl, front, t', s', rest, rfl, rfl, hp⟩)
    · exact ⟨[], t, s, ss, rfl, rfl, hp⟩
    · exact ⟨t :: front, t', s', rest, rfl, rfl, hp⟩

/-! ## What is made on the way -/

/-- What is made where a part is missing: a container for the step after it, or after the last step
the value to be stored. -/
def provision (new : Value) : List Step → Value
  | [] => new
  | t :: _ => t.container

/-- Nothing lies beyond the first step into a container that has just been made. -/
theorem follow_provision (hrest : ∀ s ∈ rest, s.IsPlain) (hqs : ∀ t ∈ qs, t.IsPlain)
    (ha : Apart qs rest) (new : Value) : follow qs (provision new rest) = none := by
  obtain ⟨t, qs', s, rest', rfl, rfl⟩ := ha.exists_cons
  have ht := hqs t List.mem_cons_self
  have hnone : t.get? s.container = none := by
    cases s <;> cases t <;> first | rfl | exact absurd ht Step.not_isPlain_root
  rw [provision, follow, hnone]
  rfl

end Path

/-! ## Opening a value -/

section Storing

variable [Memory]

namespace Step

/-- A part that was made: the last element of a padded array, or the last member of an object. -/
theorem provide?_eq_some (hs : s.IsPlain) (hnone : s.get? v = none)
    (hu : s.provide? new v = some u) :
    (∃ i items, s = .index i ∧ v = .array items ∧ items.length ≤ i ∧
      u = .array (items ++ List.replicate (i - items.length) .null ++ [new])) ∨
    (∃ n members, s = .name n ∧ v = .object members ∧ members.lookup n = none ∧
      u = .object (members ++ [(n, new)])) := by
  cases s with
  | root => exact absurd hs not_isPlain_root
  | index i =>
    cases v with
    | array items =>
      have hi : items.length ≤ i := List.getElem?_eq_none_iff.1 hnone
      rw [provide?, if_neg (Nat.not_lt.2 hi), padTo?] at hu
      split at hu
      · exact .inl ⟨i, items, rfl, rfl, hi, (Option.some.inj hu).symm⟩
      · contradiction
    | _ => contradiction
  | name n =>
    cases v with
    | object members =>
      have hlookup : members.lookup n = none := hnone
      simp only [provide?, hlookup, Option.isSome_none, Bool.false_eq_true, if_false,
        Option.some.injEq] at hu
      exact .inr ⟨n, members, rfl, rfl, hlookup, hu.symm⟩
    | _ => contradiction

/-- `s.Opens create new v u part`: from `v` on, `s` leads to `part` in `u`. Either it does so in `v`
already, or `part` is the new value and has been made. -/
inductive Opens (create : Bool) (new : Value) (s : Step) (v : Value) : Value → Value → Prop where
  | found {part : Value} (h : s.get? v = some part) : Opens create new s v v part
  | made {u : Value} (hc : create = true) (hnone : s.get? v = none)
      (hu : s.provide? new v = some u) : Opens create new s v u new

namespace Opens

theorem get?_eq (hs : s.IsPlain) (h : s.Opens create new v u part) : s.get? u = some part := by
  cases h with
  | found h => exact h
  | made _ hnone hu =>
    have hf : s.Fits v := by
      apply Classical.byContradiction
      intro hf
      rw [provide?_of_not_fits hs hnone hf] at hu
      contradiction
    obtain ⟨u', hu', hget⟩ := provide?_of_fits hnone hf new
    obtain rfl := Option.some.inj (hu'.symm.trans hu)
    exact hget

/-- A step that leads past no other position sees no difference. -/
theorem get?_of_not_precedes (hs : s.IsPlain) (ht : t.IsPlain) (h : s.Opens create new v u part)
    (hne : t ≠ s) (hp : ¬ t.Precedes s) : t.get? u = t.get? v := by
  cases h with
  | found => rfl
  | made _ hnone hu =>
    rcases provide?_eq_some hs hnone hu with ⟨k, items, rfl, rfl, hk, rfl⟩ | ⟨n, members, rfl, rfl,
      -, rfl⟩
    · cases t with
      | root => exact absurd ht not_isPlain_root
      | index i =>
        have hki : k ≠ i := fun h => hne (congrArg index h.symm)
        have hi : k < i := Nat.lt_of_le_of_ne (Nat.not_lt.1 hp) hki
        show (items ++ List.replicate (k - items.length) Value.null ++ [new])[i]? = items[i]?
        rw [List.getElem?_eq_none (by simp; omega), List.getElem?_eq_none (by omega)]
      | name => rfl
    · cases t with
      | root => exact absurd ht not_isPlain_root
      | index => rfl
      | name m =>
        have hmn : (m == n) = false := beq_eq_false_iff_ne.2 fun h => hne (congrArg name h)
        show (members ++ [(n, new)]).lookup m = members.lookup m
        simp [List.lookup_append, List.lookup_cons, hmn]

/-- A position before the one that was opened holds what it held, or a null that fills the gap. -/
theorem get?_of_precedes (hs : s.IsPlain) (h : s.Opens create new v u part)
    (hp : t.Precedes s) : t.get? u = some ((t.get? v).getD .null) := by
  cases h with
  | found h =>
    obtain ⟨w, hw⟩ := Option.isSome_iff_exists.1 (hp.isSome_get? h)
    rw [hw, Option.getD_some]
  | made _ hnone hu =>
    obtain ⟨i, k, rfl, rfl, hik⟩ := hp.exists_index
    rcases provide?_eq_some hs hnone hu with ⟨_, items, heq, rfl, hk, rfl⟩ | ⟨n, _, heq, -⟩
    · obtain rfl := Step.index.inj heq
      show (items ++ List.replicate (k - items.length) Value.null ++ [new])[i]? =
        some (items[i]?.getD .null)
      by_cases hi : i < items.length
      · simp [hi, Nat.lt_add_right]
      · rw [List.getElem?_append_left (by simp; omega), List.getElem?_append_right (by omega),
          List.getElem?_replicate, if_pos (by omega), List.getElem?_eq_none (by omega)]
        rfl
    · cases heq

end Opens

end Step

namespace Path

open Step (Opens)

/-! ## All steps -/

/-- **One step.** A store that succeeds opens the value at the first step and goes on in the part
there. -/
theorem storeSteps_cons (hs : s.IsPlain) (h : (storeSteps create new (s :: rest) v).2 = true) :
    ∃ u part, s.Opens create (provision new rest) v u part ∧
      (storeSteps create new rest part).2 = true ∧
      (storeSteps create new (s :: rest) v).1 = s.put (storeSteps create new rest part).1 u := by
  cases hget : s.get? v with
  | some part =>
    refine ⟨v, part, .found hget, ?_⟩
    cases rest with
    | nil =>
      have hstore : storeSteps create new [s] v = (s.put new v, true) := storeLast_of_get? hs hget
      rw [hstore]
      exact ⟨rfl, rfl⟩
    | cons t rest =>
      rw [storeSteps_of_get? hs hget] at h ⊢
      exact ⟨h, rfl⟩
  | none =>
    by_cases hf : create = true ∧ s.Fits v
    · obtain ⟨rfl, hf⟩ := hf
      obtain ⟨u, hu, hgetu⟩ := Step.provide?_of_fits hget hf (provision new rest)
      refine ⟨u, _, .made rfl hget hu, ?_⟩
      cases rest with
      | nil =>
        refine ⟨rfl, ?_⟩
        have hput : s.put new u = u := (Step.put_eq_self_iff hs hgetu).2 rfl
        rw [storeSteps, storeSteps, hput]
        cases s with
        | root => exact absurd hs Step.not_isPlain_root
        | index | name =>
          rw [provision] at hu
          simp [storeLast, hget, hu]
      | cons t rest =>
        rw [provision] at hu hgetu
        simp only [storeSteps, if_true, hu, hgetu] at h ⊢
        exact ⟨h, rfl⟩
    · have hfits : create = true → ¬ s.Fits v := fun hc hfits => hf ⟨hc, hfits⟩
      cases rest with
      | nil =>
        rw [storeSteps, storeLast_of_not_fits hs hget hfits] at h
        contradiction
      | cons t rest =>
        rw [storeSteps_of_not_fits hs hget hfits] at h
        contradiction

/-- What was stored is there. -/
theorem follow_storeSteps (hss : ∀ s ∈ ss, s.IsPlain)
    (h : (storeSteps create new ss v).2 = true) :
    follow ss (storeSteps create new ss v).1 = some new := by
  induction ss generalizing v with
  | nil => rfl
  | cons s rest ih =>
    obtain ⟨hs, hrest⟩ := List.forall_mem_cons.1 hss
    obtain ⟨u, part, hopens, hstored, heq⟩ := storeSteps_cons hs h
    rw [heq, follow, Step.get?_put hs (hopens.get?_eq hs)]
    exact ih hrest hstored

/-! ### Beside the path -/

/-- **Beside the path.** A place apart from the one stored to holds what it held, except that it
holds a null if there was nothing and an array was padded there. -/
theorem follow_storeSteps_of_apart (hss : ∀ s ∈ ss, s.IsPlain) (hqs : ∀ t ∈ qs, t.IsPlain)
    (h : (storeSteps create new ss v).2 = true) (ha : Apart qs ss) :
    (IsPadding qs ss →
      follow qs (storeSteps create new ss v).1 = some ((follow qs v).getD .null)) ∧
    (¬ IsPadding qs ss → follow qs (storeSteps create new ss v).1 = follow qs v) := by
  induction ss generalizing qs v with
  | nil => exact absurd List.nil_prefix ha.2
  | cons s rest ih =>
    obtain ⟨hs, hrest⟩ := List.forall_mem_cons.1 hss
    obtain ⟨t, qs, s, rest, rfl, heq⟩ := ha.exists_cons
    obtain ⟨rfl, rfl⟩ := List.cons.inj heq
    obtain ⟨ht, hqs⟩ := List.forall_mem_cons.1 hqs
    obtain ⟨u, part, hopens, hstored, heq⟩ := storeSteps_cons hs h
    rw [heq, isPadding_cons_cons]
    by_cases hts : t = s
    · subst hts
      have hget := Step.get?_put hs (hopens.get?_eq hs) (storeSteps create new rest part).1
      have hapart : Apart qs rest := apart_cons_cons.1 ha rfl
      -- In a part that was made there is nothing yet, just as there was nothing before.
      have hpart : follow (t :: qs) v = follow qs part := by
        cases hopens with
        | found h => rw [follow, h, Option.bind_some]
        | made _ hnone _ =>
          rw [follow, hnone, follow_provision hrest hqs hapart]
          rfl
      have hself : ¬ t.Precedes t := fun hp => hp.ne rfl
      rw [follow, hget, Option.bind_some, hpart]
      simpa [hself] using ih hrest hqs hstored hapart
    · rw [follow, follow, Step.get?_put_of_ne hs ht hts]
      constructor
      · rintro (⟨rfl, hp⟩ | ⟨rfl, -⟩)
        · rw [hopens.get?_of_precedes hs hp]
          cases t.get? v <;> rfl
        · contradiction
      · intro hp
        by_cases hprecedes : t.Precedes s
        · -- Below a padding null there is nothing.
          have hne : qs ≠ [] := fun hqs => hp (.inl ⟨hqs, hprecedes⟩)
          obtain ⟨t', qs', rfl⟩ := List.exists_cons_of_ne_nil hne
          rw [hopens.get?_of_precedes hs hprecedes]
          cases t.get? v with
          | some w => rfl
          | none =>
            have ht' := hqs t' List.mem_cons_self
            cases t' <;> first | rfl | exact absurd ht' Step.not_isPlain_root
        · rw [hopens.get?_of_not_precedes hs ht hts hprecedes]

/-! ### On the way -/

/-- An object on the way keeps its names in order; one that comes new is last. -/
theorem names_storeSteps {members : List (String × Value)} (hss : ∀ s ∈ ss, s.IsPlain)
    (h : (storeSteps create new ss v).2 = true) (hq : qs <+: ss) (hne : qs ≠ ss)
    (hget : follow qs v = some (.object members)) :
    ∃ name members', qs ++ [.name name] <+: ss ∧
      follow qs (storeSteps create new ss v).1 = some (.object members') ∧
      members'.map Prod.fst = if name ∈ members.map Prod.fst then members.map Prod.fst
        else members.map Prod.fst ++ [name] := by
  induction qs generalizing ss v with
  | nil =>
    cases ss with
    | nil => exact absurd rfl hne
    | cons s rest =>
      have hs := hss s List.mem_cons_self
      obtain rfl : v = .object members := Option.some.inj hget
      obtain ⟨u, part, hopens, -, heq⟩ := storeSteps_cons hs h
      rw [heq]
      cases hopens with
      | found hpart =>
        cases s with
        | root => exact absurd hs Step.not_isPlain_root
        | index => contradiction
        | name n =>
          exact ⟨n, _, by simp, rfl, Members.names_insert n _ members⟩
      | made _ hnone hu =>
        rcases Step.provide?_eq_some hs hnone hu with ⟨_, _, -, hv, -⟩ | ⟨n, _, rfl, hv, hn, rfl⟩
        · cases hv
        · obtain rfl := Value.object.inj hv
          refine ⟨n, _, by simp, rfl, ?_⟩
          have hnot : n ∉ members.map Prod.fst := by
            intro hmem
            obtain ⟨m, hm, rfl⟩ := List.mem_map.1 hmem
            simpa using List.lookup_eq_none_iff.1 hn m hm
          rw [Members.names_insert, if_neg hnot, if_pos (by simp)]
          simp
  | cons t qs ih =>
    obtain ⟨rest, rfl⟩ := hq
    rw [List.cons_append] at hss h hne ⊢
    obtain ⟨ht, hrest⟩ := List.forall_mem_cons.1 hss
    obtain ⟨u, part, hopens, hstored, heq⟩ := storeSteps_cons ht h
    have hpart : t.get? v = some part ∧ follow qs part = some (.object members) := by
      rw [follow] at hget
      cases hopens with
      | found h => exact ⟨h, by rwa [h] at hget⟩
      | made _ hnone _ =>
        rw [hnone] at hget
        contradiction
    obtain ⟨n, members', hprefix, hfollow, hnames⟩ := ih hrest hstored (List.prefix_append qs rest)
      (fun h => hne (congrArg (t :: ·) h)) hpart.2
    refine ⟨n, members', (List.cons_prefix_cons).2 ⟨rfl, hprefix⟩, ?_, hnames⟩
    rw [heq, follow, Step.get?_put ht (hopens.get?_eq ht)]
    exact hfollow

/-- Without creating, a store succeeds just where something is. -/
theorem storeSteps_false_iff (hss : ∀ s ∈ ss, s.IsPlain) :
    (storeSteps false new ss v).2 = true ↔ (follow ss v).isSome := by
  induction ss generalizing v with
  | nil => simp [storeSteps, follow]
  | cons s rest ih =>
    obtain ⟨hs, hrest⟩ := List.forall_mem_cons.1 hss
    rw [follow]
    cases hget : s.get? v with
    | some part =>
      cases rest with
      | nil => simp [storeSteps, storeLast_of_get? hs hget, follow]
      | cons t rest =>
        rw [storeSteps_of_get? hs hget]
        exact ih hrest
    | none =>
      cases rest with
      | nil => simp [storeSteps, storeLast_of_not_fits hs hget]
      | cons t rest => simp [storeSteps_of_not_fits hs hget]

/-! ### Barred -/

/-- The first part on the way that is missing cannot be made, or for a position further on memory
has no room. -/
def IsBarred (ss : List Step) (v : Value) : Prop :=
  ∃ front s rest u, ss = front ++ s :: rest ∧ follow front v = some u ∧ s.get? u = none ∧
    (¬ s.Fits u ∨ ∃ i, .index i ∈ rest ∧ maxItems ≤ i)

theorem not_isBarred_of_isSome (h : (follow ss v).isSome) : ¬ IsBarred ss v := by
  rintro ⟨front, s, rest, u, rfl, hfront, hnone, -⟩
  rw [follow_append, hfront, Option.bind_some, follow, hnone] at h
  contradiction

theorem isBarred_cons_of_get? (hw : s.get? v = some w) :
    IsBarred (s :: rest) v ↔ IsBarred rest w := by
  constructor
  · rintro ⟨front, t, after, u, h, hfront, hnone, hbar⟩
    cases front with
    | nil =>
      obtain ⟨rfl, rfl⟩ := List.cons.inj h
      obtain rfl := Option.some.inj hfront
      rw [hw] at hnone
      contradiction
    | cons f front =>
      obtain ⟨rfl, rfl⟩ := List.cons.inj h
      rw [follow, hw] at hfront
      exact ⟨front, t, after, u, rfl, hfront, hnone, hbar⟩
  · rintro ⟨front, t, after, u, rfl, hfront, hbar⟩
    exact ⟨s :: front, t, after, u, rfl, by rw [follow, hw]; exact hfront, hbar⟩

theorem isBarred_cons_of_none (hw : s.get? v = none) :
    IsBarred (s :: rest) v ↔ ¬ s.Fits v ∨ ∃ i, .index i ∈ rest ∧ maxItems ≤ i := by
  constructor
  · rintro ⟨front, t, after, u, h, hfront, -, hbar⟩
    cases front with
    | nil =>
      obtain ⟨rfl, rfl⟩ := List.cons.inj h
      obtain rfl := Option.some.inj hfront
      exact hbar
    | cons f front =>
      obtain ⟨rfl, rfl⟩ := List.cons.inj h
      rw [follow, hw] at hfront
      contradiction
  · intro hbar
    exact ⟨[], s, rest, v, rfl, rfl, hw, hbar⟩

/-- A store that is to create what is missing fails just where it is barred. -/
theorem storeSteps_true_fails_iff (hss : ∀ s ∈ ss, s.IsPlain) (new : Value) :
    (storeSteps true new ss v).2 = false ↔ IsBarred ss v := by
  induction ss generalizing v with
  | nil =>
    have hnil : ¬ IsBarred [] v := not_isBarred_of_isSome rfl
    simp [storeSteps, hnil]
  | cons s rest ih =>
    obtain ⟨hs, hrest⟩ := List.forall_mem_cons.1 hss
    cases hw : s.get? v with
    | some w =>
      rw [isBarred_cons_of_get? hw, ← ih hrest]
      cases rest with
      | nil => simp [storeSteps, storeLast_of_get? hs hw]
      | cons t rest => rw [storeSteps_of_get? hs hw]
    | none =>
      rw [isBarred_cons_of_none hw]
      by_cases hf : s.Fits v
      · cases rest with
        | nil => simp [storeSteps, storeLast_of_fits hw hf, hf]
        | cons t rest =>
          obtain ⟨u, -, hstore⟩ := storeSteps_of_fits new hw hf t rest
          rw [hstore, ← Bool.not_eq_true, storeSteps_container new hrest]
          simp [hf]
      · cases rest with
        | nil => simp [storeSteps, storeLast_of_not_fits hs hw fun _ => hf, hf]
        | cons t rest => simp [storeSteps_of_not_fits hs hw fun _ => hf, hf]

/-! ## Documents -/

/-- The document `after` is `before` with a value stored at a path, and changed nowhere else. -/
structure IsStored (p : Path) (new before after : Value) : Prop where
  /-- The value is there. -/
  stored : p.get? after = some new
  /-- What lies beside the path stays. -/
  kept : ∀ q : Path, q.IsPlain → Apart q.steps p.steps → ∀ w, q.get? before = some w →
    q.get? after = some w
  /-- What is new lies on the path or below it, or is a null that fills a gap in an array on it. -/
  fresh : ∀ q : Path, q.IsPlain → q.get? before = none → ∀ w, q.get? after = some w →
    q.steps <+: p.steps ∨ p.steps <+: q.steps ∨ (IsPadding q.steps p.steps ∧ w = .null)
  /-- Objects on the way keep the order of their members, and a new one comes last. -/
  ordered : ∀ q : Path, q.steps <+: p.steps → q ≠ p → ∀ members,
    q.get? before = some (.object members) → ∃ name members',
      q.steps ++ [.name name] <+: p.steps ∧ q.get? after = some (.object members') ∧
      members'.map Prod.fst = if name ∈ members.map Prod.fst then members.map Prod.fst
        else members.map Prod.fst ++ [name]

theorem isStored_storeSteps {p : Path} {d : Value} (hp : p.IsPlain)
    (h : (p.store new create d).2 = true) : IsStored p new d (p.store new create d).1 where
  stored := follow_storeSteps hp h
  kept q hq ha w hw := by
    have hbeside := follow_storeSteps_of_apart hp hq h ha
    show follow q.steps _ = _
    rw [get?] at hw
    rw [hw] at hbeside
    by_cases hpad : IsPadding q.steps p.steps
    · exact hbeside.1 hpad
    · exact hbeside.2 hpad
  fresh q hq hnone w hw := by
    by_cases ha : Apart q.steps p.steps
    · have hbeside := follow_storeSteps_of_apart hp hq h ha
      rw [get?] at hnone hw
      rw [hnone] at hbeside
      by_cases hpad : IsPadding q.steps p.steps
      · have hnull := (hbeside.1 hpad).symm.trans hw
        exact .inr (.inr ⟨hpad, (Option.some.inj hnull).symm⟩)
      · have hmissing := (hbeside.2 hpad).symm.trans hw
        contradiction
    · rw [Apart, Classical.not_and_iff_not_or_not, Classical.not_not, Classical.not_not] at ha
      exact ha.imp_right .inl
  ordered q hq hne members hget :=
    names_storeSteps hp h hq (fun heq => hne (congrArg mk heq)) hget

/-- **Storing is exact and local.** A store that succeeds changes the document where its path leads,
and on the way there no more than it has to. Without creating what is missing it succeeds just if
the place is there. -/
theorem store_exact {p : Path} (hp : p.IsPlain) (new : Value) (create : Bool) (d : Value) :
    ((p.store new create d).2 = true → IsStored p new d (p.store new create d).1) ∧
      ((p.store new false d).2 = true ↔ (p.get? d).isSome) :=
  ⟨isStored_storeSteps hp, storeSteps_false_iff hp⟩

end Path

end Storing

namespace Path

/-- A path that pads an array, makes an object in it and adds a member there. -/
theorem store_exact_padding :
    Path.IsPlain ⟨[.name "a", .index 2, .name "x"]⟩ ∧
      Path.store ⟨[.name "a", .index 2, .name "x"]⟩ (.bool true) true
        (.object [("a", .array [.bool false]), ("b", .null)]) =
        (.object [("a", .array [.bool false, .null, .object [("x", .bool true)]]), ("b", .null)],
          true) ∧
      IsStored ⟨[.name "a", .index 2, .name "x"]⟩ (.bool true)
        (.object [("a", .array [.bool false]), ("b", .null)])
        (.object [("a", .array [.bool false, .null, .object [("x", .bool true)]]),
          ("b", .null)]) := by
  have hp : Path.IsPlain ⟨[.name "a", .index 2, .name "x"]⟩ := by simp [Path.IsPlain]
  exact ⟨hp, rfl, (store_exact hp (.bool true) true
    (.object [("a", .array [.bool false]), ("b", .null)])).1 rfl⟩

end Path

end JsonPath

import JsonPath.Proofs.Edit.Removal
import JsonPath.Proofs.Edit.Update
import JsonPath.Proofs.Json.WellFormed

/-!
# Changes keep documents well formed

Members are added where their name is missing, and stored in place of the one with their name where
it is not. So removing, storing and updating keep a well-formed document well formed, if the values
that are put into it are.

* `removePaths_wellFormed`, `Path.store_wellFormed`, `Expression.update_wellFormed` — the three ways
  to change a document.
-/

namespace JsonPath

open Value

variable {s : Step} {v w new : Value}

/-! ## Single parts -/

namespace Members

theorem erase_sublist (name : String) (members : List (String × Value)) :
    (erase name members).Sublist members := by
  induction members with
  | nil => exact List.Sublist.refl []
  | cons m rest ih =>
    unfold erase
    split
    · exact List.sublist_cons_self m rest
    · exact ih.cons_cons m

end Members

namespace Step

theorem put_wellFormed (hv : v.WellFormed) (hnew : new.WellFormed) (s : Step) :
    (s.put new v).WellFormed := by
  cases s with
  | root => exact hnew
  | index i =>
    cases v with
    | array items =>
      refine wellFormed_array.2 fun w hw => ?_
      rcases List.mem_or_eq_of_mem_set hw with hw | rfl
      · exact wellFormed_array.1 hv w hw
      · exact hnew
    | _ => exact hv
  | name name =>
    cases v with
    | object members => exact Members.insert_wellFormed hv hnew name
    | _ => exact hv

theorem erase?_wellFormed (hv : v.WellFormed) (h : s.erase? v = some w) : w.WellFormed := by
  cases s with
  | root => contradiction
  | index i =>
    cases v with
    | array items =>
      simp only [erase?, eraseElement?, Option.map_map, Option.map_eq_some_iff] at h
      obtain ⟨old, -, rfl⟩ := h
      exact wellFormed_array.2 fun u hu => wellFormed_array.1 hv u (List.mem_of_mem_eraseIdx hu)
    | _ => contradiction
  | name name =>
    cases v with
    | object members =>
      simp only [erase?, eraseMember?, Option.map_map, Option.map_eq_some_iff] at h
      obtain ⟨old, -, rfl⟩ := h
      obtain ⟨hnames, hvalues⟩ := wellFormed_object.1 hv
      have hsub := Members.erase_sublist name members
      exact wellFormed_object.2
        ⟨hnames.sublist (hsub.map Prod.fst), fun m hm => hvalues m (hsub.subset hm)⟩
    | _ => contradiction

theorem container_wellFormed (s : Step) : s.container.WellFormed := by
  cases s <;> simp [container]

theorem provide?_wellFormed [Memory] (hv : v.WellFormed) (hnew : new.WellFormed)
    (h : s.provide? new v = some w) : w.WellFormed := by
  cases s with
  | root =>
    obtain rfl := Option.some.inj h
    exact hv
  | index i =>
    cases v with
    | array items =>
      by_cases hi : i < items.length
      · rw [provide?, if_pos hi] at h
        obtain rfl := Option.some.inj h
        exact hv
      · rw [provide?, if_neg hi, Option.map_eq_some_iff] at h
        obtain ⟨padded, hpadded, rfl⟩ := h
        unfold padTo? at hpadded
        split at hpadded
        · obtain rfl := Option.some.inj hpadded
          have hitems := wellFormed_array.1 hv
          refine wellFormed_array.2 fun u hu => ?_
          simp only [List.mem_append, List.mem_replicate, List.mem_singleton] at hu
          rcases hu with (hu | ⟨-, rfl⟩) | rfl
          · exact hitems u hu
          · trivial
          · exact hnew
        · contradiction
    | _ => contradiction
  | name name =>
    cases v with
    | object members =>
      by_cases hname : (members.lookup name).isSome
      · rw [provide?, if_pos hname] at h
        obtain rfl := Option.some.inj h
        exact hv
      · rw [provide?, if_neg hname] at h
        obtain rfl := Option.some.inj h
        obtain ⟨hnames, hvalues⟩ := wellFormed_object.1 hv
        have hlookup : members.lookup name = none := Option.not_isSome_iff_eq_none.1 hname
        refine wellFormed_object.2 ⟨?_, fun m hm => ?_⟩
        · rw [List.map_append, List.nodup_append]
          refine ⟨hnames, by simp, fun a ha b hb hab => ?_⟩
          obtain ⟨m, hm, rfl⟩ := List.mem_map.1 ha
          have hne := List.lookup_eq_none_iff.1 hlookup m hm
          simp_all
        · rcases List.mem_append.1 hm with hm | hm
          · exact hvalues m hm
          · rw [List.mem_singleton.1 hm]
            exact hnew
    | _ => contradiction

end Step

/-! ## Along a path -/

namespace Path

theorem modifySteps?_wellFormed {f : Value → Value} (hf : ∀ u, u.WellFormed → (f u).WellFormed)
    {ss : List Step} : ∀ {v w : Value}, v.WellFormed → modifySteps? f ss v = some w →
      w.WellFormed := by
  induction ss with
  | nil =>
    intro v w hv h
    obtain rfl := Option.some.inj h
    exact hf v hv
  | cons s ss ih =>
    intro v w hv h
    obtain ⟨part, hpart, h⟩ := Option.bind_eq_some_iff.1 h
    obtain ⟨changed, hchanged, h⟩ := Option.bind_eq_some_iff.1 h
    obtain rfl := Option.some.inj h
    exact Step.put_wellFormed hv (ih (hv.of_get? hpart) hchanged) s

theorem eraseSteps?_wellFormed : ∀ {ss : List Step} {v w : Value}, v.WellFormed →
    eraseSteps? ss v = some w → w.WellFormed
  | [], _, _, _, h => by contradiction
  | [s], v, w, hv, h => Step.erase?_wellFormed hv h
  | s :: t :: rest, v, w, hv, h => by
    obtain ⟨part, hpart, h⟩ := Option.bind_eq_some_iff.1 h
    obtain ⟨changed, hchanged, h⟩ := Option.bind_eq_some_iff.1 h
    obtain rfl := Option.some.inj h
    exact Step.put_wellFormed hv (eraseSteps?_wellFormed (hv.of_get? hpart) hchanged) s

theorem storeSteps_wellFormed [Memory] {create : Bool} (hnew : new.WellFormed) : ∀ {ss : List Step}
    {v : Value}, v.WellFormed → (storeSteps create new ss v).1.WellFormed
  | [], _, _ => hnew
  | [s], v, hv => by
    cases s with
    | root => exact hv
    | index | name =>
      simp only [storeSteps, storeLast]
      split
      · exact Step.put_wellFormed hv hnew _
      · split
        · split
          · rename_i hprovide
            exact Step.provide?_wellFormed hv hnew hprovide
          · exact hv
        · exact hv
  | s :: t :: rest, v, hv => by
    simp only [storeSteps]
    split
    · exact hv
    · rename_i provided hprovided
      have hwf : provided.WellFormed := by
        split at hprovided
        · exact Step.provide?_wellFormed hv (Step.container_wellFormed t) hprovided
        · obtain rfl := Option.some.inj hprovided
          exact hv
      split
      · exact hv
      · rename_i part hpart
        exact Step.put_wellFormed hwf (storeSteps_wellFormed hnew (hwf.of_get? hpart)) s

theorem store_wellFormed [Memory] {p : Path} {create : Bool} {d : Value} (hd : d.WellFormed)
    (hnew : new.WellFormed) : (p.store new create d).1.WellFormed :=
  storeSteps_wellFormed hnew hd

end Path

/-! ## Many places -/

theorem removePaths_wellFormed {d : Value} (hd : d.WellFormed) (ps : List Path) :
    (removePaths ps d).1.WellFormed := by
  rw [removePaths_eq_foldl]
  refine List.foldlRecOn (motive := fun state : Value × Nat => state.1.WellFormed) _ _ hd ?_
  intro state hstate p _
  unfold removeNext
  split
  · rename_i changed h
    exact Path.eraseSteps?_wellFormed hstate h
  · exact hstate

theorem Expression.update_wellFormed {e : Expression} {f : Path → Value → Value} {d changed : Value}
    {visited : List Path} (hf : ∀ p u, u.WellFormed → (f p u).WellFormed) (hd : d.WellFormed)
    (h : e.update f d = .ok (changed, visited)) : changed.WellFormed := by
  rw [update_eq_foldl] at h
  cases hps : e.selectPaths d with
  | error err =>
    rw [hps] at h
    contradiction
  | ok ps =>
    rw [hps] at h
    have hchanged : (ps.reverse.foldl (updateNext f) (d, [])).1 = changed :=
      congrArg Prod.fst (Except.ok.inj h)
    rw [← hchanged]
    refine List.foldlRecOn (motive := fun state : Value × List Path => state.1.WellFormed) _ _ hd ?_
    intro state hstate p _
    unfold updateNext
    split
    · rename_i changed h
      exact Path.modifySteps?_wellFormed (hf p) hstate h
    · exact hstate

end JsonPath

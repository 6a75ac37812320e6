import Mathlib.Data.Finset.Card
import Mathlib.Data.Finset.Filter
import JsonPath.Proofs.Edit.Rebuild

/-!
# Removing several places at once

Places are removed one after the other, and each removal from an array moves the elements after it.
The outcome is nevertheless that of removing all at once: `Value.prune` walks the document as it was
and leaves out what some path leads to.

The proof is an induction over the paths in descending order. After some of them the document is the
original, pruned of these. A path still to come is smaller than all of them, so nothing on the way
to it, or ahead of it in the same array, has gone yet; this is `Edit.KeepsThrough`.

* `Value.prune` — a value without the parts at some paths.
* `removeNext_prune` — one removal prunes of one more path.
* `removePaths_eq_prune` — all removals together prune of all paths, and count those that were
  there.
-/

namespace JsonPath

variable {d : Value} {p : Path} {ps : List Path} {S : Finset Path}

/-- Takes out what is at some paths and keeps everything else. -/
def Edit.takeOut (S : Finset Path) : Edit := Path.onPaths S (fun _ _ => none) some

/-- The value without the parts at some paths, wherever they are in it. All paths are those of the
value as it is. -/
def Value.prune (S : Finset Path) (v : Value) : Value := v.rebuild (Edit.takeOut S)

namespace Value

theorem prune_empty (v : Value) : v.prune ∅ = v := by
  refine rebuild_eq_self fun ss w _ => ?_
  rw [Edit.takeOut, Path.onPaths_of_notMem (Finset.notMem_empty _)]

theorem prune_insert (p : Path) (S : Finset Path) (v : Value) :
    v.prune (insert p S) =
      v.rebuild (Function.update (Edit.takeOut S) p.steps fun _ => none) := by
  rw [prune, Edit.takeOut, Path.onPaths_insert]
  rfl

/-- A path that leads nowhere takes nothing out, and neither does the root. -/
theorem prune_insert_of_not (hd : d.WellFormed) (h : p = Path.root ∨ p.get? d = none) :
    d.prune (insert p S) = d.prune S := by
  rw [prune_insert, prune]
  refine rebuild_congr hd fun ss hss hsome => Function.update_of_ne ?_ _ _
  rintro rfl
  rcases h with rfl | h
  · exact hss rfl
  · rw [show Path.follow p.steps d = none from h] at hsome
    contradiction

end Value

/-! ## One removal -/

theorem Step.erase?_eq_none {s : Step} {v : Value} (h : s.get? v = none) : s.erase? v = none := by
  cases s with
  | root => rfl
  | index i =>
    cases v with
    | array items =>
      change items[i]? = none at h
      simp [erase?, Value.eraseElement?, h]
    | _ => rfl
  | name name =>
    cases v with
    | object members =>
      change members.lookup name = none at h
      simp [erase?, Value.eraseMember?, h]
    | _ => rfl

theorem Path.eraseSteps?_cons_cons (s t : Step) (rest : List Step) (v : Value) :
    eraseSteps? (s :: t :: rest) v =
      (s.get? v).bind fun part => (eraseSteps? (t :: rest) part).map fun w => s.put w v := by
  rw [eraseSteps?]
  · cases s.get? v <;> simp [Option.map_eq_bind]
  · exact List.cons_ne_nil t rest

/-- Taking a place out of a rebuilt value, where nothing up to that place has changed, is rebuilding
the value without the place. -/
theorem Path.eraseSteps?_rebuild : ∀ {ss : List Step} {e : Edit} {v : Value}, v.WellFormed →
    (∀ s ∈ ss, s.IsPlain) → ss ≠ [] → e.KeepsThrough ss →
      eraseSteps? ss (v.rebuild e) =
        (follow ss v).map fun _ => v.rebuild (Function.update e ss fun _ => none)
  | [], _, _, _, _, hne, _ => absurd rfl hne
  | [s], e, v, hv, hs, _, he => by
    have hs := hs s List.mem_cons_self
    have hget := Value.get?_rebuild_of_keepsThrough hs he v
    cases hw : s.get? v with
    | none =>
      rw [hw] at hget
      simpa [eraseSteps?, follow, hw] using Step.erase?_eq_none hget
    | some w =>
      have hx : Value.rebuildPart (Function.update e [s] fun _ => none) s w = none := by
        rw [Value.rebuildPart, Function.update_self]
      simpa [eraseSteps?, follow, hw] using
        Value.erase?_rebuild hv hs he.fillsThrough (e.agreeOff_update s [] _) hw hx
  | s :: t :: rest, e, v, hv, hss, _, he => by
    have hs := hss s List.mem_cons_self
    have hget := Value.get?_rebuild_of_keepsThrough hs he v
    cases hw : s.get? v with
    | none =>
      rw [hw] at hget
      simp [eraseSteps?_cons_cons, follow, hget, hw]
    | some w =>
      rw [hw] at hget
      have ih := eraseSteps?_rebuild (hv.of_get? hw)
        (fun u hu => hss u (List.mem_cons_of_mem s hu)) (List.cons_ne_nil t rest) he.below
      have hx : Value.rebuildPart (Function.update e (s :: t :: rest) fun _ => none) s w =
          some (w.rebuild (Function.update (e.below s) (t :: rest) fun _ => none)) := by
        rw [Value.rebuildPart, Edit.below_update, Function.update_of_ne (by simp)]
        exact he.singleton (by simp) _
      have hput := Value.put_rebuild hv hs he.fillsThrough
        (e.agreeOff_update s (t :: rest) _) hw hx
      rw [eraseSteps?_cons_cons, hget, follow, hw, Option.map_some, Option.bind_some, ih,
        Option.map_map, Option.bind_some]
      exact congrArg (Option.map · _) (funext fun _ => hput)

/-! ## All removals -/

/-- One removal of many. -/
def removeNext (state : Value × Nat) (p : Path) : Value × Nat :=
  match p.erase? state.1 with
  | some changed => (changed, state.2 + 1)
  | none => state

theorem removePaths_eq_foldl (ps : List Path) (d : Value) :
    removePaths ps d = (descendingPaths ps).foldl removeNext (d, 0) := rfl

/-- Whether a path leads to a part of the document, and not to the whole. -/
def Path.IsPartOf (p : Path) (d : Value) : Prop := p ≠ root ∧ (p.get? d).isSome

instance (p : Path) (d : Value) : Decidable (p.IsPartOf d) :=
  inferInstanceAs (Decidable (_ ∧ _))

/-- **One step.** In a document that is pruned of later paths, one more path is still where it was;
removing what is there prunes the document of this path too. -/
theorem removeNext_prune (hd : d.WellFormed) (hp : p.IsPlain)
    (hlt : ∀ q ∈ S, p.compare q = .lt) (count : Nat) :
    removeNext (d.prune S, count) p =
      (d.prune (insert p S), count + if p.IsPartOf d then 1 else 0) := by
  by_cases hroot : p = Path.root
  · subst hroot
    rw [Value.prune_insert_of_not hd (.inl rfl), if_neg fun h => h.1 rfl]
    rfl
  · have hkeep : (Edit.takeOut S).KeepsThrough p.steps := by
      intro ts hts w
      rw [Edit.takeOut, Path.onPaths_of_isLE hlt hts]
    have herase : p.erase? (d.prune S) = (p.get? d).map fun _ => d.prune (insert p S) := by
      rw [Value.prune, Value.prune_insert]
      exact Path.eraseSteps?_rebuild hd hp (fun h => hroot (congrArg Path.mk h)) hkeep
    unfold removeNext
    cases hget : p.get? d with
    | none =>
      rw [herase, hget, Value.prune_insert_of_not hd (.inr hget),
        if_neg (by simp [Path.IsPartOf, hget])]
      rfl
    | some v =>
      rw [herase, hget, if_pos ⟨hroot, by simp [hget]⟩]
      rfl

/-- **The whole run.** Paths removed in descending order prune the document of all of them. -/
theorem foldl_removeNext (hd : d.WellFormed) (hps : ∀ p ∈ ps, p.IsPlain)
    (hsorted : ps.Pairwise fun p q => q.compare p = .lt) :
    ps.foldl removeNext (d, 0) = (d.prune ps.toFinset, ps.countP (·.IsPartOf d)) := by
  have hrun := Path.foldl_descending removeNext
    (fun done => (d.prune done.toFinset, done.countP (·.IsPartOf d))) hsorted ?_
  · simpa only [List.toFinset_nil, Value.prune_empty, List.countP_nil] using hrun
  · intro done p hp hlt
    rw [removeNext_prune hd (hps p hp) fun q hq => hlt q (List.mem_toFinset.1 hq)]
    simp [List.countP_append, List.countP_singleton]

/-- **Removing many places is removing all of them at once.** The paths may come in any order and
more than once, lead nowhere, or lead into one another. What is left is the document without the
parts they lead to in it, and the count is that of the parts. -/
theorem removePaths_eq_prune (hd : d.WellFormed) (hps : ∀ p ∈ ps, p.IsPlain) :
    removePaths ps d = (d.prune ps.toFinset, (ps.toFinset.filter (·.IsPartOf d)).card) := by
  have hsorted := descendingPaths_pairwise ps
  have hmem : (descendingPaths ps).toFinset = ps.toFinset := by
    ext p
    simp
  rw [removePaths_eq_foldl,
    foldl_removeNext hd (fun p hp => hps p (mem_descendingPaths.1 hp)) hsorted, hmem]
  congr 1
  rw [List.countP_eq_length_filter,
    ← List.toFinset_card_of_nodup ((Path.nodup_of_pairwise hsorted).filter _),
    List.toFinset_filter, hmem]
  simp only [decide_eq_true_eq]

/-- Of `[[null,true],null]` the last element goes, though it is given twice, and the first element
of the first one; there is no eighth. -/
theorem removePaths_eq_prune_nested :
    removePaths [⟨[.index 1]⟩, ⟨[.index 0, .index 0]⟩, ⟨[.index 7]⟩, ⟨[.index 1]⟩]
        (.array [.array [.null, .bool true], .null]) =
      (.array [.array [.bool true]], 2) := by
  have hd : (Value.array [.array [.null, .bool true], .null]).WellFormed := by
    simp [Value.WellFormed, Value.WellFormedItems]
  exact (removePaths_eq_prune hd (by simp [Path.IsPlain])).trans rfl

end JsonPath

import Mathlib.Data.Finset.Basic
import Mathlib.Data.Finset.Card
import JsonPath.Proofs.Edit.Rebuild
import JsonPath.Proofs.Evaluation.Arrangement
import JsonPath.Proofs.Evaluation.Soundness

/-!
# Updating everything that is found

Places are updated one after the other, the deepest and last first, and an update may put anything
in the place of what was there. The outcome is that of one walk from below: `Value.rewriteAt`
rewrites the parts of a value first, each at its own path, and then changes the value itself if its
path was found.

The proof is an induction over the paths in descending order. After some of them the document is the
original, rewritten at these. No part of the way to a path still to come has been changed as a
whole, because a path does not come after its extensions; so the path leads to what has become of
the part that was found there, and evaluation is sound, so that there was one.

* `follow_rewrite` — where a path leads in a rewritten value.
* `updateNext_rewriteAt` — one update rewrites at one more path.
* `update_eq_rewriteAt` — all updates together rewrite at all paths found.
-/

namespace JsonPath

open Std

namespace Value

/-! ## Rewriting from below -/

/-- Changes the parts of a value by a function of steps and part, the deepest first, and then the
value itself. -/
def rewrite (g : List Step → Value → Value) (v : Value) : Value :=
  g [] (v.rebuild fun ss w => some (g ss w))

variable {g : List Step → Value → Value} {s : Step} {v w : Value}

theorem rebuildPart_some (g : List Step → Value → Value) (s : Step) (w : Value) :
    rebuildPart (fun ss w => some (g ss w)) s w = some (w.rewrite fun ss => g (s :: ss)) := rfl

theorem rewrite_array (g : List Step → Value → Value) (items : List Value) :
    (array items).rewrite g =
      g [] (array (items.mapIdx fun i w => w.rewrite fun ss => g (.index i :: ss))) := by
  simp only [rewrite, rebuild, rebuildItems_eq, rebuildPart_some, List.filterMap_eq_map',
    List.mapIdx_eq_zipIdx_map]

theorem rewrite_object (g : List Step → Value → Value) (members : List (String × Value)) :
    (object members).rewrite g =
      g [] (object (members.map fun m => (m.1, m.2.rewrite fun ss => g (.name m.1 :: ss)))) := by
  simp only [rewrite, rebuild, rebuildMembers_eq, rebuildPart_some, Option.map_some,
    List.filterMap_eq_map']

theorem rewrite_eq_self (h : ∀ ss, g ss = id) (v : Value) : v.rewrite g = v := by
  rw [rewrite, h [], id, rebuild_eq_self]
  intro ss w _
  rw [h ss, id]

/-- A step into a value that is not changed as a whole leads to the rewritten part. -/
theorem get?_rewrite (hs : s.IsPlain) (hg : g [] = id) (v : Value) :
    s.get? (v.rewrite g) = (s.get? v).map (rewrite fun ss => g (s :: ss)) := by
  rw [rewrite, hg, id, get?_rebuild hs (fun _ _ _ => rfl), Option.map_eq_bind]
  rfl

/-- Where nothing on the way is changed as a whole, steps lead to the rewritten part. -/
theorem follow_rewrite {ss : List Step} (hs : ∀ s ∈ ss, s.IsPlain)
    (hg : ∀ ts, ts <+: ss → ts ≠ ss → g ts = id) (v : Value) :
    Path.follow ss (v.rewrite g) =
      (Path.follow ss v).map (rewrite fun ts => g (ss ++ ts)) := by
  induction ss generalizing g v with
  | nil => rfl
  | cons s ss ih =>
    have hnil : g [] = id := hg [] List.nil_prefix (List.cons_ne_nil s ss).symm
    rw [Path.follow, get?_rewrite (hs s List.mem_cons_self) hnil, Path.follow]
    cases s.get? v with
    | none => rfl
    | some w =>
      exact ih (fun t ht => hs t (List.mem_cons_of_mem s ht))
        (fun ts hts hne => hg (s :: ts) (List.cons_prefix_cons.2 ⟨rfl, hts⟩) (by simpa using hne)) w

/-- Putting in the place of a part what it is rewritten to by another function gives what that one
makes of the whole, if the two agree elsewhere. -/
theorem put_rewrite (g' : List Step → Value → Value) (hv : v.WellFormed) (hs : s.IsPlain)
    (hg : g [] = id) (hg' : g' [] = id) (ha : ∀ t, t ≠ s → ∀ ss, g (t :: ss) = g' (t :: ss))
    (hw : s.get? v = some w) :
    s.put (w.rewrite fun ss => g' (s :: ss)) (v.rewrite g) = v.rewrite g' := by
  change s.put _ (g [] _) = g' [] _
  rw [hg, hg', id, id]
  refine put_rebuild hv hs (fun _ _ _ => rfl) (fun t ht ss => ?_) hw (rebuildPart_some g' s w)
  rw [ha t ht ss]

end Value

/-- Changing one place of a rewritten value, where nothing on the way has been changed as a whole,
is rewriting the value with this change too. -/
theorem Path.modifySteps?_rewrite (f : Value → Value) {ss : List Step}
    (hs : ∀ s ∈ ss, s.IsPlain) {g : List Step → Value → Value} (hg : ∀ ts, ts <+: ss → g ts = id)
    {v : Value} (hv : v.WellFormed) :
    modifySteps? f ss (v.rewrite g) =
      (follow ss v).map fun _ => v.rewrite (Function.update g ss f) := by
  induction ss generalizing g v with
  | nil =>
    rw [modifySteps?, follow, Option.map_some, Value.rewrite, hg [] List.nil_prefix, id,
      Value.rewrite, Function.update_self]
    refine congrArg (some <| f ·) (Value.rebuild_congr hv fun ts hts _ => ?_)
    rw [Function.update_of_ne hts]
  | cons s ss ih =>
    have hplain := hs s List.mem_cons_self
    have hnil : g [] = id := hg [] List.nil_prefix
    rw [modifySteps?, Value.get?_rewrite hplain hnil, follow]
    cases hw : s.get? v with
    | none => rfl
    | some w =>
      have ih := ih (fun t ht => hs t (List.mem_cons_of_mem s ht))
        (fun ts hts => hg (s :: ts) (List.cons_prefix_cons.2 ⟨rfl, hts⟩)) (hv.of_get? hw)
      have hput := Value.put_rewrite (Function.update g (s :: ss) f) hv hplain hnil
        (by rw [Function.update_of_ne (by simp), hnil])
        (fun t ht ts => by rw [Function.update_of_ne (by simp [ht])]) hw
      rw [Function.update_comp_eq_of_injective' g List.cons_injective ss f] at hput
      cases hrest : follow ss w with
      | none => simp [ih, hrest]
      | some u => simp [ih, hrest, hput]

/-! ## Rewriting at some paths -/

namespace Value

variable {S : Finset Path} {f : Path → Value → Value} {d new : Value} {p : Path}

/-- The value rewritten from below: its parts first, each at its own path, and then, if the path is
one of those given, the value itself. All paths are those of the value as it is. -/
def rewriteAt (S : Finset Path) (f : Path → Value → Value) (d : Value) : Value :=
  d.rewrite (Path.onPaths S f id)

theorem rewriteAt_empty (f : Path → Value → Value) (d : Value) : d.rewriteAt ∅ f = d :=
  rewrite_eq_self (fun _ => Path.onPaths_of_notMem (Finset.notMem_empty _)) d

/-- A path with none of those given on the way leads to the part that was there, rewritten. -/
theorem get?_rewriteAt (hp : p.IsPlain) (h : ∀ q ∈ S, q.steps <+: p.steps → q = p) (d : Value) :
    p.get? (d.rewriteAt S f) =
      (p.get? d).map (rewrite fun ss => Path.onPaths S f id (p.steps ++ ss)) := by
  refine follow_rewrite hp (fun ts hts hne => Path.onPaths_of_notMem fun hmem => ?_) d
  exact hne (congrArg Path.steps (h _ hmem hts))

end Value

/-! ## One value for all -/

namespace Value

variable {S : Finset Path} {d new changed : Value} {g : List Step → Value → Value} {p : Path}

/-- A value with null in the place of each of its parts. -/
def outline : Value → Value
  | array items => array (items.map fun _ => null)
  | object members => object (members.map fun m => (m.1, null))
  | v => v

theorem outline_rewrite (hg : g [] = id) (v : Value) : (v.rewrite g).outline = v.outline := by
  cases v with
  | array items =>
    rw [rewrite_array, hg, id, outline, outline, List.map_const', List.map_const',
      List.length_mapIdx]
  | object members =>
    rw [rewrite_object, hg, id, outline, outline, List.map_map]
    rfl
  | null | bool | float | int | string =>
    rw [rewrite, hg]
    rfl

/-- What it is to put one value in the place of all that is at some paths. -/
structure IsReplaced (S : Finset Path) (new d changed : Value) : Prop where
  /-- Each of the paths that is not below another one leads to the new value. -/
  matched : ∀ p ∈ S, (∀ q ∈ S, q.steps <+: p.steps → q = p) → p.get? changed = some new
  /-- A path that is neither one of them nor below one leads to what was there, if anything was: a
  value of the same kind with parts at the same steps. -/
  outside : ∀ p : Path, p.IsPlain → (∀ q ∈ S, ¬ q.steps <+: p.steps) →
    (p.get? changed).map outline = (p.get? d).map outline
  /-- If moreover none of them is below it, what was there is unchanged. -/
  apart : ∀ p : Path, p.IsPlain → (∀ q ∈ S, ¬ q.steps <+: p.steps) →
    (∀ q ∈ S, ¬ p.steps <+: q.steps) → p.get? changed = p.get? d

/-- Rewriting to one value puts it in the place of all that is at the paths. -/
theorem isReplaced_rewriteAt (hS : ∀ p ∈ S, p.IsPlain ∧ (p.get? d).isSome) :
    IsReplaced S new d (d.rewriteAt S fun _ _ => new) where
  matched p hp htop := by
    obtain ⟨hplain, hget⟩ := hS p hp
    obtain ⟨v, hv⟩ := Option.isSome_iff_exists.1 hget
    rw [get?_rewriteAt hplain htop, hv, Option.map_some, rewrite, List.append_nil,
      Path.onPaths_of_mem hp]
  outside p hp hout := by
    have hself : p ∉ S := fun hmem => hout p hmem (List.prefix_refl _)
    rw [get?_rewriteAt hp fun q hq hqp => absurd hqp (hout q hq), Option.map_map]
    congr 1
    funext v
    exact outline_rewrite (by rw [List.append_nil, Path.onPaths_of_notMem hself]) v
  apart p hp hout hin := by
    rw [get?_rewriteAt hp fun q hq hqp => absurd hqp (hout q hq)]
    have hid : rewrite (fun ss => Path.onPaths S (fun _ _ => new) id (p.steps ++ ss)) = id :=
      funext fun v => rewrite_eq_self
        (fun ss => Path.onPaths_of_notMem fun hmem => hin _ hmem (List.prefix_append p.steps ss)) v
    rw [hid, Option.map_id, id]

end Value

/-! ## One update -/

namespace Expression

variable {e : Expression} {f : Path → Value → Value} {d new : Value} {p : Path} {S : Finset Path}
  {ns : List Node} {visited : List Path}

/-- One update of many. -/
def updateNext (f : Path → Value → Value) (state : Value × List Path) (p : Path) :
    Value × List Path :=
  match p.modify? (f p) state.1 with
  | some changed => (changed, state.2 ++ [p])
  | none => state

theorem update_eq_foldl (e : Expression) (f : Path → Value → Value) (d : Value) :
    e.update f d =
      (e.selectPaths d).map fun ps => ps.reverse.foldl (updateNext f) (d, []) := rfl

/-- **One step.** In a document that is rewritten at later paths, one more path still leads to what
has become of the part it led to; updating this rewrites the document at this path too. -/
theorem updateNext_rewriteAt (hd : d.WellFormed) (hp : p.IsPlain) (hget : (p.get? d).isSome)
    (hlt : ∀ q ∈ S, p.compare q = .lt) :
    updateNext f (d.rewriteAt S f, visited) p = (d.rewriteAt (insert p S) f, visited ++ [p]) := by
  have hkeep : ∀ ts, ts <+: p.steps → Path.onPaths S f id ts = id := fun ts hts =>
    Path.onPaths_of_isLE hlt (Path.compareSteps_isLE_of_prefix hts)
  have hmodify : p.modify? (f p) (d.rewriteAt S f) =
      (p.get? d).map fun _ => d.rewriteAt (insert p S) f := by
    rw [Value.rewriteAt, Value.rewriteAt, Path.onPaths_insert]
    exact Path.modifySteps?_rewrite (f p) hp hkeep hd
  obtain ⟨v, hv⟩ := Option.isSome_iff_exists.1 hget
  rw [updateNext, hmodify, hv]
  rfl

/-- **The whole run.** Updates in descending order rewrite the document at all of their paths, and
reach each of them. -/
theorem foldl_updateNext (hd : d.WellFormed) {ps : List Path}
    (hps : ∀ p ∈ ps, p.IsPlain ∧ (p.get? d).isSome)
    (hsorted : ps.Pairwise fun p q => q.compare p = .lt) :
    ps.foldl (updateNext f) (d, []) = (d.rewriteAt ps.toFinset f, ps) := by
  have hrun := Path.foldl_descending (updateNext f)
    (fun done => (d.rewriteAt done.toFinset f, done)) hsorted ?_
  · simpa only [List.toFinset_nil, Value.rewriteAt_empty] using hrun
  · intro done p hp hlt
    obtain ⟨hplain, hget⟩ := hps p hp
    rw [updateNext_rewriteAt hd hplain hget fun q hq => hlt q (List.mem_toFinset.1 hq)]
    simp

/-- The paths of the nodes that have one. -/
def pathsOf (ns : List Node) : Finset Path := (ns.filterMap Node.path).toFinset

theorem mem_pathsOf : p ∈ pathsOf ns ↔ ∃ n ∈ ns, n.path = some p := by
  simp [pathsOf]

/-- Evaluation is sound, so each path found leads to something. -/
theorem isPlain_and_isSome_of_mem_pathsOf (hd : d.WellFormed) (h : e.evaluate d = .ok ns)
    (hp : p ∈ pathsOf ns) : p.IsPlain ∧ (p.get? d).isSome := by
  obtain ⟨n, hn, hpath⟩ := mem_pathsOf.1 hp
  obtain ⟨hplain, hget⟩ := Query.evaluate_located hd h n hn p hpath
  exact ⟨hplain, by rw [hget]; rfl⟩

/-- Updates visit the paths found in descending order and rewrite the document at all of them. -/
theorem update_of_evaluate (hd : d.WellFormed) (h : e.evaluate d = .ok ns)
    (f : Path → Value → Value) :
    ∃ visited, e.update f d = .ok (d.rewriteAt (pathsOf ns) f, visited) ∧
      (visited.Pairwise fun p q => q.compare p = .lt) ∧ visited.toFinset = pathsOf ns := by
  have hps := selectPaths_eq h
  set ps := (distinctNodes [] (sortNodes false ns)).filterMap Node.path
  have hmem : ps.reverse.toFinset = pathsOf ns := by
    ext p
    rw [List.mem_toFinset, List.mem_reverse, mem_of_selectPaths h hps, mem_pathsOf]
  have hsorted : ps.reverse.Pairwise fun p q => q.compare p = .lt :=
    List.pairwise_reverse.2 (pairwise_of_selectPaths h hps)
  refine ⟨ps.reverse, ?_, hsorted, hmem⟩
  rw [update_eq_foldl, hps, Except.map, foldl_updateNext hd (fun p hp => ?_) hsorted, hmem]
  exact isPlain_and_isSome_of_mem_pathsOf hd h (hmem ▸ List.mem_toFinset.2 hp)

/-- **Updating all that is found is one walk from below.** If evaluation fails there is no edit.
Otherwise each path found is visited once, the last first, and the document comes out rewritten at
these paths; with one value for all of them, that value comes in the place of all that was found. -/
theorem update_eq_rewriteAt (e : Expression) (hd : d.WellFormed) (f : Path → Value → Value)
    (new : Value) :
    (∀ err, e.evaluate d = .error err →
      e.update f d = .error err ∧ e.replaceAll new d = .error err) ∧
    ∀ ns, e.evaluate d = .ok ns →
      (∃ visited, e.update f d = .ok (d.rewriteAt (pathsOf ns) f, visited) ∧
        (visited.Pairwise fun p q => q.compare p = .lt) ∧ visited.toFinset = pathsOf ns ∧
        visited.length = (pathsOf ns).card) ∧
      ∃ changed, e.replaceAll new d = .ok (changed, (pathsOf ns).card) ∧
        Value.IsReplaced (pathsOf ns) new d changed := by
  constructor
  · intro err h
    have hps : e.selectPaths d = .error err := by rw [selectPaths, h, Except.map]
    constructor
    · rw [update, hps, Except.map]
    · rw [replaceAll, update, hps, Except.map, Except.map]
  · intro ns h
    have hcard : ∀ visited : List Path, (visited.Pairwise fun p q => q.compare p = .lt) →
        visited.toFinset = pathsOf ns → visited.length = (pathsOf ns).card := by
      intro visited hsorted hmem
      rw [← hmem, List.toFinset_card_of_nodup (Path.nodup_of_pairwise hsorted)]
    constructor
    · obtain ⟨visited, hupdate, hsorted, hmem⟩ := update_of_evaluate hd h f
      exact ⟨visited, hupdate, hsorted, hmem, hcard visited hsorted hmem⟩
    · obtain ⟨visited, hupdate, hsorted, hmem⟩ := update_of_evaluate hd h fun _ _ => new
      refine ⟨_, ?_, Value.isReplaced_rewriteAt fun p hp =>
        isPlain_and_isSome_of_mem_pathsOf hd h hp⟩
      rw [replaceAll, hupdate, ← hcard visited hsorted hmem]
      rfl

/-- In `{"a":{"a":null}}` the inner of two nested members is put into an array before the outer one
is. -/
theorem update_eq_rewriteAt_nested :
    ∃ visited, Expression.update ⟨"$..a", [.descent, .name "a"]⟩ (fun _ v => .array [v])
        (.object [("a", .object [("a", .null)])]) =
      .ok (.object [("a", .array [.object [("a", .array [.null])]])], visited) ∧
    visited.length = 2 := by
  have hd : (Value.object [("a", .object [("a", .null)])]).WellFormed := by
    simp [Value.WellFormed, Value.WellFormedMembers]
  have h : Expression.evaluate ⟨"$..a", [.descent, .name "a"]⟩
      (.object [("a", .object [("a", .null)])]) =
        .ok [⟨.object [("a", .null)], some ⟨[.name "a"]⟩⟩,
          ⟨.null, some ⟨[.name "a", .name "a"]⟩⟩] := rfl
  obtain ⟨⟨visited, hupdate, -, -, hlen⟩, -⟩ :=
    (update_eq_rewriteAt _ hd (fun _ v => .array [v]) .null).2 _ h
  exact ⟨visited, hupdate, hlen⟩

end Expression

end JsonPath

import JsonPath.Proofs.Evaluation.Outcome
import JsonPath.Proofs.Json.Locations

/-!
# What a descent finds

A descent goes through all locations of a value in pre-order, and gives up at the first that lies
deeper than the limit. Since a part lies one step deeper than the whole, such a location lies
exactly one step too deep.

* `visit` — what a descent makes of a list of locations, with the forbidden depth as a number.
* `descend_eq_visit` — a descent visits the locations of the value.
* `evaluate_descent` — for a document: when `..` succeeds, what it finds, and where it fails.
-/

namespace JsonPath.Query

variable {limit : Nat} {path : Option Path} {room : Option Nat}

/-! ## Parts, one after the other -/

theorem descendItems_eq_collect (i : Nat) (items : List Value) :
    descendItems limit path room i items =
      collect (fun m => descend limit (path.map (·.childIndex m.2)) room m.1) (items.zipIdx i) := by
  induction items generalizing i with
  | nil => rfl
  | cons v rest ih => rw [descendItems, ih, List.zipIdx_cons, collect]

theorem descendMembers_eq_collect (members : List (String × Value)) :
    descendMembers limit path room members =
      collect (fun m => descend limit (path.map (·.childName m.1)) room m.2) members := by
  induction members with
  | nil => rfl
  | cons m rest ih => rw [descendMembers, ih, collect]

theorem collect_map {α β γ ε : Type} (f : β → Except ε (List γ)) (g : α → β) (items : List α) :
    collect f (items.map g) = collect (fun a => f (g a)) items := by
  induction items with
  | nil => rfl
  | cons a rest ih => rw [List.map_cons, collect, collect, ih]

/-- Where there is room, a descent finds the value and then what it finds in the parts. -/
theorem descend_some (room : Nat) (v : Value) :
    descend limit path (some room) v = do
      let below ← collect
        (fun m => descend limit (path.map (·.child m.1)) (deeper room) m.2) v.parts
      return ⟨v, path⟩ :: below := by
  cases v with
  | array items => rw [descend, descendItems_eq_collect, Value.parts, collect_map]; rfl
  | object members => rw [descend, descendMembers_eq_collect, Value.parts, collect_map]; rfl
  | null | bool | float | int | string => rfl

/-! ## Visiting locations -/

/-- A location as a node, below the path of the value that it is a location of. -/
def nodeAt (path : Option Path) (l : List Step × Value) : Node :=
  ⟨l.2, path.map fun p => ⟨p.steps ++ l.1⟩⟩

/-- What a descent makes of some locations: nodes, or an error at the first one of a depth that is
forbidden. -/
def visit (limit : Nat) (path : Option Path) (forbidden : Nat) (ls : List (List Step × Value)) :
    Except EvalError (List Node) :=
  match ls.find? fun l => l.1.length == forbidden with
  | none => .ok (ls.map (nodeAt path))
  | some l => .error ⟨.depthExceeded limit, (nodeAt path l).path⟩

/-- The depth at which a descent fails. -/
def forbiddenDepth : Option Nat → Nat
  | none => 0
  | some room => room + 1

theorem forbiddenDepth_deeper (room : Nat) : forbiddenDepth (deeper room) = room := by
  cases room <;> rfl

theorem visit_append (forbidden : Nat) (ls ms : List (List Step × Value)) :
    visit limit path forbidden (ls ++ ms) = do
      let first ← visit limit path forbidden ls
      let others ← visit limit path forbidden ms
      return first ++ others := by
  simp only [visit, List.find?_append]
  cases ls.find? fun l => l.1.length == forbidden with
  | some l => rfl
  | none =>
    cases ms.find? fun l => l.1.length == forbidden with
    | some l => rfl
    | none => simp [bind, Except.bind, pure, Except.pure]

/-- The value itself is found as long as its depth is not the forbidden one. -/
theorem visit_cons_nil (forbidden : Nat) (v : Value) (ls : List (List Step × Value)) :
    visit limit path (forbidden + 1) (([], v) :: ls) = do
      let others ← visit limit path (forbidden + 1) ls
      return ⟨v, path⟩ :: others := by
  have hself : visit limit path (forbidden + 1) [([], v)] = .ok [⟨v, path⟩] := by
    cases path <;> simp [visit, nodeAt]
  rw [← List.singleton_append, visit_append, hself]
  rfl

/-- The locations in a part are visited as those of the part by itself, one step less deep. -/
theorem visit_locationsIn (forbidden : Nat) (m : Step × Value) :
    visit limit path (forbidden + 1) (Value.locationsIn m) =
      visit limit (path.map (·.child m.1)) forbidden m.2.locations := by
  have hnode : ∀ l : List Step × Value,
      nodeAt path (m.1 :: l.1, l.2) = nodeAt (path.map (·.child m.1)) l := by
    intro l
    cases path <;> simp [nodeAt, Path.child]
  have hfind : ((fun l : List Step × Value => l.1.length == forbidden + 1) ∘
      fun l : List Step × Value => (m.1 :: l.1, l.2)) = fun l => l.1.length == forbidden := by
    funext l
    simp
  simp only [visit, Value.locationsIn, List.find?_map, hfind, List.map_map]
  cases m.2.locations.find? fun l => l.1.length == forbidden with
  | some l => simp [hnode]
  | none => simp [Function.comp_def, hnode]

theorem collect_visit {α : Type} (forbidden : Nat) {f : α → Except EvalError (List Node)}
    {g : α → List (List Step × Value)} {items : List α}
    (h : ∀ a ∈ items, f a = visit limit path forbidden (g a)) :
    collect f items = visit limit path forbidden (items.flatMap g) := by
  induction items with
  | nil => rfl
  | cons a rest ih =>
    obtain ⟨ha, hrest⟩ := List.forall_mem_cons.1 h
    rw [collect, List.flatMap_cons, visit_append, ha, ih hrest]

/-- **One descent.** A descent visits the locations of the value in pre-order. -/
theorem descend_eq_visit (v : Value) (path : Option Path) (room : Option Nat) :
    descend limit path room v = visit limit path (forbiddenDepth room) v.locations := by
  induction v using Value.inductionOnParts generalizing path room with
  | step v ih =>
    cases room with
    | none =>
      rw [descend, Value.locations_eq, visit]
      cases path <;> simp [forbiddenDepth, nodeAt]
    | some room =>
      have hparts : collect (fun m => descend limit (path.map (·.child m.1)) (deeper room) m.2)
          v.parts = visit limit path (room + 1) (v.parts.flatMap Value.locationsIn) :=
        collect_visit (room + 1) fun m hm => by
          rw [ih m.1 m.2 hm, forbiddenDepth_deeper, visit_locationsIn]
      rw [descend_some, hparts, forbiddenDepth, Value.locations_eq, visit_cons_nil]

/-! ## From the root -/

variable {document v : Value} {p : Path} {ns : List Node} {maxDepth : Nat}

theorem evaluate_descent_eq_visit (maxDepth : Nat) (document : Value) :
    evaluate maxDepth [.descent] document =
      visit maxDepth (some .root) (maxDepth + 1) document.locations := by
  have hselect : Selector.select ⟨document, maxDepth⟩ .descent (Node.root document) =
      visit maxDepth (some .root) (maxDepth + 1) document.locations :=
    descend_eq_visit document (some .root) (some maxDepth)
  simp only [evaluate, selectChain, Selector.isCount, collect, hselect]
  cases visit maxDepth (some .root) (maxDepth + 1) document.locations with
  | error e => rfl
  | ok ns => simp [bind, Except.bind, pure, Except.pure]

/-- If there is a location below some depth, there is one at the next depth. -/
theorem exists_location_at_depth (hd : document.WellFormed) {depth : Nat} (hp : p.IsPlain)
    (hv : p.get? document = some v) (hdeep : depth ≤ p.steps.length) :
    ∃ l ∈ document.locations, l.1.length = depth := by
  have hsplit : Path.follow (p.steps.take depth ++ p.steps.drop depth) document = some v := by
    rw [List.take_append_drop]
    exact hv
  rw [Path.follow_append] at hsplit
  obtain ⟨w, hw, -⟩ := Option.bind_eq_some_iff.1 hsplit
  refine ⟨(p.steps.take depth, w), (Value.mem_locations hd).2 ⟨fun s hs => ?_, hw⟩, ?_⟩
  · exact hp s (List.mem_of_mem_take hs)
  · exact List.length_take_of_le hdeep

theorem evaluate_descent_ok_iff (hd : document.WellFormed) :
    (∃ ns, evaluate maxDepth [.descent] document = .ok ns) ↔
      ∀ (p : Path) (v : Value), p.IsPlain → p.get? document = some v → p.steps.length ≤ maxDepth := by
  rw [evaluate_descent_eq_visit, visit]
  cases hfind : document.locations.find? fun l => l.1.length == maxDepth + 1 with
  | none =>
    have hnone := List.find?_eq_none.1 hfind
    simp only [Except.ok.injEq, exists_eq', true_iff]
    intro p v hp hv
    by_contra hdeep
    obtain ⟨l, hl, hlength⟩ := exists_location_at_depth hd hp hv (Nat.lt_of_not_le hdeep)
    exact hnone l hl (by simp [hlength])
  | some l =>
    have hlength : l.1.length = maxDepth + 1 := by simpa using List.find?_some hfind
    obtain ⟨hplain, hfollow⟩ := (Value.mem_locations hd).1 (List.mem_of_find?_eq_some hfind)
    simp only [reduceCtorEq, exists_false, false_iff]
    intro h
    have hle : l.1.length ≤ maxDepth := h ⟨l.1⟩ l.2 hplain hfollow
    omega

theorem eq_of_evaluate_descent_ok (h : evaluate maxDepth [.descent] document = .ok ns) :
    ns = document.locations.map fun l => ⟨l.2, some ⟨l.1⟩⟩ := by
  rw [evaluate_descent_eq_visit, visit] at h
  split at h
  · exact (Except.ok.inj h).symm
  · contradiction

/-- **Descent is complete, exact and in pre-order.** Through a document `..` succeeds just when no
location lies deeper than the limit. Then it finds the locations in pre-order, every one of them and
nothing else, and none twice. Otherwise it fails at the first location in pre-order that lies one
step too deep. -/
theorem evaluate_descent (hd : document.WellFormed) (maxDepth : Nat) :
    ((∃ ns, evaluate maxDepth [.descent] document = .ok ns) ↔
        ∀ (p : Path) (v : Value), p.IsPlain → p.get? document = some v → p.steps.length ≤ maxDepth) ∧
      (∀ ns, evaluate maxDepth [.descent] document = .ok ns →
        ns = (document.locations.map fun l => ⟨l.2, some ⟨l.1⟩⟩) ∧
          (∀ (p : Path) (v : Value), ⟨v, some p⟩ ∈ ns ↔ p.IsPlain ∧ p.get? document = some v) ∧
          (ns.map Node.path).Nodup) ∧
      ∀ e, evaluate maxDepth [.descent] document = .error e →
        ∃ (p : Path) (v : Value), document.locations.find? (fun l => l.1.length == maxDepth + 1) =
            some (p.steps, v) ∧ e = ⟨.depthExceeded maxDepth, some p⟩ := by
  refine ⟨evaluate_descent_ok_iff hd, fun ns h => ?_, fun e h => ?_⟩
  · obtain rfl := eq_of_evaluate_descent_ok h
    refine ⟨rfl, fun p v => ?_, ?_⟩
    · have hmem : (p.steps, v) ∈ document.locations ↔ p.IsPlain ∧ p.get? document = some v :=
        Value.mem_locations hd
      simp only [List.mem_map, Prod.exists, Node.mk.injEq, Option.some.injEq]
      constructor
      · rintro ⟨ss, w, hl, rfl, rfl⟩
        exact hmem.1 hl
      · intro h
        exact ⟨p.steps, v, hmem.2 h, rfl, rfl⟩
    · have hpaths : (document.locations.map fun l => (⟨l.2, some ⟨l.1⟩⟩ : Node)).map Node.path =
          (document.locations.map Prod.fst).map fun ss => some ⟨ss⟩ := by simp
      rw [hpaths]
      exact (Value.nodup_locations hd).map fun ss ts h => congrArg Path.steps (Option.some.inj h)
  · rw [evaluate_descent_eq_visit, visit] at h
    split at h
    · contradiction
    · rename_i l hfind
      exact ⟨⟨l.1⟩, l.2, hfind, (Except.error.inj h).symm⟩

/-- In `{"a":[null],"b":{}}` the null lies at depth two: it is found within that depth, and one less
makes it the place of the error. -/
theorem evaluate_descent_nested :
    (∀ ns, evaluate 2 [.descent] (.object [("a", .array [.null]), ("b", .object [])]) = .ok ns →
        ⟨.null, some ⟨[.name "a", .index 0]⟩⟩ ∈ ns ∧ (ns.map Node.path).Nodup) ∧
      (∃ ns, evaluate 2 [.descent] (.object [("a", .array [.null]), ("b", .object [])]) =
        .ok ns) ∧
      ∃ v, (Value.object [("a", .array [.null]), ("b", .object [])]).locations.find?
        (fun l => l.1.length == 2) = some ([.name "a", .index 0], v) := by
  have hd : (Value.object [("a", .array [.null]), ("b", .object [])]).WellFormed := by
    simp [Value.WellFormed, Value.WellFormedItems, Value.WellFormedMembers]
  refine ⟨fun ns h => ?_, ⟨_, rfl⟩, ?_⟩
  · obtain ⟨-, hmem, hnodup⟩ := (evaluate_descent hd 2).2.1 ns h
    exact ⟨(hmem _ _).2 ⟨by simp [Path.IsPlain], rfl⟩, hnodup⟩
  · obtain ⟨p, v, hfind, he⟩ := (evaluate_descent hd 1).2.2 _ rfl
    have hp : some (⟨[.name "a", .index 0]⟩ : Path) = some p := congrArg EvalError.path he
    obtain rfl := Option.some.inj hp
    exact ⟨v, hfind⟩

end JsonPath.Query

import JsonPath.Evaluation.Expression
import JsonPath.Proofs.Evaluation.Outcome
import JsonPath.Proofs.Query.Phrases

/-!
# Single items in brackets

Items in brackets make a union, which works on one node at a time and hands each of them to every
item. A bracket around a single selector makes that selector instead, with no union around it. The
two are the same stage, results and errors alike, as long as the selector too looks at one node at a
time; a selector that counts its nodes counts those of the whole list where the union would have
counted one node after the other.

* `stage_union_singleton` — the union of one item runs the item on each node by itself.
* `selectChain_ofItems_iff` — when a bracket means the union of its items.
-/

namespace JsonPath.Query

variable {ctx : Context} {s : Selector}

/-- A union of one selector is that selector, at each node by itself. -/
theorem stage_union_singleton (ctx : Context) (s : Selector) (ns : List Node) :
    stage ctx (.union [[s]]) ns = collect (fun n => stage ctx s [n]) ns := by
  have hmember (n : Node) : selectMembers ctx [[s]] n = stage ctx s [n] := by
    simp only [selectMembers, selectChain_cons]
    cases stage ctx s [n] with
    | error e => rfl
    | ok ms => exact congrArg Except.ok (List.append_nil ms)
  change collect (fun n => selectMembers ctx [[s]] n) ns = _
  exact congrArg (collect · ns) (funext hmember)

/-- A stage that does not count is made of what the selector gives at each node. -/
theorem collect_stage_of_not_isCount (hs : s.isCount = false) (ns : List Node) :
    collect (fun n => stage ctx s [n]) ns = stage ctx s ns := by
  have hstage (ms : List Node) : stage ctx s ms = collect (s.select ctx) ms := by
    rw [stage, hs, if_neg Bool.false_ne_true]
  have hnode (n : Node) : stage ctx s [n] = s.select ctx n := by
    rw [hstage, collect_singleton]
  rw [funext hnode, hstage]

/-- Counting one node after the other gives a one for each. -/
theorem collect_stage_of_isCount (hs : s.isCount = true) (ns : List Node) :
    collect (fun n => stage ctx s [n]) ns = .ok (ns.map fun _ => .synthetic (.ofNat 1)) := by
  induction ns with
  | nil => rfl
  | cons n ns ih =>
    rw [collect, ih, stage, if_pos hs]
    rfl

/-- The count of a list is what counting one node after the other gives, if there is one node. -/
theorem count_eq_map_iff (ns : List Node) :
    [Node.synthetic (.ofNat ns.length)] = ns.map (fun _ => .synthetic (.ofNat 1)) ↔
      ns.length = 1 := by
  constructor
  · intro h
    simpa using (congrArg List.length h).symm
  · intro h
    obtain ⟨n, rfl⟩ := List.length_eq_one_iff.1 h
    rfl

/-- **Brackets and unions.** A bracket does to a list of nodes what the union of its items does,
whatever the items are, unless its only item is a count and the list does not have exactly one
node. -/
theorem selectChain_ofItems_iff (ctx : Context) (items : List Chain) (ns : List Node) :
    selectChain ctx [ofItems items] ns = selectChain ctx [.union items] ns ↔
      ∀ s, items = [[s]] → s.isCount = true → ns.length = 1 := by
  have hsingle (s : Selector) (ms : List Node) : selectChain ctx [s] ms = stage ctx s ms := by
    rw [selectChain_cons]
    cases stage ctx s ms <;> rfl
  unfold ofItems
  split
  · rename_i s
    simp only [hsingle, stage_union_singleton, List.cons.injEq, and_true, forall_eq']
    cases hs : s.isCount with
    | false => simp [collect_stage_of_not_isCount hs]
    | true =>
      rw [collect_stage_of_isCount hs, stage, if_pos hs, Except.ok.injEq, count_eq_map_iff]
      simp
  · rename_i hitems
    exact iff_of_true rfl fun s heq => absurd heq (hitems s)

/-- In an array of two, `[@.count()]` is read as a count of both elements, while the union of this
item counts one for each. -/
theorem ofItems_counts_list :
    Expression.compile .empty "$[*][@.count()]" =
        .ok ⟨"$[*][@.count()]", [.wildElement, ofItems [[.call (.builtin .count) []]]]⟩ ∧
      evaluate defaultMaxDepth [.wildElement, ofItems [[.call (.builtin .count) []]]]
        (.array [.int 1, .int 2]) = .ok [.synthetic (.int 2)] ∧
      evaluate defaultMaxDepth [.wildElement, .union [[.call (.builtin .count) []]]]
        (.array [.int 1, .int 2]) = .ok [.synthetic (.int 1), .synthetic (.int 1)] := by
  have hparse : parsePath .empty "$[*][@.count()]" =
      .ok [.wildElement, .call (.builtin .count) []] :=
    (readAll_of_lexemes (by cbv) rfl).trans rfl
  exact ⟨Expression.compile_eq_ok.2 ⟨rfl, hparse⟩, rfl, rfl⟩

end JsonPath.Query

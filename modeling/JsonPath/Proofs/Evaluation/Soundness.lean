import JsonPath.Proofs.Evaluation.Invariant

/-!
# Nodes carry the value at their path

A node that says where it was found is right about it: its path leads, in the document, to the value
that the node holds, and it consists of names and positions only. Synthetic nodes say nothing.

* `Node.Located` — the node is right about its path, if it has one.
* `invariant_located` — evaluation keeps nodes located.
* `evaluate_sound` — so a path that evaluation finds leads to the value found with it.
-/

namespace JsonPath

/-- The path of a node, if it has one, leads to its value. -/
def Node.Located (document : Value) (n : Node) : Prop :=
  ∀ p, n.path = some p → p.IsPlain ∧ p.get? document = some n.value

variable {document : Value} {n : Node}

namespace Node

theorem located_root (document : Value) : (root document).Located document := by
  intro p hp
  obtain rfl : Path.root = p := by simpa [root] using hp
  exact ⟨by simp [Path.IsPlain, Path.root], rfl⟩

theorem located_of_path_none {v : Value} : Located document ⟨v, none⟩ := by
  intro p hp
  simp at hp

theorem located_synthetic (v : Value) : (synthetic v).Located document := located_of_path_none

/-- A step that leads to a part of the value extends the path to it. -/
theorem Located.part {s : Step} {v : Value} (hn : n.Located document) (hs : s.IsPlain)
    (h : s.get? n.value = some v) : (n.part s v).Located document := by
  intro p hp
  obtain ⟨q, hq, rfl⟩ := Option.map_eq_some_iff.1 hp
  obtain ⟨hplain, hget⟩ := hn q hq
  refine ⟨fun t ht => ?_, ?_⟩
  · rcases List.mem_append.1 ht with ht | ht
    · exact hplain t ht
    · rw [List.mem_singleton.1 ht]
      exact hs
  · rw [Path.get?_child, hget]
    exact h

/-- The listed parts are located. Only here unique names count: with two members of one name the
path would lead to the first. -/
theorem Located.of_mem_parts (hd : document.WellFormed) (hn : n.Located document) {s : Step}
    {v : Value} (h : (s, v) ∈ n.value.parts) : (n.part s v).Located document := by
  cases hp : n.path with
  | none =>
    rw [Node.part, hp]
    exact located_of_path_none
  | some p =>
    have hv : n.value.WellFormed := hd.of_follow (hn p hp).2
    obtain ⟨hs, hget, -⟩ := hv.of_mem_parts h
    exact hn.part hs hget

end Node

namespace Query

open Node

variable {ns : List Node}

/-- Evaluation keeps nodes located, whatever functions an expression calls. -/
theorem invariant_located (hd : document.WellFormed) (maxDepth : Nat) :
    Invariant ⟨document, maxDepth⟩ .everything (Located document) fun _ => True where
  root := located_root document
  part hn h := hn.of_mem_parts hd h
  count k := located_synthetic (.ofNat k)
  call _ _ _ := located_synthetic _
  descent _ _ := trivial
  fault _ _ _ := .inr trivial

theorem evaluate_located {maxDepth : Nat} {chain : Chain} (hd : document.WellFormed)
    (h : evaluate maxDepth chain document = .ok ns) : ∀ n ∈ ns, n.Located document :=
  ((invariant_located hd maxDepth).evaluate (chainWithin_everything chain)).of_ok h

/-- **Evaluation is sound.** Whatever a chain finds at a path of a document is the value at that
path, and the path consists of names and positions only. -/
theorem evaluate_sound {maxDepth : Nat} {chain : Chain} (hd : document.WellFormed)
    (h : evaluate maxDepth chain document = .ok ns) (hn : n ∈ ns) {p : Path}
    (hp : n.path = some p) : p.IsPlain ∧ p.get? document = some n.value :=
  evaluate_located hd h n hn p hp

/-- Of `[{"b":null},true]` and all below it only the first element is part of something and has a
member `b`; it is found at its path. -/
theorem evaluate_sound_descent :
    evaluate 2 [.descent, .filter (.fromCurrent [.name "b"])]
        (.array [.object [("b", .null)], .bool true]) =
      .ok [⟨.object [("b", .null)], some ⟨[.index 0]⟩⟩] ∧
    Path.IsPlain ⟨[.index 0]⟩ ∧
    Path.get? ⟨[.index 0]⟩ (.array [.object [("b", .null)], .bool true]) =
      some (.object [("b", .null)]) := by
  have hd : (Value.array [.object [("b", .null)], .bool true]).WellFormed := by
    simp [Value.WellFormed, Value.WellFormedItems, Value.WellFormedMembers]
  have h : evaluate 2 [.descent, .filter (.fromCurrent [.name "b"])]
      (.array [.object [("b", .null)], .bool true]) =
        .ok [⟨.object [("b", .null)], some ⟨[.index 0]⟩⟩] := rfl
  exact ⟨h, evaluate_sound hd h List.mem_cons_self rfl⟩

end Query

end JsonPath

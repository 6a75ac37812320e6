import JsonPath.Proofs.Edit.Entries

/-!
# Flat forms list the leaves

The members of a flat form are stored one after the other, so two leaves with one text would end up
as one member. But paths are written without loss, whatever characters the names have and however
large the positions are. So every leaf has a member of its own, in document order.

* `Value.IsLeaf` — the values that a flat form has as members: scalars and empty containers.
* `mem_leafLocations_iff` — the leaves of a document are the leaves that paths lead to.
* `member?_flatten_iff` — the text of the path to a leaf, and no other, leads to a member.
-/

namespace JsonPath

open Value

variable {v d x : Value} {ss : List Step}

/-! ## Leaves -/

/-- Whether a value is a scalar or an empty container. -/
def Value.IsLeaf (v : Value) : Prop := v.IsScalar ∨ v = .array [] ∨ v = .object []

theorem Value.isLeaf_iff : v.IsLeaf ↔ v.parts = [] := by
  cases v <;> simp [IsLeaf, IsScalar, parts]

instance (v : Value) : Decidable v.IsLeaf := decidable_of_iff _ isLeaf_iff.symm

theorem Value.leafLocations_eq_filter (v : Value) :
    v.leafLocations = v.locations.filter fun l => l.2.IsLeaf :=
  List.filter_congr fun l _ => by rw [Bool.eq_iff_iff]; simp [isLeaf_iff]

theorem mem_leafLocations_iff (hv : v.WellFormed) :
    (ss, x) ∈ v.leafLocations ↔
      (∀ s ∈ ss, s.IsPlain) ∧ Path.follow ss v = some x ∧ x.IsLeaf := by
  rw [leafLocations_eq_filter, List.mem_filter, mem_locations hv, and_assoc, decide_eq_true_iff]

/-! ## Members -/

/-- The entries are stored under different names, so none of them takes the place of another. -/
theorem nodup_texts_leaves (hd : d.WellFormed) :
    ((leaves Path.root d).map fun l => l.1.text).Nodup := by
  have hnodup := nodup_names_entries hd
  rw [leaves_eq, List.map_map]
  rw [List.map_map] at hnodup
  exact hnodup

/-- A name is found in a flat form just if it is the text of the path to a leaf, and then it leads
to that leaf. -/
theorem member?_flatten_iff (hd : d.WellFormed) (key : String) :
    (flatten d).member? key = some x ↔
      ∃ p : Path, p.IsPlain ∧ p.text = key ∧ p.get? d = some x ∧ x.IsLeaf := by
  have hmember : (flatten d).member? key = (d.leafLocations.map Path.entry).lookup key := by
    rw [flatten_eq hd]
    rfl
  rw [hmember]
  constructor
  · intro h
    obtain ⟨l, hl, hentry⟩ := List.mem_map.1 (Members.mem_of_lookup h)
    obtain ⟨rfl, rfl⟩ := Prod.mk.inj hentry
    obtain ⟨hplain, hget, hleaf⟩ := (mem_leafLocations_iff hd).1 hl
    exact ⟨⟨l.1⟩, hplain, rfl, hget, hleaf⟩
  · rintro ⟨p, hplain, rfl, hget, hleaf⟩
    have hl := (mem_leafLocations_iff hd).2 ⟨hplain, hget, hleaf⟩
    exact Members.lookup_of_mem (nodup_names_entries hd) (List.mem_map.2 ⟨_, hl, rfl⟩)

/-- **Exactly the leaves.** The members of the flat form of a well-formed document are the scalars
and empty containers in it, in pre-order and each under the text of its path. They are stored under
different names, so none of them replaces another; and a name is found just if it is the text of a
path to a leaf, which then is the only path of that text. -/
theorem flatten_lists_leaves (hd : d.WellFormed) :
    flatten d = .object ((d.locations.filter fun l => l.2.IsLeaf).map fun l =>
        (Path.text ⟨l.1⟩, l.2)) ∧
      ((leaves Path.root d).map fun l => l.1.text).Nodup ∧
      ∀ key x, (flatten d).member? key = some x ↔
        ∃! p : Path, p.IsPlain ∧ p.text = key ∧ p.get? d = some x ∧ x.IsLeaf := by
  refine ⟨?_, nodup_texts_leaves hd, fun key x => ?_⟩
  · rw [flatten_eq hd, leafLocations_eq_filter]
    rfl
  · rw [member?_flatten_iff hd]
    constructor
    · rintro ⟨p, hp, htext, hleaf⟩
      exact ⟨p, ⟨hp, htext, hleaf⟩, fun q hq =>
        Path.eq_of_text_eq hq.1 hp (hq.2.1.trans htext.symm)⟩
    · rintro ⟨p, hp, -⟩
      exact ⟨p, hp⟩

/-- A member whose name is written like two steps stays apart from the member two steps down. -/
theorem flatten_lists_leaves_names :
    flatten (.object [("a']['b", .array [.null, .object []]), ("a", .object [("b", .bool true)]),
        ("", .array [])]) =
      .object [("$['a\\'][\\'b'][0]", .null), ("$['a\\'][\\'b'][1]", .object []),
        ("$['a']['b']", .bool true), ("$['']", .array [])] := by
  have hleaves : ((object [("a']['b", .array [.null, .object []]),
      ("a", .object [("b", .bool true)]), ("", .array [])]).locations.filter fun l => l.2.IsLeaf) =
      [([.name "a']['b", .index 0], .null), ([.name "a']['b", .index 1], .object []),
        ([.name "a", .name "b"], .bool true), ([.name ""], .array [])] := by
    simp [locations_eq, locationsIn, parts, IsLeaf, IsScalar]
  refine (flatten_lists_leaves ?_).1.trans ?_
  · simp [WellFormed, WellFormedMembers, WellFormedItems]
  · rw [hleaves]
    cbv

end JsonPath

import JsonPath.Proofs.Query.Readers

/-!
# What reading gives is well formed

Whatever text is read, the predicate that comes of it can be written. Functions are kept under their
own names, so that the name a call is written with finds the function that was called.

* `closed_wellFormed` — readers make something well formed of well-formed parts.
* `wellFormed_of_parsePredicate` — the predicate that is read from any text is well formed.
-/

namespace JsonPath

/-! ## Registries -/

/-- Whether each function is kept under its own name. -/
def Registry.WellFormed (r : Registry) : Prop := ∀ name f, r.get? name = some f → f.name = name

theorem Members.lookup_insert {α : Type} {key name : String} {value found : α}
    {entries : List (String × α)}
    (h : (Members.insert key value entries).lookup name = some found) :
    name = key ∧ found = value ∨ entries.lookup name = some found := by
  induction entries with
  | nil =>
    simp only [Members.insert, List.lookup_cons, List.lookup_nil] at h
    split at h
    · rename_i hname
      exact .inl ⟨beq_iff_eq.1 hname, (Option.some.inj h).symm⟩
    · contradiction
  | cons entry entries ih =>
    obtain ⟨k, v⟩ := entry
    unfold Members.insert at h
    split at h
    · rename_i hk
      obtain rfl := beq_iff_eq.1 hk
      simp only [List.lookup_cons] at h ⊢
      split at h
      · rename_i hname
        exact .inl ⟨beq_iff_eq.1 hname, (Option.some.inj h).symm⟩
      · exact .inr h
    · simp only [List.lookup_cons] at h ⊢
      split at h
      · exact .inr h
      · exact ih h

theorem Registry.wellFormed_empty : Registry.empty.WellFormed := fun _ _ h => nomatch h

theorem Registry.WellFormed.register {r : Registry} (hr : r.WellFormed) (f : CustomFunction) :
    (r.register f).WellFormed := by
  intro name g hg
  rcases Members.lookup_insert hg with ⟨rfl, rfl⟩ | hg
  · rfl
  · exact hr name g hg

namespace Query

variable {functions : Registry}

theorem chainWellFormed_iff {chain : List Selector} :
    ChainWellFormed functions chain ↔ ∀ s ∈ chain, s.WellFormed functions := by
  induction chain with
  | nil => simp [ChainWellFormed]
  | cons s chain ih => simp [ChainWellFormed, ih]

theorem unionWellFormed_iff {members : List (List Selector)} :
    UnionWellFormed functions members ↔ ∀ chain ∈ members, ChainWellFormed functions chain := by
  induction members with
  | nil => simp [UnionWellFormed]
  | cons chain members ih => simp [UnionWellFormed, ih]

theorem argumentsWellFormed_iff {args : List Predicate} :
    ArgumentsWellFormed functions args ↔ ∀ p ∈ args, p.WellFormed functions := by
  induction args with
  | nil => simp [ArgumentsWellFormed]
  | cons p args ih => simp [ArgumentsWellFormed, ih]

/-- A function is found under its own name. -/
theorem isKnown_of_resolve? (hr : functions.WellFormed) {name : String} {f : Function}
    (hname : IsWord name) (h : functions.resolve? name = some f) :
    IsKnown functions f ∧ f.name = name := by
  have hf : f.name = name := by
    unfold Registry.resolve? at h
    split at h
    · rename_i b hb
      obtain rfl := Option.some.inj h
      have hfound : Builtin.all.find? (fun b => b.name == name) = some b := hb
      exact beq_iff_eq.1 (List.find?_some hfound :)
    · obtain ⟨g, hg, rfl⟩ := Option.map_eq_some_iff.1 h
      exact hr name g hg
  exact ⟨⟨hf.symm ▸ hname, hf.symm ▸ h⟩, hf⟩

/-- The opposite of the least integer is itself, but it is not read. -/
theorem wellFormed_negated {p : Predicate} (hp : p.WellFormed functions) :
    (negated p).WellFormed functions := by
  unfold negated
  split
  · exact neg_ne_minValue hp
  · trivial
  · rename_i hint hfloat
    refine ⟨?_, hp⟩
    unfold Predicate.isNumber
    split
    · exact absurd rfl (hint _)
    · exact absurd rfl (hfloat _)
    · rfl

/-- Readers make something well formed of well-formed parts. -/
theorem closed_wellFormed (hr : functions.WellFormed) :
    Closed functions (Selector.WellFormed functions) (Predicate.WellFormed functions) where
  name _ := trivial
  wildMember := trivial
  wildElement := trivial
  index h := h
  slice h := h
  descent := trivial
  union hne hsingle h := ⟨hne, hsingle,
    unionWellFormed_iff.2 fun chain hchain => chainWellFormed_iff.2 (h chain hchain)⟩
  filter h := h
  computed h := h
  selectorCall hname hf harity h :=
    ⟨(isKnown_of_resolve? hr hname hf).1, harity, argumentsWellFormed_iff.2 h⟩
  literal h := h
  current := trivial
  root := trivial
  fromCurrent hne h := ⟨hne, chainWellFormed_iff.2 h⟩
  fromRoot hne h := ⟨hne, chainWellFormed_iff.2 h⟩
  comparison _ _ _ hp hq := ⟨hp, hq⟩
  operation _ _ _ hp hq := ⟨hp, hq⟩
  and hp hq := ⟨hp, hq⟩
  or hp hq := ⟨hp, hq⟩
  not h := h
  negated := wellFormed_negated
  search hp hr := ⟨hp, hr⟩
  call hname htoken hf harity h := by
    obtain ⟨hknown, hsame⟩ := isKnown_of_resolve? hr hname hf
    exact ⟨hknown, hsame.symm ▸ htoken, harity, argumentsWellFormed_iff.2 h⟩

/-- **What is read can be written.** The predicate that comes of any text is well formed. -/
theorem wellFormed_of_parsePredicate (hr : functions.WellFormed) {text : String} {p : Predicate}
    (h : parsePredicate functions text = .ok p) : p.WellFormed functions :=
  (closed_wellFormed hr).of_parsePredicate h

/-- So is the chain that comes of any path. -/
theorem wellFormed_of_parsePath (hr : functions.WellFormed) {text : String} {chain : Chain}
    (h : parsePath functions text = .ok chain) : ChainWellFormed functions chain :=
  chainWellFormed_iff.2 ((closed_wellFormed hr).of_parsePath h)

end Query

end JsonPath

import JsonPath.Json.Reader
import JsonPath.Proofs.Json.Parts

/-!
# What is read is well formed

A text may give a name several times in one object; the value read from it has the name once, since
the members are stored one after the other. So every document that comes from a text is well formed.

* `Members.ofList_wellFormed` — an object made of entries has each name once.
* `Json.parse?_wellFormed` — what is read from a text is well formed.
-/

namespace JsonPath

open Value

variable {name : String} {members : List (String × Value)} {v : Value}

/-! ## Storing members -/

namespace Members

theorem names_insert (name : String) (value : Value) (members : List (String × Value)) :
    (insert name value members).map Prod.fst =
      if name ∈ members.map Prod.fst then members.map Prod.fst
      else members.map Prod.fst ++ [name] := by
  induction members with
  | nil => rfl
  | cons m rest ih =>
    by_cases hm : m.1 = name
    · subst hm
      simp [insert]
    · simp only [insert, beq_iff_eq, hm, if_false, List.map_cons, ih, List.mem_cons, Ne.symm hm,
        false_or]
      split <;> rfl

theorem mem_of_mem_insert {value : Value} {m : String × Value}
    (h : m ∈ insert name value members) : m.2 = value ∨ m ∈ members := by
  induction members with
  | nil => simp_all [insert]
  | cons a rest ih =>
    unfold insert at h
    split at h
    · rcases List.mem_cons.1 h with rfl | h
      · exact .inl rfl
      · exact .inr (List.mem_cons_of_mem a h)
    · rcases List.mem_cons.1 h with rfl | h
      · exact .inr List.mem_cons_self
      · exact (ih h).imp_right (List.mem_cons_of_mem a)

/-- Storing a member keeps an object well formed. -/
theorem insert_wellFormed (hm : (object members).WellFormed) (hv : v.WellFormed) (name : String) :
    (object (insert name v members)).WellFormed := by
  obtain ⟨hnames, hvalues⟩ := wellFormed_object.1 hm
  refine wellFormed_object.2 ⟨?_, fun m hmem => ?_⟩
  · rw [names_insert]
    split
    · exact hnames
    · rename_i hname
      exact List.nodup_append.2 ⟨hnames, by simp, fun a ha b hb hab =>
        hname (List.mem_singleton.1 hb ▸ hab ▸ ha)⟩
  · rcases mem_of_mem_insert hmem with h | h
    · rw [h]
      exact hv
    · exact hvalues m h

/-- An object made of entries has each name once, however often it is given. -/
theorem ofList_wellFormed {entries : List (String × Value)}
    (h : ∀ m ∈ entries, m.2.WellFormed) : (object (ofList entries)).WellFormed := by
  have hfold : ∀ members, (object members).WellFormed → (object (entries.foldl
      (fun members entry => insert entry.1 entry.2 members) members)).WellFormed := by
    induction entries with
    | nil => exact fun _ hm => hm
    | cons m rest ih =>
      intro members hm
      exact ih (fun a ha => h a (List.mem_cons_of_mem m ha)) _
        (insert_wellFormed hm (h m List.mem_cons_self) m.1)
  exact hfold [] (by simp)

end Members

/-! ## Reading -/

namespace Json

variable {α : Type} {P : α → Prop} {item : List Char → Option (α × List Char)} {close : Char}

/-- What holds of every item that can be read holds of all that are read up to a bracket. -/
theorem forall_of_readItems (hitem : ∀ cs a rest, item cs = some (a, rest) → P a) :
    ∀ {fuel : Nat} {cs : List Char} {items : List α} {rest : List Char},
      readItems item close fuel cs = some (items, rest) → ∀ a ∈ items, P a := by
  intro fuel
  induction fuel with
  | zero => simp [readItems]
  | succ fuel ih =>
    intro cs items rest h
    simp only [readItems, Option.bind_eq_bind, Option.bind_eq_some_iff] at h
    obtain ⟨⟨a, cs'⟩, ha, h⟩ := h
    have hfirst := hitem _ _ _ ha
    split at h
    · split at h
      · simp only [Option.bind_eq_some_iff, Option.pure_def, Option.some.injEq,
          Prod.mk.injEq] at h
        obtain ⟨⟨others, cs''⟩, hothers, rfl, -⟩ := h
        exact List.forall_mem_cons.2 ⟨hfirst, ih hothers⟩
      · split at h
        · simp only [Option.some.injEq, Prod.mk.injEq] at h
          obtain ⟨rfl, -⟩ := h
          simpa using hfirst
        · contradiction
    · contradiction

theorem forall_of_readSeries (hitem : ∀ cs a rest, item cs = some (a, rest) → P a)
    {cs : List Char} {items : List α} {rest : List Char}
    (h : readSeries item close cs = some (items, rest)) : ∀ a ∈ items, P a := by
  unfold readSeries at h
  split at h
  · split at h
    · simp only [Option.some.injEq, Prod.mk.injEq] at h
      obtain ⟨rfl, -⟩ := h
      simp
    · exact forall_of_readItems hitem h
  · contradiction

/-- The value of a member is one that its reader can give. -/
theorem of_readMember {P : Value → Prop} {value : List Char → Option (Value × List Char)}
    (hvalue : ∀ cs v rest, value cs = some (v, rest) → P v) {cs : List Char}
    {m : String × Value} {rest : List Char} (h : readMember value cs = some (m, rest)) :
    P m.2 := by
  unfold readMember at h
  split at h
  · simp only [Option.bind_eq_bind, Option.bind_eq_some_iff] at h
    obtain ⟨⟨name, cs'⟩, -, h⟩ := h
    split at h
    · simp only [Option.bind_eq_some_iff, Option.pure_def, Option.some.injEq, Prod.mk.injEq] at h
      obtain ⟨⟨v, cs''⟩, hv, rfl, -⟩ := h
      exact hvalue _ _ _ hv
    · contradiction
  · contradiction

theorem wellFormed_of_float? {s : Scaled} {negative : Bool} {written : Int} {v : Value}
    (h : s.float? negative written = some v) : v.WellFormed := by
  have hfloat : ∀ f? : Option Float,
      (f?.bind fun f => some (float (Number.withSign negative f))) = some v → v.WellFormed := by
    intro f? h
    obtain ⟨f, -, hv⟩ := Option.bind_eq_some_iff.1 h
    obtain rfl := Option.some.inj hv
    trivial
  simp only [Scaled.float?, Option.bind_eq_bind, Option.pure_def] at h
  split at h
  · exact hfloat _ h
  · split at h <;> exact hfloat _ h

theorem wellFormed_of_whole? {s : Scaled} {negative : Bool} {v : Value}
    (h : s.whole? negative = some v) : v.WellFormed := by
  unfold Scaled.whole? at h
  split at h
  · exact wellFormed_of_float? h
  · dsimp only at h
    split at h
    · obtain rfl := Option.some.inj h
      trivial
    · split at h <;> obtain rfl := Option.some.inj h <;> trivial

theorem wellFormed_of_bind {value? : Option Value} {cs : List Char} {v : Value} {rest : List Char}
    (hvalue : ∀ w, value? = some w → w.WellFormed)
    (h : (value?.bind fun value => some (value, cs)) = some (v, rest)) : v.WellFormed := by
  obtain ⟨value, hw, h⟩ := Option.bind_eq_some_iff.1 h
  obtain ⟨rfl, -⟩ := Prod.mk.inj (Option.some.inj h)
  exact hvalue _ hw

theorem wellFormed_of_readNumber {cs : List Char} {v : Value} {rest : List Char}
    (h : readNumber cs = some (v, rest)) : v.WellFormed := by
  simp only [readNumber, Option.bind_eq_bind, Option.pure_def] at h
  obtain ⟨whole, -, h⟩ := Option.bind_eq_some_iff.1 h
  split at h
  · contradiction
  · split at h
    · obtain ⟨places, -, h⟩ := Option.bind_eq_some_iff.1 h
      rw [Option.bind_some] at h
      obtain ⟨e, -, h⟩ := Option.bind_eq_some_iff.1 h
      split at h
      · exact wellFormed_of_bind (fun _ => wellFormed_of_float?) h
      · exact wellFormed_of_bind (fun _ => wellFormed_of_float?) h
    · rw [Option.bind_some] at h
      obtain ⟨e, -, h⟩ := Option.bind_eq_some_iff.1 h
      split at h
      · exact wellFormed_of_bind (fun _ => wellFormed_of_float?) h
      · exact wellFormed_of_bind (fun _ => wellFormed_of_whole?) h

theorem wellFormed_of_readWord {word : String} {v w : Value} {cs rest : List Char}
    (h : readWord word v cs = some (w, rest)) (hv : v.WellFormed) : w.WellFormed := by
  unfold readWord at h
  split at h
  · obtain ⟨rfl, -⟩ := Prod.mk.inj (Option.some.inj h)
    exact hv
  · contradiction

theorem wellFormed_of_readValue {depth : Nat} : ∀ {cs : List Char} {v : Value}
    {rest : List Char}, readValue depth cs = some (v, rest) → v.WellFormed := by
  induction depth using Nat.strongRecOn with
  | ind depth ih =>
    intro cs v rest h
    unfold readValue at h
    split at h
    · exact wellFormed_of_readWord h trivial
    · exact wellFormed_of_readWord h trivial
    · exact wellFormed_of_readWord h trivial
    · obtain ⟨a, -, ha⟩ := Option.map_eq_some_iff.1 h
      obtain ⟨rfl, -⟩ := Prod.mk.inj ha
      trivial
    · cases depth with
      | zero => contradiction
      | succ depth =>
        obtain ⟨items, hitems, ha⟩ := Option.map_eq_some_iff.1 h
        obtain ⟨rfl, -⟩ := Prod.mk.inj ha
        exact wellFormed_array.2
          (forall_of_readSeries (fun _ _ _ => ih depth (Nat.lt_succ_self depth)) hitems)
    · cases depth with
      | zero => contradiction
      | succ depth =>
        obtain ⟨entries, hentries, ha⟩ := Option.map_eq_some_iff.1 h
        obtain ⟨rfl, -⟩ := Prod.mk.inj ha
        refine Members.ofList_wellFormed (forall_of_readSeries (fun _ m _ hm => ?_) hentries)
        exact of_readMember (fun _ _ _ => ih depth (Nat.lt_succ_self depth)) hm
    · exact wellFormed_of_readNumber h

/-- **What is read is well formed.** In every object read from a text each name occurs once. -/
theorem parse?_wellFormed {text : String} {v : Value} (h : parse? text = some v) :
    v.WellFormed := by
  simp only [parse?, Option.bind_eq_bind, Option.bind_eq_some_iff] at h
  obtain ⟨⟨w, rest⟩, hread, h⟩ := h
  split at h
  · obtain rfl := Option.some.inj h
    exact wellFormed_of_readValue hread
  · contradiction

end Json

end JsonPath

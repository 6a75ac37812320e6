import JsonPath.Proofs.Evaluation.Outcome
import JsonPath.Proofs.Json.Height

/-!
# What built-in functions give

A built-in function gives a value or nothing, or it finds fault with an argument. It never gives
nodes, it says nothing about a place, and it looks at the values of its arguments only. What it
gives is flat, with two exceptions: keys and the pieces of a string come in an array of strings, and
the values of an object are as high as the object.

* `Operand.Lists` — the items that an argument of an aggregate lists.
* `ends_call` — what one call gives, and how high it is.
* `call_detached` — a call depends on the values of its arguments only.
-/

namespace JsonPath

namespace Operand

/-- Whether an operand is a value with a property, or absent. -/
def Holds (P : Value → Prop) : Operand → Prop
  | value v => P v
  | absent => True
  | nodes _ => False

theorem holds_ofOption {P : Value → Prop} {v : Option Value} (h : ∀ w, v = some w → P w) :
    (ofOption v).Holds P := by
  cases v with
  | none => trivial
  | some w => exact h w rfl

/-- The items that an argument lists: the elements of a single array, or else the values of its
nodes. -/
inductive Lists : Operand → List Value → Prop
  | array (items : List Value) : Lists (value (.array items)) items
  | single {n : Node} {items : List Value} (h : n.value = .array items) : Lists (nodes [n]) items
  | several {ns : List Node} (h : ns.length ≠ 1) : Lists (nodes ns) (ns.map Node.value)

/-- An operand with its values only. -/
def detached : Operand → Operand
  | nodes ns => nodes (ns.map fun n => .synthetic n.value)
  | o => o

@[simp] theorem single?_detached (arg : Operand) : arg.detached.single? = arg.single? := by
  cases arg with
  | nodes ns =>
    match ns with
    | [] => rfl
    | [n] => rfl
    | _ :: _ :: _ => rfl
  | value v => rfl
  | absent => rfl

end Operand

namespace Builtin

open Query (Ends)

variable {f : Builtin} {k : Nat} {arg : Operand}

/-- Whether an error is a fault of an argument of the function, with no place. -/
def IsFault (f : Builtin) (e : EvalError) : Prop := ∃ fault, e = .invalidArgument f.name fault

theorem isFault_wrongType {α : Type} {P : α → Prop} (expected : String) (found : Value) :
    Ends P f.IsFault (f.wrongType expected found) := ⟨_, rfl⟩

/-- Whether a value is no higher than some bound. -/
def Low (k : Nat) (v : Value) : Prop := v.height ≤ k

theorem low_of_flat {v : Value} (h : v.height = 0) : Low k v := by
  unfold Low
  omega

theorem low_strings {α : Type} (hk : 1 ≤ k) (text : α → String) (items : List α) :
    Low k (.array (items.map fun a => .string (text a))) := by
  rw [Low, Value.height_array_le]
  intro v hv
  obtain ⟨a, -, rfl⟩ := List.mem_map.1 hv
  exact hk

theorem height_ofNat (n : Nat) : (Value.ofNat n).height = 0 := by
  unfold Value.ofNat
  split <;> rfl

/-! ## Numbers -/

theorem ends_numeric (exact : Int64 → Option Int64) (rounded : Float → Float) (arg : Operand) :
    Ends (Operand.Holds (Low k)) f.IsFault (f.numeric exact rounded arg) := by
  unfold numeric
  split
  · trivial
  · refine Operand.holds_ofOption fun w hw => ?_
    obtain ⟨m, -, rfl⟩ := Option.map_eq_some_iff.1 hw
    exact low_of_flat rfl
  · exact low_of_flat rfl
  · exact isFault_wrongType _ _

theorem height_of_numberOfText? {s : String} {v : Value} (h : numberOfText? s = some v) :
    v.height = 0 := by
  simp only [numberOfText?, Option.or_eq_some_iff, Option.map_eq_some_iff] at h
  rcases h with ⟨n, -, rfl⟩ | ⟨-, x, -, rfl⟩ <;> rfl

theorem ends_callToNumber (arg : Operand) :
    Ends (Operand.Holds (Low k)) toNumber.IsFault (callToNumber arg) := by
  unfold callToNumber
  split
  · trivial
  · exact low_of_flat rfl
  · exact low_of_flat rfl
  · exact Operand.holds_ofOption fun w hw => low_of_flat (height_of_numberOfText? hw)
  · exact isFault_wrongType _ _

/-! ## Aggregates -/

theorem ends_items? (f : Builtin) (arg : Operand) :
    Ends (fun _ => True) f.IsFault (f.items? arg) := by
  unfold items?
  split
  · trivial
  · trivial
  · exact isFault_wrongType _ _
  · split
    · trivial
    · exact isFault_wrongType _ _
  · trivial

theorem items?_of_lists (f : Builtin) {items : List Value} (h : arg.Lists items) :
    f.items? arg = .ok (some items) := by
  cases h with
  | array items => rfl
  | single h => simp only [items?, h]
  | @several ns h =>
    match ns, h with
    | [], _ | _ :: _ :: _, _ => rfl

theorem ends_numbers? (f : Builtin) (arg : Operand) :
    Ends (fun _ => True) f.IsFault (f.numbers? arg) := by
  refine (ends_items? f arg).bind fun items _ => ?_
  cases items with
  | none => trivial
  | some items =>
    dsimp only
    split
    · exact isFault_wrongType _ _
    · trivial

theorem ends_callSum (arg : Operand) :
    Ends (Operand.Holds (Low k)) sum.IsFault (callSum arg) := by
  refine (ends_numbers? sum arg).bind fun items _ => ?_
  cases items with
  | none => trivial
  | some items =>
    change Low k (items.foldl Total.add (.exact 0)).toValue
    cases items.foldl Total.add (.exact 0) <;> exact low_of_flat rfl

theorem ends_callProd (arg : Operand) :
    Ends (Operand.Holds (Low k)) prod.IsFault (callProd arg) := by
  refine (ends_numbers? prod arg).bind fun items _ => ?_
  split
  · trivial
  · trivial
  · rename_i items _
    change Low k (items.foldl Product.mul ⟨some 1, 1.0⟩).toValue
    unfold Product.toValue
    split <;> exact low_of_flat rfl

theorem ends_callAvg (arg : Operand) :
    Ends (Operand.Holds (Low k)) avg.IsFault (callAvg arg) := by
  refine (ends_numbers? avg arg).bind fun items _ => ?_
  split
  · trivial
  · trivial
  · exact low_of_flat rfl

theorem height_of_isNumber_or_isString {v : Value} (h : ¬(!v.isNumber && !v.isString)) :
    v.height = 0 := by
  cases v <;> simp_all [Value.height, Value.isNumber, Value.isString]

/-- The best item is a number or a string. -/
theorem ends_extreme {wanted : Ordering} {best : Option Value} {items : List Value}
    (hbest : ∀ v, best = some v → v.height = 0) :
    Ends (fun found => ∀ v, found = some v → v.height = 0) f.IsFault
      (f.extreme wanted best items) := by
  induction items generalizing best with
  | nil => exact hbest
  | cons item rest ih =>
    unfold extreme
    split
    · exact isFault_wrongType _ _
    · rename_i hitem
      have hitem := height_of_isNumber_or_isString hitem
      split
      · refine ih fun v hv => ?_
        obtain rfl := Option.some.inj hv
        exact hitem
      · rename_i current
        split
        · refine ih fun v hv => ?_
          obtain rfl := Option.some.inj hv
          split
          · exact hitem
          · exact hbest current rfl
        · exact isFault_wrongType _ _

theorem ends_callExtreme (wanted : Ordering) (arg : Operand) :
    Ends (Operand.Holds (Low k)) f.IsFault (f.callExtreme wanted arg) := by
  refine (ends_items? f arg).bind fun items _ => ?_
  cases items with
  | none => trivial
  | some items =>
    refine (ends_extreme fun v hv => by contradiction).bind fun found hfound => ?_
    exact Operand.holds_ofOption fun v hv => low_of_flat (hfound v hv)

/-! ## Structure -/

theorem ends_callLength (arg : Operand) :
    Ends (Operand.Holds (Low k)) length.IsFault (callLength arg) := by
  unfold callLength
  split
  · trivial
  · exact low_of_flat (height_ofNat _)
  · exact low_of_flat (height_ofNat _)
  · exact low_of_flat (height_ofNat _)
  · exact isFault_wrongType _ _

theorem ends_callKeys (hk : 1 ≤ k) (arg : Operand) :
    Ends (Operand.Holds (Low k)) keys.IsFault (callKeys arg) := by
  unfold callKeys
  split
  · trivial
  · exact low_strings hk _ _
  · exact isFault_wrongType _ _

/-- The values of an object are as high as the object. -/
theorem ends_callValues (harg : ∀ v, arg.single? = some v → Low k v) :
    Ends (Operand.Holds (Low k)) values.IsFault (callValues arg) := by
  unfold callValues
  split
  · trivial
  · rename_i members hmembers
    have hlow := harg _ hmembers
    rw [Low, Value.height_object_le] at hlow
    change (Value.array (members.map Prod.snd)).height ≤ k
    rw [Value.height_array_le]
    intro v hv
    obtain ⟨m, hm, rfl⟩ := List.mem_map.1 hv
    exact hlow m hm
  · exact isFault_wrongType _ _

/-! ## Strings -/

theorem ends_callContains (haystack needle : Operand) :
    Ends (Operand.Holds (Low k)) contains.IsFault (callContains haystack needle) := by
  unfold callContains
  split
  · exact low_of_flat rfl
  · exact low_of_flat rfl
  · exact isFault_wrongType _ _
  · exact isFault_wrongType _ _
  · trivial

theorem ends_affix (test : List Char → List Char → Bool) (text part : Operand) :
    Ends (Operand.Holds (Low k)) f.IsFault (f.affix test text part) := by
  unfold affix
  split
  · exact low_of_flat rfl
  · exact isFault_wrongType _ _
  · exact isFault_wrongType _ _
  · trivial

theorem ends_callTokenize (hk : 1 ≤ k) (text pattern : Operand) :
    Ends (Operand.Holds (Low k)) tokenize.IsFault (callTokenize text pattern) := by
  unfold callTokenize
  split
  · split
    · exact low_strings hk _ _
    · exact ⟨_, rfl⟩
  · exact isFault_wrongType _ _
  · exact isFault_wrongType _ _
  · trivial

/-! ## All of them -/

/-- **One call.** A built-in function gives nothing that is higher than its first argument and than
one level, and it fails only with a fault of an argument. -/
theorem ends_call (f : Builtin) {args : List Operand} (hk : 1 ≤ k)
    (hargs : ∀ arg v, args.head? = some arg → arg.single? = some v → Low k v) :
    Ends (Operand.Holds (Low k)) f.IsFault (f.call args) := by
  unfold call
  split
  · exact ends_numeric _ _ _
  · exact ends_numeric _ _ _
  · exact ends_numeric _ _ _
  · exact ends_callToNumber _
  · exact ends_callSum _
  · exact ends_callProd _
  · exact ends_callAvg _
  · exact ends_callExtreme _ _
  · exact ends_callExtreme _ _
  · exact ends_callLength _
  · exact low_of_flat (height_ofNat _)
  · exact ends_callKeys hk _
  · exact ends_callValues fun v => hargs _ v rfl
  · exact ends_callContains _ _
  · exact ends_affix _ _ _
  · exact ends_affix _ _ _
  · exact ends_callTokenize hk _ _
  · exact ⟨_, rfl⟩

/-- Whatever the arguments, a built-in function gives no nodes and fails with a fault only. -/
theorem ends_call_plain (f : Builtin) (args : List Operand) :
    Ends (Operand.Holds fun _ => True) f.IsFault (f.call args) := by
  -- Some height is enough for the first argument.
  obtain ⟨k, hk, hargs⟩ : ∃ k, 1 ≤ k ∧
      ∀ arg v, args.head? = some arg → arg.single? = some v → Low k v := by
    cases h : args.head?.bind Operand.single? with
    | none => exact ⟨1, Nat.le_refl 1, fun arg v harg hv => by simp [harg, hv] at h⟩
    | some w =>
      refine ⟨w.height + 1, Nat.le_add_left 1 w.height, fun arg v harg hv => ?_⟩
      obtain rfl : v = w := by simpa [harg, hv] using h
      exact Nat.le_succ v.height
  refine (ends_call f hk hargs).mono (fun o ho => ?_) fun _ => id
  cases o with
  | value | absent => trivial
  | nodes ns => exact ho

@[simp] theorem items?_detached (f : Builtin) (arg : Operand) :
    f.items? arg.detached = f.items? arg := by
  cases arg with
  | nodes ns =>
    match ns with
    | [] => rfl
    | [n] => rfl
    | n :: m :: rest => simp [Operand.detached, items?, Node.synthetic, Function.comp_def]
  | value v => rfl
  | absent => rfl

@[simp] theorem countOf_detached (arg : Operand) : countOf arg.detached = countOf arg := by
  cases arg <;> simp [Operand.detached, countOf]

/-- **Only values count.** A call does not depend on where its arguments were found. -/
theorem call_detached (f : Builtin) (args : List Operand) :
    f.call (args.map Operand.detached) = f.call args := by
  match args with
  | [] => rfl
  | [a] =>
    cases f <;> simp [call, numeric, callToNumber, callSum, callProd, callAvg, callExtreme,
      numbers?, callLength, callKeys, callValues]
  | [a, b] => cases f <;> simp [call, callContains, affix, callTokenize]
  | a :: b :: c :: rest => cases f <;> simp [call]

end Builtin

end JsonPath

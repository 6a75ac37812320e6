import JsonPath.Text.CharClass

/-!
# Sets of characters

A set is a list of ranges of code points, ascending and apart from each other: two ranges that
overlap or touch are one. Union, complement and what is made of them keep that form.

* `contains_union` — a union holds the characters of both sets.
* `separate_ofRanges` — ranges in any order are brought into that form.
* `contains_complement` — in that form, the complement holds just the other characters.
-/

namespace JsonPath.Regex

/-- A set of characters. -/
structure CharSet where
  /-- First and last code points, ascending, with a gap between any two. -/
  ranges : List (Nat × Nat)

namespace CharSet

def empty : CharSet := ⟨[]⟩

/-- The last code point. -/
def maxCode : Nat := 0x10FFFF

def all : CharSet := ⟨[(0, maxCode)]⟩

def contains (s : CharSet) (c : Char) : Bool := Text.inRanges s.ranges c.toNat

/-- Joins the range `r` with those after it that it overlaps or touches, and so on; the list is
ordered by first code point, and `r` comes before it. -/
def joinOnto (r : Nat × Nat) : List (Nat × Nat) → List (Nat × Nat)
  | [] => [r]
  | s :: rest =>
    if s.1 ≤ r.2 + 1 then joinOnto (r.1, max r.2 s.2) rest else r :: joinOnto s rest

/-- Joins ranges that overlap or touch, in a list ordered by first code point. -/
def join : List (Nat × Nat) → List (Nat × Nat)
  | [] => []
  | r :: rest => joinOnto r rest

/-- Whether a range comes before another in order: it starts first, or together with it and is not
shorter. -/
def startsBefore (a b : Nat × Nat) : Bool := a.1 < b.1 || (a.1 == b.1 && b.2 ≤ a.2)

/-- The set of all characters in some ranges, given in any order. -/
def ofRanges (ranges : List (Nat × Nat)) : CharSet := ⟨join (ranges.mergeSort startsBefore)⟩

def single (c : Char) : CharSet := ⟨[(c.toNat, c.toNat)]⟩

/-- The characters from `a` to `b`. -/
def range (a b : Char) : CharSet := ⟨[(a.toNat, b.toNat)]⟩

def union (a b : CharSet) : CharSet := ofRanges (a.ranges ++ b.ranges)

/-- What ascending ranges leave out, from the code point `start` on. -/
def gaps (start : Nat) : List (Nat × Nat) → List (Nat × Nat)
  | [] => if start ≤ maxCode then [(start, maxCode)] else []
  | r :: rest =>
    if start < r.1 then (start, r.1 - 1) :: gaps (r.2 + 1) rest else gaps (r.2 + 1) rest

def complement (s : CharSet) : CharSet := ⟨gaps 0 s.ranges⟩

def inter (a b : CharSet) : CharSet := (a.complement.union b.complement).complement

def diff (a b : CharSet) : CharSet := a.inter b.complement

/-- The characters in exactly one of two sets. -/
def symmDiff (a b : CharSet) : CharSet := (a.union b).diff (a.inter b)

/-- Whether the set holds ASCII characters only. -/
def isAscii (s : CharSet) : Bool := s.ranges.all fun r => r.2 < 128

/-! ## Written sets -/

/-- A number in hexadecimal digits. -/
def hexNumber (digits : List Char) : Nat :=
  digits.foldl (fun n c => 16 * n + (Text.hexValue? c).getD 0) 0

/-- Reads code points and ranges in hexadecimal, separated by spaces. -/
def ofText (text : String) : CharSet :=
  ofRanges <| (text.toList.splitBy (fun a b => a != ' ' && b != ' ')).filterMap fun word =>
    match word with
    | [' '] => none
    | _ =>
      let first := word.takeWhile (· != '-')
      match word.drop (first.length + 1) with
      | [] => some (hexNumber first, hexNumber first)
      | last => some (hexNumber first, hexNumber last)

/-- The set of a name in a table of names and written sets. -/
def ofTable? (table : List (List String × String)) (name : String) : Option CharSet :=
  (table.find? fun entry => entry.1.contains name).map fun entry => ofText entry.2

/-! ## Members -/

/-- The form that sets have: ranges that are not empty, ascending and apart from each other. -/
def Separate (s : CharSet) : Prop :=
  (s.ranges.Pairwise fun a b => a.2 + 1 < b.1) ∧ ∀ r ∈ s.ranges, r.1 ≤ r.2

theorem inRanges_cons (r : Nat × Nat) (rs : List (Nat × Nat)) (n : Nat) :
    Text.inRanges (r :: rs) n = ((r.1 ≤ n && n ≤ r.2) || Text.inRanges rs n) := rfl

theorem inRanges_joinOnto {r : Nat × Nat} {rs : List (Nat × Nat)}
    (h : (r :: rs).Pairwise fun a b => a.1 ≤ b.1) (n : Nat) :
    Text.inRanges (joinOnto r rs) n = Text.inRanges (r :: rs) n := by
  induction rs generalizing r with
  | nil => rfl
  | cons s rest ih =>
    rw [List.pairwise_cons, List.pairwise_cons] at h
    obtain ⟨hr, hs, hrest⟩ := h
    have hrs : r.1 ≤ s.1 := hr s (by simp)
    rw [joinOnto]
    split
    · rw [ih (r := (r.1, max r.2 s.2))
        (List.pairwise_cons.2 ⟨fun t ht => hr t (by simp [ht]), hrest⟩)]
      simp only [inRanges_cons]
      rw [← Bool.or_assoc]
      congr 1
      rw [Bool.eq_iff_iff]
      simp only [Bool.and_eq_true, Bool.or_eq_true, decide_eq_true_eq]
      omega
    · rw [inRanges_cons, ih (List.pairwise_cons.2 ⟨hs, hrest⟩), inRanges_cons r]

theorem pairwise_joinOnto {r : Nat × Nat} {rs : List (Nat × Nat)}
    (h : (r :: rs).Pairwise fun a b => a.1 ≤ b.1) (hr : r.1 ≤ r.2) (hrs : ∀ s ∈ rs, s.1 ≤ s.2) :
    ((joinOnto r rs).Pairwise fun a b => a.2 + 1 < b.1) ∧
      ∀ s ∈ joinOnto r rs, r.1 ≤ s.1 ∧ s.1 ≤ s.2 := by
  induction rs generalizing r with
  | nil => simp [joinOnto, hr]
  | cons s rest ih =>
    rw [List.pairwise_cons, List.pairwise_cons] at h
    obtain ⟨hfirst, hs, hrest⟩ := h
    have hrs1 : r.1 ≤ s.1 := hfirst s (by simp)
    have hss : s.1 ≤ s.2 := hrs s (by simp)
    have hrest2 : ∀ t ∈ rest, t.1 ≤ t.2 := fun t ht => hrs t (by simp [ht])
    rw [joinOnto]
    split
    · exact ih (r := (r.1, max r.2 s.2))
        (List.pairwise_cons.2 ⟨fun t ht => hfirst t (by simp [ht]), hrest⟩)
        (by show r.1 ≤ max r.2 s.2; omega) hrest2
    · obtain ⟨hpair, hmem⟩ := ih (List.pairwise_cons.2 ⟨hs, hrest⟩) hss hrest2
      refine ⟨List.pairwise_cons.2 ⟨fun t ht => ?_, hpair⟩, fun t ht => ?_⟩
      · have := hmem t ht
        omega
      · rcases List.mem_cons.1 ht with rfl | ht
        · exact ⟨Nat.le_refl _, hr⟩
        · have := hmem t ht
          omega

theorem pairwise_mergeSort (rs : List (Nat × Nat)) :
    (rs.mergeSort startsBefore).Pairwise fun a b => a.1 ≤ b.1 := by
  have sorted : (rs.mergeSort startsBefore).Pairwise fun a b => startsBefore a b = true := by
    apply List.pairwise_mergeSort
    · intro a b c hab hbc
      simp only [startsBefore, Bool.or_eq_true, Bool.and_eq_true, decide_eq_true_eq,
        beq_iff_eq] at *
      omega
    · intro a b
      simp only [startsBefore, Bool.or_eq_true, Bool.and_eq_true, decide_eq_true_eq, beq_iff_eq]
      omega
  refine sorted.imp fun {a b} h => ?_
  simp only [startsBefore, Bool.or_eq_true, Bool.and_eq_true, decide_eq_true_eq, beq_iff_eq] at h
  omega

theorem inRanges_ofRanges (rs : List (Nat × Nat)) (n : Nat) :
    Text.inRanges (ofRanges rs).ranges n = Text.inRanges rs n := by
  have same : Text.inRanges (rs.mergeSort startsBefore) n = Text.inRanges rs n :=
    (List.mergeSort_perm rs startsBefore).any_eq
  have sorted := pairwise_mergeSort rs
  rw [← same]
  show Text.inRanges (join (rs.mergeSort startsBefore)) n = _
  cases h : rs.mergeSort startsBefore with
  | nil => rfl
  | cons r rest => rw [h] at sorted; exact inRanges_joinOnto sorted n

theorem separate_ofRanges {rs : List (Nat × Nat)} (h : ∀ r ∈ rs, r.1 ≤ r.2) :
    (ofRanges rs).Separate := by
  have sorted := pairwise_mergeSort rs
  have nonempty : ∀ r ∈ rs.mergeSort startsBefore, r.1 ≤ r.2 := fun r hr =>
    h r ((List.mergeSort_perm rs startsBefore).mem_iff.1 hr)
  show (CharSet.mk (join (rs.mergeSort startsBefore))).Separate
  cases hrs : rs.mergeSort startsBefore with
  | nil => simp [Separate, join]
  | cons r rest =>
    rw [hrs] at sorted nonempty
    obtain ⟨hpair, hmem⟩ :=
      pairwise_joinOnto sorted (nonempty r (by simp)) fun s hs => nonempty s (by simp [hs])
    exact ⟨hpair, fun s hs => (hmem s hs).2⟩

theorem inRanges_gaps {rs : List (Nat × Nat)} {start n : Nat}
    (apart : rs.Pairwise fun a b => a.2 + 1 < b.1) (hstart : ∀ r ∈ rs, start ≤ r.1 ∧ r.1 ≤ r.2)
    (hn : n ≤ maxCode) :
    Text.inRanges (gaps start rs) n = (decide (start ≤ n) && !Text.inRanges rs n) := by
  induction rs generalizing start with
  | nil => simp only [gaps]; split <;> simp [Text.inRanges] <;> omega
  | cons r rest ih =>
    rw [List.pairwise_cons] at apart
    have hr := hstart r (by simp)
    have hrest : ∀ s ∈ rest, r.2 + 1 ≤ s.1 ∧ s.1 ≤ s.2 := fun s hs =>
      ⟨Nat.le_of_lt (apart.1 s hs), (hstart s (by simp [hs])).2⟩
    have after : Text.inRanges rest n = true → r.2 < n := by
      intro hm
      simp only [Text.inRanges, List.any_eq_true, Bool.and_eq_true, decide_eq_true_eq] at hm
      obtain ⟨s, hs, hsn, _⟩ := hm
      have := (hrest s hs).1
      omega
    rw [gaps]
    split
    · rw [inRanges_cons, ih apart.2 hrest, inRanges_cons, Bool.eq_iff_iff]
      cases hc : Text.inRanges rest n <;> simp [hc] at after ⊢ <;> omega
    · rw [ih apart.2 hrest, inRanges_cons, Bool.eq_iff_iff]
      cases hc : Text.inRanges rest n <;> simp [hc] at after ⊢
      omega

theorem contains_union (a b : CharSet) (c : Char) :
    (a.union b).contains c = (a.contains c || b.contains c) := by
  show Text.inRanges (ofRanges (a.ranges ++ b.ranges)).ranges c.toNat = _
  rw [inRanges_ofRanges]
  exact List.any_append

theorem contains_complement {s : CharSet} (h : s.Separate) (c : Char) :
    s.complement.contains c = !s.contains c := by
  have hc : c.toNat ≤ maxCode := by
    have := c.valid
    simp only [UInt32.isValidChar, Nat.isValidChar] at this
    show c.val.toNat ≤ 0x10FFFF
    omega
  show Text.inRanges (gaps 0 s.ranges) c.toNat = _
  rw [inRanges_gaps h.1 (fun r hr => ⟨Nat.zero_le _, h.2 r hr⟩) hc]
  simp [contains]

end CharSet

end JsonPath.Regex

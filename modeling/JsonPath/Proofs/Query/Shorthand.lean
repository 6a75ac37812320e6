import JsonPath.Proofs.Location.Selection

/-!
# Steps after dots and in brackets

A word or a position may stand after a dot as well as in brackets, and is the same step there. But
two positions with a dot between them are also a number with a point, and tokens are taken as long
as they go: `$.0.1` is a dot and one number, which is no step. Whatever else stands next to each
other is told apart, so the dots can be read just if no two positions are adjacent.

* `DotStep` — the steps that may be written in both ways.
* `dotTokens`, `lexes_dotChars` — how the text with dots is split.
* `outcome` — the segments are read as the steps, or reading fails at a joined number.
* `Expression.compile_dotText` — when the two ways agree, and what is reported where they do not.
-/

namespace JsonPath

namespace Query

open Parse Level

/-! ## Steps -/

/-- A step that may stand after a dot: a word, or a position counted from the start. -/
inductive DotStep where
  | word (name : String) (hname : IsWord name)
  | position (i : Int64) (hi : 0 ≤ i.toInt)

namespace DotStep

def isPosition : DotStep → Bool
  | word _ _ => false
  | position _ _ => true

/-- The selector that a step is. -/
def selector : DotStep → Selector
  | word name _ => .name name
  | position i _ => .index i

/-- The digits of a position that is not negative. -/
def digits (i : Int64) : List Char := Nat.toDigits 10 i.toInt.toNat

/-- A step after a dot. -/
def dotChars : DotStep → List Char
  | word name _ => '.' :: name.toList
  | position i _ => '.' :: digits i

/-- A step in brackets. -/
def bracketChars : DotStep → List Char
  | word name _ => '[' :: '\'' :: name.toList ++ ['\'', ']']
  | position i _ => '[' :: digits i ++ [']']

/-- The expression of some steps, each after a dot. -/
def dotText (steps : List DotStep) : String := String.ofList ('$' :: steps.flatMap dotChars)

/-- The expression of some steps, each in brackets. -/
def bracketText (steps : List DotStep) : String := String.ofList ('$' :: steps.flatMap bracketChars)

/-- The number that two positions are read as when a point stands between them. -/
def joined (i j : Int64) : Token := .float (Number.floatOfNotation (digits i) (digits j) 0)

/-- The tokens of steps that stand after dots. -/
def dotTokens : List DotStep → List Token
  | [] => []
  | position i _ :: position j _ :: rest => .mark .dot :: joined i j :: dotTokens rest
  | position i _ :: rest => .mark .dot :: .integer i :: dotTokens rest
  | word name _ :: rest => .mark .dot :: wordToken name :: dotTokens rest

/-- Whether two steps in a row are told apart. -/
def IsApart (s t : DotStep) : Prop := ¬(s.isPosition ∧ t.isPosition)

instance (s t : DotStep) : Decidable (s.IsApart t) := inferInstanceAs (Decidable (¬_))

variable {s : DotStep} {steps rest : List DotStep} {functions : Registry} {n : Nat}

/-! ## In brackets -/

/-- No character of a word has to be escaped. -/
theorem spelledAs_quotedWord {name : String} (hname : IsWord name) (rest : List Char) :
    (Token.string name).SpelledAs ('\'' :: name.toList ++ ['\'']) rest := by
  have hchars : List.Forall₂ (Text.Quoted.Spells '\'') name.toList
      (name.toList.map fun c => [c]) := by
    refine List.forall₂_map_right_iff.2 (List.forall₂_same.2 fun c hc => .itself ?_ ?_) <;>
      · rintro rfl
        exact absurd (hname.2 _ hc) (by decide)
  have hflatten : (name.toList.map fun c => [c]).flatten = name.toList := by
    rw [← List.flatMap_def, List.flatMap_singleton']
  rw [← hflatten]
  exact .string (.inr rfl) hchars

/-- Each step in brackets is a segment of its own. -/
theorem exists_bracketTokens (steps : List DotStep) :
    ∃ ts, PathTokens (steps.map selector) ts ∧ Spells ts (steps.flatMap bracketChars) := by
  induction steps with
  | nil => exact ⟨[], .nil, .nil (List.forall_mem_nil _)⟩
  | cons s rest ih =>
    obtain ⟨us, hus, hspells⟩ := ih
    cases s with
    | word name hname =>
      refine ⟨_, .cons (.quoted name) hus, ?_⟩
      simpa [bracketChars] using spells_bracketed
        (List.forall_mem_nil _) (List.forall_mem_nil _) (spelledAs_quotedWord hname _) hspells
    | position i hi =>
      refine ⟨_, .cons (.index hi) hus, ?_⟩
      simpa [bracketChars, digits] using spells_bracketed
        (List.forall_mem_nil _) (List.forall_mem_nil _)
        (.integer Nat.toDigits_ne_nil (fun _ => Number.isDigit_of_mem_toDigits)
          (ofNat?_ofDigits_toDigits hi) (not_number_of_head (List.forall_mem_nil _))) hspells

/-! ## After dots -/

theorem digits_ne_nil (i : Int64) : digits i ≠ [] := Nat.toDigits_ne_nil

theorem isDigit_of_mem_digits {i : Int64} {c : Char} (h : c ∈ digits i) : c.isDigit :=
  Number.isDigit_of_mem_toDigits h

/-- A dot follows every step but the last. -/
theorem head_flatMap_dotChars : ∀ c ∈ (steps.flatMap dotChars).head?, c = '.' := by
  cases steps with
  | nil => simp
  | cons s rest => cases s <;> simp [dotChars]

theorem endsDigits_places {places : List Char} (h : places ≠ []) :
    EndsDigits places (steps.flatMap dotChars) := by
  refine ⟨fun c hc => ?_, fun hnil => absurd hnil h⟩
  rw [head_flatMap_dotChars c hc]
  rfl

theorem head_word_not_digit {name : String} (hname : IsWord name) (rest : List Char) :
    ∀ c ∈ (name.toList ++ rest).head?, c.isDigit = false := by
  obtain ⟨⟨a, ha, hstart⟩, -⟩ := hname
  obtain ⟨cs, hcs⟩ := List.head?_eq_some_iff.1 ha
  intro c hc
  obtain rfl : a = c := by simpa [hcs] using hc
  by_contra hdigit
  rw [isIdentifierStart_of_isDigit (by simpa using hdigit)] at hstart
  contradiction

/-- A position ends at a dot that no other position follows. -/
theorem endsDigits_nil (h : ∀ s ∈ steps.head?, s.isPosition = false) :
    EndsDigits [] (steps.flatMap dotChars) := by
  refine ⟨fun c hc => ?_, fun _ tail htail c hc => ?_⟩
  · rw [head_flatMap_dotChars c hc]
    rfl
  · cases steps with
    | nil => contradiction
    | cons s rest =>
      cases s with
      | position i hi => exact absurd (h _ rfl) (by simp [isPosition])
      | word name hname =>
        obtain rfl : name.toList ++ rest.flatMap dotChars = tail := by simpa [dotChars] using htail
        exact head_word_not_digit hname _ c hc

theorem exponentHere_dotChars : Number.exponentHere (steps.flatMap dotChars) = (0, 0) := by
  refine exponentHere_of_head fun c hc => ?_
  rw [head_flatMap_dotChars c hc]
  rfl

/-- A dot is a token of its own before a digit. -/
theorem lexes_dot_digits {i : Int64} {rest : List Char} {ts : List Token}
    (h : Lexes (digits i ++ rest) ts) : Lexes ('.' :: (digits i ++ rest)) (.mark .dot :: ts) := by
  refine h.mark .dot (by simp) ?_
  obtain ⟨d, ds, hds, hd⟩ : ∃ d ds, digits i = d :: ds ∧ d.isDigit :=
    Number.exists_toDigits_eq_cons i.toInt.toNat
  simpa [Mark.EndsBefore, hds] using ne_of_isDigit hd (a := '.') rfl

theorem firstToken_joined (i j : Int64) (steps : List DotStep) :
    FirstToken (digits i ++ '.' :: (digits j ++ steps.flatMap dotChars)) (joined i j)
      (steps.flatMap dotChars) := by
  have hpoint : '.' :: (digits j ++ steps.flatMap dotChars) =
      fractionChars (digits j) ++ ([] ++ steps.flatMap dotChars) := by
    simp [fractionChars, digits_ne_nil j]
  rw [hpoint]
  exact firstToken_float (digits_ne_nil i) (fun _ => isDigit_of_mem_digits)
    (fun _ => isDigit_of_mem_digits) (endsDigits_places (digits_ne_nil j)) exponentHere_dotChars
    fun hnil => absurd hnil (digits_ne_nil j)

theorem head_not_position
    (h : ∀ j hj tail, rest = position j hj :: tail → False) :
    ∀ s ∈ rest.head?, s.isPosition = false := by
  intro s hs
  obtain ⟨tail, rfl⟩ := List.head?_eq_some_iff.1 hs
  cases s with
  | word => rfl
  | position j hj => exact (h j hj tail rfl).elim

/-- **How dots are split.** Two adjacent positions and the dot between them are one number, and all
other steps are tokens of their own. -/
theorem lexes_dotChars (steps : List DotStep) :
    Lexes (steps.flatMap dotChars) (dotTokens steps) := by
  induction steps using dotTokens.induct with
  | case1 => exact lexes_nil
  | case2 i hi j hj rest ih =>
    simpa [dotChars, dotTokens] using lexes_dot_digits ((firstToken_joined i j rest).lexes ih)
  | case3 i hi rest hrest ih =>
    have hfirst : FirstToken (digits i ++ rest.flatMap dotChars) (.integer i)
        (rest.flatMap dotChars) :=
      firstToken_digits (digits_ne_nil i) (fun _ => isDigit_of_mem_digits)
        (ofNat?_ofDigits_toDigits hi) (endsDigits_nil (head_not_position hrest))
        fun c hc => by
          rw [head_flatMap_dotChars c hc]; rfl
    simpa [dotChars, dotTokens] using lexes_dot_digits (hfirst.lexes ih)
  | case4 name hname rest ih =>
    have hword : FirstToken (name.toList ++ rest.flatMap dotChars) (wordToken name)
        (rest.flatMap dotChars) :=
      firstToken_identifier hname fun c hc => by rw [head_flatMap_dotChars c hc]; decide
    exact (hword.lexes ih).mark .dot (by simp) (hname.head_ne_dot _)

/-! ## Reading -/

theorem front_dotTokens_ne (steps : List DotStep) :
    front (dotTokens steps) ≠ .mark .openParen := by
  fun_cases dotTokens steps <;> simp

/-- What reading reports at two adjacent positions. -/
def joinedFault (i j : Int64) : ParseFault :=
  .unexpectedToken (joined i j).description "member name"

/-- The reader of segments takes all steps if they are apart, and fails at the first two that are
not. -/
def Outcome (functions : Registry) (n : Nat) (steps : List DotStep) : Prop :=
  let segment := segment? functions (below functions n) (ofRoom functions n).predicate
  (steps.IsChain IsApart ∧
    TakesMany segment (dotTokens steps) [] (steps.map fun s => [s.selector])) ∨
  ∃ before i hi j hj after, steps = before ++ position i hi :: position j hj :: after ∧
    (before ++ [position i hi]).IsChain IsApart ∧
    FailsMany segment (dotTokens steps) (joinedFault i j)

theorem Outcome.cons (h : Outcome functions n rest) (hhead : ∀ t ∈ rest.head?, s.IsApart t)
    (htakes : Takes (segment? functions (below functions n) (ofRoom functions n).predicate)
      (dotTokens (s :: rest)) (dotTokens rest) (some [s.selector]))
    (hshorter : (dotTokens rest).length < (dotTokens (s :: rest)).length) :
    Outcome functions n (s :: rest) := by
  rcases h with ⟨hchain, hmany⟩ | ⟨before, i, hi, j, hj, after, rfl, hchain, hfails⟩
  · exact .inl ⟨List.isChain_cons.2 ⟨hhead, hchain⟩, .cons htakes hshorter hmany⟩
  · refine .inr ⟨s :: before, i, hi, j, hj, after, rfl, ?_, .later htakes hshorter hfails⟩
    refine List.isChain_cons.2 ⟨fun t ht => hhead t ?_, hchain⟩
    cases before <;> exact ht

/-- **Step by step.** The segments are the steps up to the first two positions that are adjacent. -/
theorem outcome (functions : Registry) (n : Nat) (steps : List DotStep) :
    Outcome functions n steps := by
  induction steps using dotTokens.induct with
  | case1 => exact .inl ⟨.nil, .nil (takes_segment?_none (by simp [dotTokens, strength]))⟩
  | case2 i hi j hj rest ih =>
    exact .inr ⟨[], i, hi, j, hj, rest, rfl, .singleton _, .here (fails_dotFloat _ _)⟩
  | case3 i hi rest hrest ih =>
    have htokens : dotTokens (position i hi :: rest) =
        .mark .dot :: .integer i :: dotTokens rest := by
      rw [dotTokens]
      exact hrest
    refine ih.cons (fun t ht => ?_) ?_ (by simp [htokens])
    · simp [IsApart, head_not_position hrest t ht]
    · rw [htokens]
      exact takes_dotIndex i _
  | case4 name hname rest ih =>
    refine ih.cons (fun t _ => by simp [IsApart, isPosition]) ?_ (by simp [dotTokens])
    exact takes_dotName (front_dotTokens_ne rest)

/-! ## Whole texts -/

theorem tokens?_dotText (steps : List DotStep) :
    (lexemes (dotText steps)).tokens? = some (.mark .dollar :: dotTokens steps) := by
  have hdollar : Lexes ('$' :: steps.flatMap dotChars) (.mark .dollar :: dotTokens steps) :=
    (lexes_dotChars steps).mark .dollar (by simp) trivial
  rw [lexemes, Text.Cursor.start, dotText, String.toList_ofList]
  exact hdollar 0

theorem parsePath_bracketText (functions : Registry) (steps : List DotStep) :
    parsePath functions (bracketText steps) = .ok (steps.map selector) := by
  obtain ⟨ts, htokens, hspells⟩ := exists_bracketTokens steps
  refine parsePath_of_pathTokens htokens ?_
  rw [bracketText, String.toList_ofList]
  exact .cons (List.forall_mem_nil _) (.mark (m := .dollar) (by simp) trivial) hspells

theorem not_isChain_of_adjacent {before after : List DotStep} {i j : Int64} {hi : 0 ≤ i.toInt}
    {hj : 0 ≤ j.toInt} :
    ¬(before ++ position i hi :: position j hj :: after).IsChain IsApart := by
  intro h
  have happart := (List.isChain_cons_cons.1 h.right_of_append).1
  exact happart ⟨rfl, rfl⟩

/-- The text with dots is read as its steps, or reading reports the first two positions that are
adjacent as one number. -/
theorem parsePath_dotText (functions : Registry) (steps : List DotStep) :
    (steps.IsChain IsApart ∧ parsePath functions (dotText steps) = .ok (steps.map selector)) ∨
    ∃ before i hi j hj after o, steps = before ++ position i hi :: position j hj :: after ∧
      (before ++ [position i hi]).IsChain IsApart ∧
      parsePath functions (dotText steps) = .error ⟨joinedFault i j, o⟩ := by
  rcases outcome functions maxNesting steps with
    ⟨hchain, hmany⟩ | ⟨before, i, hi, j, hj, after, hsteps, hchain, hfails⟩
  · refine .inl ⟨hchain, parsePath_of_takesMany (tokens?_dotText steps) ?_⟩
    rwa [List.map_map]
  · obtain ⟨o, herror⟩ := parsePath_of_failsMany (tokens?_dotText steps) hfails
    exact .inr ⟨before, i, hi, j, hj, after, o, hsteps, hchain, herror⟩

end DotStep

end Query

namespace Expression

open Query Query.DotStep

variable {functions : Registry}

/-- **Two notations.** Any words and positions compile from brackets, to their selectors. With dots
they compile to the same just if no two positions are adjacent. If some are, the first two of them
are one number with a point, and it is reported where a member was expected. -/
theorem compile_dotText (functions : Registry) (steps : List DotStep) :
    compile functions (bracketText steps) = .ok ⟨bracketText steps, steps.map selector⟩ ∧
      (compile functions (dotText steps) = .ok ⟨dotText steps, steps.map selector⟩ ↔
        steps.IsChain IsApart) ∧
      (¬steps.IsChain IsApart → ∃ before i hi j hj after o,
        steps = before ++ position i hi :: position j hj :: after ∧
          (before ++ [position i hi]).IsChain IsApart ∧
          compile functions (dotText steps) =
            .error ⟨.unexpectedToken (joined i j).description "member name", o⟩) := by
  refine ⟨compile_eq_ok.2 ⟨rfl, parsePath_bracketText functions steps⟩, ?_⟩
  rcases parsePath_dotText functions steps with
    ⟨hchain, hread⟩ | ⟨before, i, hi, j, hj, after, o, rfl, hchain, hread⟩
  · have hcompile : compile functions (dotText steps) = .ok ⟨dotText steps, steps.map selector⟩ :=
      compile_eq_ok.2 ⟨rfl, hread⟩
    exact ⟨⟨fun _ => hchain, fun _ => hcompile⟩, fun hnot => absurd hchain hnot⟩
  · refine ⟨⟨fun hcompile => ?_, fun hnot => absurd hnot not_isChain_of_adjacent⟩, fun _ => ?_⟩
    · rw [compile, hread] at hcompile
      contradiction
    · refine ⟨before, i, hi, j, hj, after, o, rfl, hchain, ?_⟩
      rw [compile, hread]
      rfl

/-- The word for a literal keeps two positions apart, and is a name there. -/
theorem compile_dotText_apart :
    compile .empty "$.0.null.1" = .ok ⟨"$.0.null.1", [.index 0, .name "null", .index 1]⟩ := by
  have hword : IsWord "null" := .of_toList rfl (by decide)
  exact (compile_dotText .empty [.position 0 (by decide), .word "null" hword,
    .position 1 (by decide)]).2.1.2 (by simp [IsApart, isPosition])

/-- Two positions in a row compile from brackets, but not with dots. -/
theorem compile_dotText_adjacent :
    compile .empty "$[0][1]" = .ok ⟨"$[0][1]", [.index 0, .index 1]⟩ ∧
      ∃ o, compile .empty "$.0.1" =
        .error ⟨.unexpectedToken (joined 0 1).description "member name", o⟩ := by
  have hbrackets : parsePath .empty "$[0][1]" = .ok [.index 0, .index 1] :=
    parsePath_bracketText .empty [.position 0 (by decide), .position 1 (by decide)]
  have hdots : ∃ o, parsePath .empty "$.0.1" = .error ⟨joinedFault 0 1, o⟩ :=
    parsePath_of_failsMany (tokens?_dotText [.position 0 (by decide), .position 1 (by decide)])
      (.here (fails_dotFloat _ _))
  obtain ⟨o, hdots⟩ := hdots
  refine ⟨compile_eq_ok.2 ⟨rfl, hbrackets⟩, o, ?_⟩
  rw [compile, hdots]
  rfl

end Expression

end JsonPath

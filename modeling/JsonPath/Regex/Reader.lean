import JsonPath.Regex.Program
import JsonPath.Regex.Size

/-!
# Reading patterns

The notation of patterns: literals, `.`, sets in brackets with ranges, nesting and set operations,
classes by escape or by name, assertions, groups with flags, ordered alternatives and counted
repetitions. A text that does not follow it is no pattern; back-references and looking ahead or
behind cannot be written.

The notation is assumed to be this one, with the same limit to its levels.
-/

namespace JsonPath.Regex

/-- The settings that flags change. -/
structure Flags where
  ignoreCase : Bool := false
  multiLine : Bool := false
  /-- A dot matches a line feed too. -/
  dotAll : Bool := false
  /-- Repetitions are lazy and those with a `?` greedy. -/
  swapGreed : Bool := false
  unicode : Bool := true
  /-- A carriage return, a line feed or both in this order end a line. -/
  crlf : Bool := false
  /-- Blanks between the parts of a pattern do not count, nor does the rest of a line after `#`. -/
  spaced : Bool := false

/-- What is still to be read, and the names of groups so far. -/
structure Source where
  rest : List Char
  names : List (List Char) := []

/-- Reads from a source, or finds that the text is no pattern. -/
abbrev Reads := StateT Source Option

/-- What was read, and how deep the notation was nested. -/
structure Nested (α : Type) where
  value : α
  depth : Nat

/-- What is made of parts: two or more of them make a level. -/
def Nested.level (value : α) (parts : List (Nested β)) : Nested α :=
  match parts with
  | [] => ⟨value, 0⟩
  | [part] => ⟨value, part.depth⟩
  | parts => ⟨value, parts.foldl (fun depth part => max depth part.depth) 0 + 1⟩

namespace Reads

def peek? : Reads (Option Char) := do return (← get).rest.head?

def skip (n : Nat) : Reads Unit := modify fun s => { s with rest := s.rest.drop n }

def next : Reads Char := do
  match (← get).rest with
  | c :: rest => do modify fun s => { s with rest := rest }; return c
  | [] => failure

/-- Takes a given text if it comes next. -/
def accept (text : String) : Reads Bool := do
  if text.toList.isPrefixOf (← get).rest then skip text.length; return true
  else return false

def expect (c : Char) : Reads Unit := do
  if (← next) == c then return () else failure

/-- Drops blanks and comments. -/
def dropBlanks : (comment : Bool) → List Char → List Char
  | _, [] => []
  | true, c :: rest => dropBlanks (c != '\n') rest
  | false, c :: rest =>
    if Text.isBlank c then dropBlanks false rest
    else if c == '#' then dropBlanks true rest
    else c :: rest

/-- Passes over what does not count between the parts of a pattern. -/
def blanks (f : Flags) : Reads Unit :=
  if f.spaced then modify fun s => { s with rest := dropBlanks false s.rest } else pure ()

/-- Takes one character and the blanks after it; something must follow. -/
def nextInside (f : Flags) : Reads Char := do
  let c ← next
  blanks f
  if (← get).rest.isEmpty then failure else return c

/-- Repeats a reader while it gives something; each time it must take a character. -/
def many (one : Reads (Option α)) : Reads (List α) := fun s => go (s.rest.length + 1) s
where
  go : Nat → Source → Option (List α × Source)
    | 0, _ => none
    | fuel + 1, s =>
      match one s with
      | none => none
      | some (none, s) => some ([], s)
      | some (some a, s) => (go fuel s).map fun (as, s) => (a :: as, s)

/-! ## Numbers and characters -/

/-- Blanks that are passed over in counts whether or not they count elsewhere. -/
def countBlanks : Reads Unit :=
  modify fun s => { s with rest := s.rest.dropWhile Text.isBlank }

/-- A decimal number that fits 32 bits; `none` if there is no digit. -/
def number? (f : Flags) : Reads (Option Nat) := do
  countBlanks
  let digits ← many do
    match ← peek? with
    | some c => if c.isDigit then skip 1; blanks f; return some c else return none
    | none => return none
  countBlanks
  if digits.isEmpty then return none
  else
    let n := digits.foldl (fun n c => 10 * n + (c.toNat - 48)) 0
    if n < Nat.pow 2 32 then return some n else failure

/-- The character of a code point. -/
def charOf (n : Nat) : Reads Char :=
  if n.isValidChar then return Char.ofNat n else failure

/-- The code point after `\x`, `\u` or `\U`, which take two, four or eight digits or any number of
them in braces. Two digits stand for a byte outside Unicode, where only ASCII is a character. -/
def hexChar (f : Flags) (count : Nat) : Reads Char := do
  blanks f
  if (← peek?) == some '\x7b' then
    skip 1
    let digits ← many do
      blanks f
      let c ← next
      if c == '\x7d' then return none
      else if (Text.hexValue? c).isSome then return some c
      else failure
    if digits.isEmpty then failure
    else charOf (CharSet.hexNumber digits)
  else
    let digits ← (List.range count).mapM fun _ => do
      blanks f
      let c ← next
      if (Text.hexValue? c).isSome then return c else failure
    let code := CharSet.hexNumber digits
    if count = 2 ∧ 128 ≤ code ∧ !f.unicode then failure else charOf code

/-! ## Classes and escapes -/

/-- Adds what differs by case alone, if case is ignored. -/
def withCase (f : Flags) (s : CharSet) : CharSet :=
  if !f.ignoreCase then s else if f.unicode then s.foldCase else s.foldAsciiCase

/-- Negates a class. Outside Unicode that would match parts of characters, so it is refused. -/
def withNegation (f : Flags) (negated : Bool) (s : CharSet) : Reads CharSet :=
  if !negated then return s
  else if f.unicode then return s.complement
  else failure

/-- The name of a class after `\p`: a letter, or anything in braces. -/
def className (f : Flags) : Reads (List Char) := do
  blanks f
  if (← peek?) == some '\x7b' then
    skip 1
    many do
      blanks f
      let c ← next
      return if c == '\x7d' then none else some c
  else
    let c ← next
    if c == '\\' then failure else return [c]

/-- Splits at the first place where a text stands. -/
def cut? (mark : List Char) : List Char → Option (List Char × List Char)
  | [] => none
  | c :: rest =>
    if mark.isPrefixOf (c :: rest) then some ([], (c :: rest).drop mark.length)
    else (cut? mark rest).map fun (before, after) => (c :: before, after)

/-- The set of a class name, and whether the name negates it: a property alone, or a property and
its value joined by `=`, `:` or, for what has another value, `!=`. -/
def classOfName (name : List Char) : Option (CharSet × Bool) :=
  match cut? ['!', '='] name with
  | some (property, value) => (namedValue? property value).map fun s => (s, true)
  | none =>
    match (cut? [':'] name).or (cut? ['='] name) with
    | some (property, value) => (namedValue? property value).map fun s => (s, false)
    | none => (namedSet? name).map fun s => (s, false)

/-- What an escape stands for. -/
inductive Escape where
  | char (c : Char)
  | set (s : CharSet)
  | assertion (a : Assertion)

/-- The word boundary in braces after `\b`, if a letter follows the brace. -/
def namedBoundary? (f : Flags) : Reads (Option Assertion) := do
  let isNameChar (c : Char) := c.isAlpha || c == '-'
  let start := (← get).rest
  if start.head? != some '\x7b' then return none
  else
    skip 1
    blanks f
    match ← peek? with
    | none => failure
    | some c =>
      if !isNameChar c then
        modify fun s => { s with rest := start }
        return none
      else
        let name ← many do
          match ← peek? with
          | some c => if isNameChar c then skip 1; blanks f; return some c else return none
          | none => return none
        expect '\x7d'
        match String.ofList name with
        | "start" => return some .wordStart
        | "end" => return some .wordEnd
        | "start-half" => return some .wordStartHalf
        | "end-half" => return some .wordEndHalf
        | _ => failure

/-- The escape after a backslash. -/
def escape (f : Flags) : Reads Escape := do
  let c ← next
  match c with
  | 'd' => return .set (if f.unicode then digitSet else asciiDigitSet)
  | 's' => return .set (if f.unicode then blankSet else asciiBlankSet)
  | 'w' => return .set (if f.unicode then wordSet else asciiWordSet)
  | 'D' => return .set (← withNegation f true digitSet)
  | 'S' => return .set (← withNegation f true blankSet)
  | 'W' => return .set (← withNegation f true wordSet)
  | 'p' | 'P' =>
    match classOfName (← className f), f.unicode with
    | some (s, negated), true =>
      return .set (← withNegation f (negated != (c == 'P')) (withCase f s))
    | _, _ => failure
  | 'x' => return .char (← hexChar f 2)
  | 'u' => return .char (← hexChar f 4)
  | 'U' => return .char (← hexChar f 8)
  | 'a' => return .char '\x07'
  | 'f' => return .char '\x0c'
  | 't' => return .char '\t'
  | 'n' => return .char '\n'
  | 'r' => return .char '\r'
  | 'v' => return .char '\x0b'
  | 'A' => return .assertion .textStart
  | 'z' => return .assertion .textEnd
  | 'B' => return .assertion .notWordBoundary
  | '<' => return .assertion .wordStart
  | '>' => return .assertion .wordEnd
  | 'b' => return .assertion ((← namedBoundary? f).getD .wordBoundary)
  | _ => if c.toNat < 128 && !c.isAlphanum then return .char c else failure

/-! ## Sets in brackets -/

/-- A named ASCII class such as `[:alpha:]` inside a set; the bracket is left alone if there is
none. -/
def asciiClassHere? (f : Flags) : Reads (Option CharSet) := do
  let start := (← get).rest
  let giveUp : Reads (Option CharSet) := do
    modify fun s => { s with rest := start }
    return none
  if !(← accept "[:") then return none
  else
    let negated ← accept "^"
    let name := (← get).rest.takeWhile (· != ':')
    skip name.length
    if ← accept ":]" then
      match asciiClass? name with
      | some s => return some (← withNegation f negated (withCase f s))
      | none => giveUp
    else giveUp

/-- A character or a class in a set. -/
def setItem (f : Flags) : Reads Escape := do
  let c ← next
  if c == '\\' then escape f else return .char c

/-- A character for a set; beyond ASCII only in Unicode. -/
def setChar (f : Flags) (c : Char) : Reads Char :=
  if f.unicode || c.toNat < 128 then return c else failure

/-- The next character that counts. A comment is looked into here: its first character counts. -/
def peekAfterBlanks? (f : Flags) (cs : List Char) : Option Char :=
  if !f.spaced then cs.head?
  else
    match cs.dropWhile Text.isBlank with
    | '#' :: comment => (comment.dropWhile Text.isBlank).head?
    | rest => rest.head?

/-- A range, a character or a class in a set. -/
def setRange (f : Flags) : Reads CharSet := do
  let first ← setItem f
  blanks f
  if (← get).rest.isEmpty then failure
  let rest := (← get).rest
  let after := peekAfterBlanks? f (rest.drop 1)
  if rest.head? != some '-' || after == some ']' || after == some '-' then
    match first with
    | .char c => return withCase f (CharSet.single (← setChar f c))
    | .set s => return s
    | .assertion _ => failure
  else
    let _ ← nextInside f
    match first, ← setItem f with
    | .char a, .char b =>
      let a ← setChar f a
      let b ← setChar f b
      if a ≤ b then return withCase f (CharSet.range a b) else failure
    | _, _ => failure

/-- The set operations. -/
def setOperation? : Reads (Option (CharSet → CharSet → CharSet)) := do
  if ← accept "&&" then return some CharSet.inter
  else if ← accept "--" then return some CharSet.diff
  else if ← accept "~~" then return some CharSet.symmDiff
  else return none

/-- The hyphens that a set may start with, or the bracket that may stand first. -/
def setOpening (f : Flags) : Reads (List CharSet) := do
  let hyphens ← many do
    if (← peek?) == some '-' then
      let _ ← nextInside f
      return some (CharSet.single '-')
    else return none
  if hyphens.isEmpty && (← peek?) == some ']' then
    let _ ← nextInside f
    return [CharSet.single ']']
  else return hyphens

/-- One step inside a set: an item joins the running union, an operation closes it. -/
inductive SetStep where
  | item (s : Nested CharSet)
  | operation (op : CharSet → CharSet → CharSet)

/-- The union of items; two or more make a level. -/
def unite (items : List (Nested CharSet)) : Nested CharSet :=
  Nested.level (items.foldl (fun s item => item.value.union s) CharSet.empty) items

/-- Applies the operation that waits for its second argument, if there is one. -/
def operate (waiting : Option (Nested CharSet × (CharSet → CharSet → CharSet)))
    (items : List (Nested CharSet)) : Nested CharSet :=
  match waiting, unite items with
  | none, right => right
  | some (left, op), right => ⟨op left.value right.value, max left.depth right.depth + 1⟩

/-- Applies the operations of a set from left to right. -/
def combine (waiting : Option (Nested CharSet × (CharSet → CharSet → CharSet)))
    (items : List (Nested CharSet)) : List SetStep → Nested CharSet
  | [] => operate waiting items
  | .item s :: steps => combine waiting (s :: items) steps
  | .operation op :: steps => combine (some (operate waiting items, op)) [] steps

/-- A set after its opening bracket, with no more than `room` levels of brackets. -/
def bracketed (f : Flags) : (room : Nat) → Reads (Nested CharSet)
  | 0 => failure
  | room + 1 => do
    blanks f
    if (← get).rest.isEmpty then failure
    let negated := (← peek?) == some '^'
    if negated then
      let _ ← nextInside f
    let opening ← setOpening f
    let steps ← many do
      blanks f
      match ← peek? with
      | none => failure
      | some ']' => skip 1; return none
      | some '[' =>
        match ← asciiClassHere? f with
        | some s => return some (.item ⟨s, 0⟩)
        | none => skip 1; return some (.item (← bracketed f room))
      | some _ =>
        match ← setOperation? with
        | some op => return some (.operation op)
        | none => return some (.item ⟨← setRange f, 0⟩)
    let ⟨s, depth⟩ := combine none (opening.map (⟨·, 0⟩)) steps
    return ⟨← withNegation f negated s, depth + 1⟩

/-! ## Flags and groups -/

/-- Changes one setting. -/
def setFlag (f : Flags) (on : Bool) : Char → Option Flags
  | 'i' => some { f with ignoreCase := on }
  | 'm' => some { f with multiLine := on }
  | 's' => some { f with dotAll := on }
  | 'U' => some { f with swapGreed := on }
  | 'u' => some { f with unicode := on }
  | 'R' => some { f with crlf := on }
  | 'x' => some { f with spaced := on }
  | _ => none

/-- Applies written flags; after a hyphen they are switched off. Each stands once. -/
def applyFlags (f : Flags) (on : Bool) (seen : List Char) : List Char → Option Flags
  | [] => if seen.head? == some '-' then none else some f
  | c :: rest =>
    if seen.contains c then none
    else if c == '-' then applyFlags f false (c :: seen) rest
    else (setFlag f on c).bind fun f => applyFlags f on (c :: seen) rest

/-- The flags before the `:` or `)` of a group, and whether a pattern follows. -/
def groupFlags (f : Flags) : Reads (Flags × Bool) := do
  let written := (← get).rest.takeWhile fun c => c != ':' && c != ')'
  skip written.length
  let stop ← next
  match applyFlags f true [] written with
  | some f => if stop == ')' && written.isEmpty then failure else return (f, stop == ':')
  | none => failure

/-- The name of a group and its closing angle; no two groups share one. -/
def groupName : Reads Unit := do
  let name := (← get).rest.takeWhile (· != '>')
  skip name.length
  expect '>'
  let isFirst (c : Char) := c == '_' || Text.isLetter c
  let isOther (c : Char) :=
    c == '_' || c == '.' || c == '[' || c == ']' || Text.isLetter c || Text.isNumeral c
  match name with
  | [] => failure
  | c :: rest =>
    if isFirst c && rest.all isOther && !(← get).names.contains name then
      modify fun s => { s with names := name :: s.names }
    else failure

/-- What an opening parenthesis starts. -/
inductive Opening where
  /-- A group, under these settings, and whether it keeps what it matched. -/
  | group (f : Flags) (kept : Bool)
  /-- New settings for the rest of the group around it. -/
  | settings (f : Flags)

/-- What follows an opening parenthesis. -/
def opening (f : Flags) : Reads Opening := do
  blanks f
  let rest := (← get).rest
  if ["?=", "?!", "?<=", "?<!"].any fun look => look.toList.isPrefixOf rest then failure
  else if ← accept "?P<" then groupName; return .group f true
  else if ← accept "?<" then groupName; return .group f true
  else if ← accept "?" then
    let (f, pattern) ← groupFlags f
    return if pattern then .group f false else .settings f
  else return .group f true

/-! ## Patterns -/

/-- The characters that `.` matches. -/
def dotSet (f : Flags) : CharSet :=
  if f.dotAll then CharSet.all
  else if f.crlf then (CharSet.ofRanges [(10, 10), (13, 13)]).complement
  else (CharSet.single '\n').complement

/-- An assertion under the settings. -/
def assertion (f : Flags) (a : Assertion) : Pattern :=
  .assert a (if f.unicode then wordSet else asciiWordSet)

/-- What `^` asserts under the settings. -/
def startAssertion (f : Flags) : Assertion :=
  if !f.multiLine then .textStart else if f.crlf then .crlfLineStart else .lineStart

/-- What `$` asserts under the settings. -/
def endAssertion (f : Flags) : Assertion :=
  if !f.multiLine then .textEnd else if f.crlf then .crlfLineEnd else .lineEnd

/-- A pattern for one character. -/
def charPattern (f : Flags) (c : Char) : Pattern := .set (withCase f (CharSet.single c))

/-- The least and the greatest count in braces. -/
def counts (f : Flags) : Reads (Nat × Option Nat) := do
  blanks f
  if (← get).rest.isEmpty then failure
  let first ← number? f
  match ← peek? with
  | some ',' =>
    let _ ← nextInside f
    if (← peek?) == some '\x7d' then
      match first with
      | some n => return (n, none)
      | none => failure
    else
      match first, ← number? f with
      | some n, some m => if n ≤ m then return (n, some m) else failure
      | _, _ => failure
  | _ =>
    match first with
    | some n => return (n, some n)
    | none => failure

/-- One part of a concatenation on its way into a pattern: `none` stands for new settings, which
cannot be repeated. -/
abbrev Part := Nested (Option Pattern)

/-- The alternatives read so far, in reverse, the parts of the current one, in reverse, and the
settings from here on. -/
structure Progress where
  alternatives : List (Nested Pattern)
  parts : List Part
  flags : Flags

/-- The concatenation of parts in reverse. -/
def concatenate (parts : List Part) : Nested Pattern :=
  let join (rest : Pattern) (part : Part) : Pattern :=
    match part.value, rest with
    | none, rest => rest
    | some p, .empty => p
    | some p, rest => .seq p rest
  Nested.level (parts.foldl join .empty) parts

/-- Closes the current alternative. -/
def Progress.close (g : Progress) : Progress :=
  { g with alternatives := concatenate g.parts :: g.alternatives, parts := [] }

/-- All alternatives, the first preferred. -/
def Progress.result (g : Progress) : Nested Pattern :=
  match g.close.alternatives with
  | [] => ⟨.empty, 0⟩
  | last :: before =>
    Nested.level (before.foldl (fun rest p => .alt p.value rest) last.value) (last :: before)

/-- Repeats the last part; a `?` after the operator changes its greed. -/
def repeatLast (g : Progress) (min : Nat) (max : Option Nat) : Reads Progress := do
  let lazy := (← peek?) == some '?'
  if lazy then skip 1
  match g.parts with
  | ⟨some p, depth⟩ :: parts =>
    let repeated := p.times min max (lazy == g.flags.swapGreed)
    return { g with parts := ⟨some repeated, depth + 1⟩ :: parts }
  | _ => failure

def Progress.add (g : Progress) (p : Pattern) (depth : Nat) : Progress :=
  { g with parts := ⟨some p, depth⟩ :: g.parts }

/-- Goes on until `step` gives nothing; it must take a character each time. -/
def iterate (step : σ → Reads (Option σ)) (start : σ) : Reads σ := fun s =>
  go (s.rest.length + 1) start s
where
  go : Nat → σ → Source → Option (σ × Source)
    | 0, _, _ => none
    | fuel + 1, a, s =>
      match step a s with
      | none => none
      | some (none, s) => some (a, s)
      | some (some b, s) => go fuel b s

/-- Reads one part of a pattern, or finds its end: the parenthesis that closes the group, or the end
of the text outside of all groups. A group in it is read by `group`, a set by `set`. -/
def part (outermost : Bool) (group : Flags → Reads (Nested Pattern))
    (set : Flags → Reads (Nested CharSet)) (g : Progress) : Reads (Option Progress) := do
  let f := g.flags
  blanks f
  match ← peek? with
  | none => if outermost then return none else failure
  | some c =>
    skip 1
    match c with
    | ')' => if outermost then failure else return none
    | '|' => return some g.close
    | '(' =>
      match ← opening f with
      | .settings f => return some { g with parts := ⟨none, 0⟩ :: g.parts, flags := f }
      | .group f kept =>
        let ⟨p, depth⟩ ← group f
        return some (g.add (if kept then .group p else p) (depth + 1))
    | '[' =>
      let ⟨s, depth⟩ ← set f
      return some (g.add (.set s) depth)
    | '?' => return some (← repeatLast g 0 (some 1))
    | '*' => return some (← repeatLast g 0 none)
    | '+' => return some (← repeatLast g 1 none)
    | '\x7b' =>
      let (min, max) ← counts f
      expect '\x7d'
      blanks f
      return some (← repeatLast g min max)
    | '\\' =>
      match ← escape f with
      | .char c => return some (g.add (charPattern f c) 0)
      | .set s => return some (g.add (.set s) 0)
      | .assertion a => return some (g.add (assertion f a) 0)
    | '.' => if f.unicode then return some (g.add (.set (dotSet f)) 0) else failure
    | '^' => return some (g.add (assertion f (startAssertion f)) 0)
    | '$' => return some (g.add (assertion f (endAssertion f)) 0)
    | c => return some (g.add (charPattern f c) 0)

/-- Alternatives up to the end of their group, with no more than `room` levels of groups. -/
def alternatives (outermost : Bool) : (room : Nat) → (f : Flags) → Reads (Nested Pattern)
  | 0, _ => failure
  | room + 1, f => do
    let next := part outermost (alternatives false room) (bracketed · room)
    let g ← iterate next ⟨[], [], f⟩
    return g.result

end Reads

/-- Groups, repetitions, sets, and whatever has two parts or more are nested no deeper than this. -/
def maxNesting : Nat := 250

/-- Reads a pattern under initial settings. -/
def Pattern.ofText? (f : Flags) (text : String) : Option Pattern := do
  let (⟨p, depth⟩, _) ← (Reads.alternatives true (maxNesting + 1) f).run ⟨text.toList, []⟩
  if depth ≤ maxNesting then some p else none

/-- The program of a written pattern, if the text is one and the program is not too large. -/
def Program.ofText? (f : Flags) (text : String) : Option Program := do
  let p ← Pattern.ofText? f text
  if p.fits then some (Program.ofPattern p) else none

end JsonPath.Regex

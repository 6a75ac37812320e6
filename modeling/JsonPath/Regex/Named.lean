import JsonPath.Regex.Age
import JsonPath.Regex.Boundary
import JsonPath.Regex.CaseOrbit
import JsonPath.Regex.ScriptExtension
import JsonPath.Text.CharClass

/-!
# Named sets of characters

The classes that patterns name: by Unicode property, general category or script, and the classes of
ASCII characters. Names are compared without regard to case, spaces, underscores and hyphens, and
an `is` before a name does not count.

The names and the sets are those of Unicode 16, and it is assumed that the engine knows the same.
-/

namespace JsonPath.Regex

/-- A name as the tables have it. The short name `isc` is a name of its own, not that of the
category `c`. -/
def normalizeName (name : List Char) : String :=
  let plain (cs : List Char) : List Char :=
    (cs.filter fun c => c != ' ' && c != '_' && c != '-' && c.toNat < 128).map Char.toLower
  match name with
  | i :: s :: rest =>
    if i.toLower == 'i' && s.toLower == 's' then
      if plain rest == ['c'] then "isc" else String.ofList (plain rest)
    else String.ofList (plain name)
  | _ => String.ofList (plain name)

/-- A set by a name alone: a property, else a category, else a script. -/
def namedSet? (name : List Char) : Option CharSet :=
  let name := normalizeName name
  ((property? name).or (category? name)).or (script? name)

/-- A set by the name of a property and the name of a value of it. -/
def namedValue? (property value : List Char) : Option CharSet :=
  let value := normalizeName value
  match normalizeName property with
  | "gc" | "generalcategory" => category? value
  | "sc" | "script" => script? value
  | "scx" | "scriptextensions" => scriptExtension? value
  | "age" => age? value
  | "gcb" | "graphemeclusterbreak" => graphemeBreak? value
  | "wb" | "wordbreak" => wordBreak? value
  | "sb" | "sentencebreak" => sentenceBreak? value
  | _ => none

/-- Decimal digits of all scripts. -/
def digitSet : CharSet := categories ["nd"]

/-- Blanks, as between the tokens of an expression. -/
def blankSet : CharSet := CharSet.ofRanges ([(9, 13), (32, 32)] ++ Text.blankRanges)

/-- Characters of words: alphabetic ones, marks, decimal digits, connectors and joiners. -/
def wordSet : CharSet :=
  (alphabetic.union (categories ["mn", "mc", "me", "nd", "pc"])).union (basicProperty "joinc")

def asciiDigitSet : CharSet := ⟨[(48, 57)]⟩
def asciiBlankSet : CharSet := ⟨[(9, 13), (32, 32)]⟩
def asciiWordSet : CharSet := ⟨[(48, 57), (65, 90), (95, 95), (97, 122)]⟩

/-- The classes of ASCII characters that a bracket expression names. -/
def asciiClass? (name : List Char) : Option CharSet :=
  match String.ofList name with
  | "alnum" => some ⟨[(48, 57), (65, 90), (97, 122)]⟩
  | "alpha" => some ⟨[(65, 90), (97, 122)]⟩
  | "ascii" => some ⟨[(0, 127)]⟩
  | "blank" => some ⟨[(9, 9), (32, 32)]⟩
  | "cntrl" => some ⟨[(0, 31), (127, 127)]⟩
  | "digit" => some asciiDigitSet
  | "graph" => some ⟨[(33, 126)]⟩
  | "lower" => some ⟨[(97, 122)]⟩
  | "print" => some ⟨[(32, 126)]⟩
  | "punct" => some ⟨[(33, 47), (58, 64), (91, 96), (123, 126)]⟩
  | "space" => some asciiBlankSet
  | "upper" => some ⟨[(65, 90)]⟩
  | "word" => some asciiWordSet
  | "xdigit" => some ⟨[(48, 57), (65, 70), (97, 102)]⟩
  | _ => none

/-! ## Case -/

/-- The orbits as lists of code points. -/
def caseOrbits : List (List Nat) :=
  let parts (mark : Char) (cs : List Char) : List (List Char) :=
    (cs.splitBy fun a b => a != mark && b != mark).filter (· != [mark])
  (parts ' ' caseOrbitText.toList).map fun word => (parts '-' word).map CharSet.hexNumber

/-- Adds to a set all characters that differ from one in it by case alone. -/
def CharSet.foldCase (s : CharSet) : CharSet :=
  s.union <| CharSet.ofRanges <|
    (caseOrbits.filter fun orbit => orbit.any (Text.inRanges s.ranges)).flatMap fun orbit =>
      orbit.map fun n => (n, n)

/-- The same for ASCII letters alone. -/
def CharSet.foldAsciiCase (s : CharSet) : CharSet :=
  s.union <| CharSet.ofRanges <|
    ((List.range 26).filter fun i =>
      Text.inRanges s.ranges (65 + i) || Text.inRanges s.ranges (97 + i)).flatMap fun i =>
      [(65 + i, 65 + i), (97 + i, 97 + i)]

end JsonPath.Regex

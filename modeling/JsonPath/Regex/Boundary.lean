import JsonPath.Regex.DerivedProperty
import JsonPath.Regex.Script

/-!
# Text boundaries

Unicode sorts characters by how graphemes, words and sentences break around them. These classes are
made of categories, properties and scripts, with some characters singled out. A character that is
in none of the classes of one sort breaks on both sides.
-/

namespace JsonPath.Regex

/-! ## Graphemes -/

/-- Characters that go with the one before them. -/
def graphemeExtenders : CharSet := graphemeExtend.union (basicProperty "emod")

/-- Characters that go with the one after them. -/
def graphemePrefixes : CharSet :=
  (basicProperty "pcm").union <|
    CharSet.ofText "d4e 111c2-111c3 113d1 1193f 11941 11a3a 11a84-11a89 11d46 11f02"

def graphemeControls : CharSet :=
  ((categories ["zl", "zp", "cc", "cf"]).union (unassigned.inter defaultIgnorable)).diff <|
    (graphemeExtenders.union (basicProperty "pcm")).union (CharSet.ofText "a d 200d")

/-- Marks that take up room, but for those that start a grapheme. -/
def graphemeSpacingMarks : CharSet :=
  ((categories ["mc"]).union (CharSet.ofText "e33 eb3")).diff <|
    graphemeExtenders.union <| CharSet.ofText <|
      "102b-102c 1038 1062-1064 1067-106d 1083 1087-108c 108f 109a-109c 1a61 1a63-1a64 aa7b" ++
      " aa7d 11720-11721"

/-- The Hangul syllables of two letters, which stand before those that have a third. -/
def hangulPairs : CharSet :=
  ⟨(List.range 399).map fun i => let n := 0xAC00 + 28 * i; (n, n)⟩

/-- A class of characters at the boundaries of graphemes, by name. -/
def graphemeBreak? (name : String) : Option CharSet :=
  match name with
  | "cr" => some (CharSet.ofText "d")
  | "lf" => some (CharSet.ofText "a")
  | "zwj" => some (CharSet.ofText "200d")
  | "cn" | "control" => some graphemeControls
  | "ex" | "extend" => some graphemeExtenders
  | "pp" | "prepend" => some graphemePrefixes
  | "sm" | "spacingmark" => some graphemeSpacingMarks
  | "ri" | "regionalindicator" => some (basicProperty "ri")
  | "l" => some (CharSet.ofText "1100-115f a960-a97c")
  | "v" => some (CharSet.ofText "1160-11a7 d7b0-d7c6 16d63 16d67-16d6a")
  | "t" => some (CharSet.ofText "11a8-11ff d7cb-d7fb")
  | "lv" => some hangulPairs
  | "lvt" => some ((CharSet.ofText "ac00-d7a3").diff hangulPairs)
  | _ => none

/-! ## Words -/

def wordKatakana : CharSet :=
  ((script? "kana").getD CharSet.empty).union (CharSet.ofText "3031-3035 309b-309c 30a0 30fc ff70")

def hebrewLetters : CharSet :=
  ((script? "hebr").getD CharSet.empty).inter (categories ["lo"])

def wordExtenders : CharSet := graphemeExtenders.union (categories ["mc"])

/-- The letters of scripts that are written without spaces and take a dictionary to divide. -/
def dictionaryLetters : CharSet := CharSet.ofText <|
    "e01-e30 e32-e33 e40-e46 e81-e82 e84 e86-e8a e8c-ea3 ea5 ea7-eb0 eb2-eb3 ebd ec0-ec4 ec6" ++
    " edc-edf 1000-102a 103f 1050-1055 105a-105d 1061 1065-1066 106e-1070 1075-1081 108e" ++
    " 1780-17b3 17d7 17dc 1950-196d 1970-1974 1980-19ab 19b0-19c9 1a20-1a54 1aa7 a9e0-a9e4" ++
    " a9e6-a9ef a9fa-a9fe aa60-aa76 aa7a aa7e-aaaf aab1 aab5-aab6 aab9-aabd aac0 aac2 aadb-aadd" ++
    " 11700-1171a 11740-11746"

/-- Letters of words, and the modifiers and punctuation that count as such. Ideographs, kana and the
letters that take a dictionary do not. -/
def wordLetters : CharSet :=
  (alphabetic.union <| CharSet.ofText <|
    "b8 2c2-2c5 2d2-2d7 2de-2df 2e5-2eb 2ed 2ef-2ff 55a-55c 55e 58a 5f3 70f a708-a716 a720-a721" ++
    " a789-a78a ab5b").diff <|
    (((basicProperty "ideo").union wordKatakana).union
      ((script? "hira").getD CharSet.empty)).union
    ((dictionaryLetters.union wordExtenders).union hebrewLetters)

/-- Digits, the Arabic decimal separator, and the signs that stand before numbers. -/
def wordNumerals : CharSet :=
  ((categories ["nd"]).union ((basicProperty "pcm").diff (CharSet.ofText "70f"))).union
    (CharSet.ofText "66b 19da")

/-- Format characters but for the joiners and the signs that stand before other characters. -/
def formatCharacters : CharSet :=
  (categories ["cf"]).diff <|
    (graphemeExtend.union (basicProperty "pcm")).union (CharSet.ofText "200c-200d")

/-- A class of characters at the boundaries of words, by name. -/
def wordBreak? (name : String) : Option CharSet :=
  match name with
  | "cr" => some (CharSet.ofText "d")
  | "lf" => some (CharSet.ofText "a")
  | "nl" | "newline" => some (CharSet.ofText "b-c 85 2028-2029")
  | "zwj" => some (CharSet.ofText "200d")
  | "extend" => some wordExtenders
  | "fo" | "format" => some (formatCharacters.diff (CharSet.ofText "200b"))
  | "ka" | "katakana" => some wordKatakana
  | "hl" | "hebrewletter" => some hebrewLetters
  | "le" | "aletter" => some wordLetters
  | "nu" | "numeric" => some wordNumerals
  | "dq" | "doublequote" => some (CharSet.ofText "22")
  | "sq" | "singlequote" => some (CharSet.ofText "27")
  | "mb" | "midnumlet" => some (CharSet.ofText "2e 2018-2019 2024 fe52 ff07 ff0e")
  | "ml" | "midletter" => some (CharSet.ofText "3a b7 387 55f 5f4 2027 fe13 fe55 ff1a")
  | "mn" | "midnum" =>
    some <| CharSet.ofText
      "2c 3b 37e 589 60c-60d 66c 7f8 2044 fe10 fe14 fe50 fe54 ff0c ff1b"
  | "ex" | "extendnumlet" => some ((categories ["pc"]).union (CharSet.ofText "202f"))
  | "wsegspace" => some ((categories ["zs"]).diff (CharSet.ofText "a0 2007 202f"))
  | "ri" | "regionalindicator" => some (basicProperty "ri")
  | _ => none

/-! ## Sentences -/

/-- The Georgian letters, which have case but do not start sentences by it. -/
def georgianLetters : CharSet := CharSet.ofText "10d0-10fa 10fd-10ff 1c90-1cba 1cbd-1cbf"

def sentenceLower : CharSet := lowercase.diff (graphemeExtend.union georgianLetters)

def sentenceUpper : CharSet := (uppercase.union (categories ["lt"])).diff georgianLetters

def sentenceExtenders : CharSet :=
  (graphemeExtend.union (categories ["mc"])).union (CharSet.ofText "200d")

def fullStops : CharSet := CharSet.ofText "2e 2024 fe52 ff0e"

/-- A class of characters at the boundaries of sentences, by name. -/
def sentenceBreak? (name : String) : Option CharSet :=
  match name with
  | "cr" => some (CharSet.ofText "d")
  | "lf" => some (CharSet.ofText "a")
  | "se" | "sep" => some (CharSet.ofText "85 2028-2029")
  | "sp" => some ((basicProperty "wspace").diff (CharSet.ofText "a d 85 2028-2029"))
  | "ex" | "extend" => some sentenceExtenders
  | "fo" | "format" => some (formatCharacters.union (CharSet.ofText "70f"))
  | "lo" | "lower" => some sentenceLower
  | "up" | "upper" => some sentenceUpper
  | "le" | "oletter" =>
    some <| (alphabetic.union (CharSet.ofText "5f3")).diff <|
      (sentenceLower.union sentenceUpper).union sentenceExtenders
  | "nu" | "numeric" => some (wordNumerals.union (CharSet.ofText "66c"))
  | "at" | "aterm" => some fullStops
  | "st" | "sterm" => some ((basicProperty "sterm").diff fullStops)
  | "sc" | "scontinue" =>
    some <| CharSet.ofText <|
      "2c-2d 3a-3b 37e 55d 60c-60d 7f8 1802 1808 2013-2014 3001 fe10-fe11 fe13-fe14 fe31-fe32" ++
      " fe50-fe51 fe54-fe55 fe58 fe63 ff0c-ff0d ff1a-ff1b ff64"
  | "cl" | "close" =>
    some <| (categories ["ps", "pe", "pi", "pf"]).union <|
      CharSet.ofText "22 27 275b-2760 2e00-2e01 2e06-2e08 2e0b 1f676-1f678"
  | _ => none

end JsonPath.Regex

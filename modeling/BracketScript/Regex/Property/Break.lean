import BracketScript.Regex.Property.Binary
import BracketScript.Regex.Property.Script

/-!
# Boundaries in texts

Where a text may be cut into what readers take for characters, into words and into sentences depends
on three properties of its characters. Most of their values are derived from other properties.

## Main definitions

* `Property.graphemeBreakNamed?`, `Property.wordBreakNamed?`, `Property.sentenceBreakNamed?`: the
  characters with a value of these properties, by its name
-/

namespace BracketScript.Regex.Property

/-- The values that decide on boundaries of characters and are given by a table. -/
def graphemeBreaks : List Entry := [
  ⟨["cr"], "d 1"⟩,
  ⟨["lf"], "a 1"⟩,
  ⟨["l"], "1100 60 9800 1d"⟩,
  ⟨["v"], "1160 48 c608 17 959c 1 3 4"⟩,
  ⟨["t"], "11a8 58 c5cb 31"⟩,
  ⟨["prepend", "pp"],
    "600 6 d7 1 31 1 180 2 50 1 46b 1 1036e 1 f 1 f4 2 20d 1 56d 1 1 1 f8 1 49 6 2bc 1 1bb 1"⟩,
  ⟨["regionalindicator", "ri"], "1f1e6 1a"⟩,
  ⟨["zwj"], "200d 1"⟩]

/-- The values that decide on boundaries of words and are given by a table. -/
def wordBreaks : List Entry := [
  ⟨["cr"], "d 1"⟩,
  ⟨["lf"], "a 1"⟩,
  ⟨["newline", "nl"], "b 2 78 1 1fa2 2"⟩,
  ⟨["doublequote", "dq"], "22 1"⟩,
  ⟨["singlequote", "sq"], "27 1"⟩,
  ⟨["katakana", "ka"],
    "3031 5 65 2 3 5b 1 4 f0 10 d0 2f 1 58 cc0e 38 b052 4 1 7 1 2 1 1 11f 3 32 1 e 4"⟩,
  ⟨["hebrewletter", "hl"], "5d0 1b 4 4 f52a 1 1 a 1 d 1 5 1 1 1 2 1 2 1 a"⟩,
  ⟨["extendnumlet", "ex"], "5f 1 1fcf 1 f 2 13 1 ddde 2 18 3 ef 1"⟩,
  ⟨["midletter", "ml"], "3a 1 7c 1 2cf 1 1d7 1 94 1 1a32 1 ddeb 1 41 1 c4 1"⟩,
  ⟨["midnum", "mn"], "2c 1 e 1 342 1 20a 1 82 2 5e 1 18b 1 184b 1 ddcb 1 3 1 3b 1 3 1 b7 1 e 1"⟩,
  ⟨["midnumlet", "mb"], "2e 1 1fe9 2 a 1 de2d 1 b4 1 6 1"⟩,
  ⟨["wsegspace"], "20 1 165f 1 97f 7 1 3 54 1 fa0 1"⟩,
  ⟨["regionalindicator", "ri"], "1f1e6 1a"⟩,
  ⟨["zwj"], "200d 1"⟩]

/-- The values that decide on boundaries of sentences and are given by a table. -/
def sentenceBreaks : List Entry := [
  ⟨["cr"], "d 1"⟩,
  ⟨["lf"], "a 1"⟩,
  ⟨["sep", "se"], "85 1 1fa2 2"⟩,
  ⟨["aterm", "at"], "2e 1 1ff5 1 de2d 1 bb 1"⟩,
  ⟨["scontinue", "sc"],
    "2c 2 c 1 522 1 ae 2 1ea 1 1009 1 5 1 80a 2 fec 1 ce0e 2 1 1 1d 2 1d 2 3 1 2 1 a 1 a8 2 c 1 " ++
    "49 1"⟩]

/-- The spacing marks that do not stay with the character before them. -/
def looseMarks : CharSet :=
  .ofGaps "102b 2 b 1 29 3 2 7 15 1 3 6 2 1 a 3 9c4 1 1 2 9016 1 1 1 6ca2 2"

/-- The characters that count as letters in words although they are not alphabetic. -/
def extraWordLetters : CharSet :=
  .ofGaps "2c2 4 c 6 6 2 5 7 1 1 1 11 25a 3 1 1 2b 1 68 1 a114 f 9 2 67 2 3d0 1"

/-- The letters of scripts whose words cannot be told apart by letters. -/
def splitLetters : CharSet :=
  .ofGaps ("e01 30 1 2 c 7 3a 2 1 1 1 5 1 18 1 1 1 a 1 2 9 1 2 5 1 1 15 4 120 2b 14 1 10 6 4 4 " ++
    "3 1 3 2 7 3 4 d c 1 6f1 34 23 1 4 1 173 1e 2 5 b 2c 4 1a 56 35 52 1 8f38 5 1 a a 5 61 " ++
    "17 3 1 3 32 1 1 3 2 2 5 2 1 1 1 18 3 6c22 1b 25 7")

/-- The quotation marks that close a sentence, but for those of a category of brackets. -/
def quotesThatClose : CharSet := .ofGaps "22 1 4 1 2733 6 69f 2 4 3 2 1 1c86a 3"

/-- The joiner of emoji. -/
def joiner : CharSet := .range 0x200d 0x200d

/-- The Hangul syllables that have no final consonant. -/
def openSyllables : CharSet :=
  .ofRanges ((List.range 399).map fun i => (0xac00 + 28 * i, 0xac00 + 28 * i))

/-- The characters with a value of the property for boundaries of characters. -/
def graphemeBreakNamed? (name : String) : Option CharSet :=
  match name with
  | "extend" | "ex" => some (graphemeExtend.union (table "emojimodifier"))
  | "spacingmark" | "sm" =>
    some (((category ["mc"]).diff (graphemeExtend.union looseMarks)).union
      (.ofRanges [(0xe33, 0xe33), (0xeb3, 0xeb3)]))
  | "control" | "cn" =>
    some (((category ["zl", "zp", "cc", "cf"]).union (defaultIgnorable.inter unassigned)).diff
      (.unionAll [graphemeExtend, table "prependedconcatenationmark", joiner, .single '\n',
        .single '\r']))
  | "lv" => some openSyllables
  | "lvt" => some ((CharSet.range 0xac00 0xd7a3).diff openSyllables)
  | _ => (graphemeBreaks.find? (·.names.contains name)).map Entry.set

/-- The characters that stay with the one before them in words. -/
def wordExtend : CharSet :=
  (CharSet.unionAll [graphemeExtend, category ["mc"], table "emojimodifier"]).diff joiner

/-- The characters with a tabulated value of the property for boundaries of words. -/
def wordTable (name : String) : CharSet :=
  match wordBreaks.find? (·.names.contains name) with
  | some e => e.set
  | none => .empty

/-- The characters of a script. -/
def scriptTable (name : String) : CharSet :=
  match scripts.find? (·.names.contains name) with
  | some e => e.set
  | none => .empty

/-- The characters with a value of the property for boundaries of words. -/
def wordBreakNamed? (name : String) : Option CharSet :=
  match name with
  | "extend" => some wordExtend
  | "aletter" | "le" =>
    some ((alphabetic.diff (.unionAll [table "ideographic", scriptTable "hiragana", wordExtend,
      wordTable "katakana", wordTable "hebrewletter", splitLetters])).union extraWordLetters)
  | "format" | "fo" =>
    some ((category ["cf"]).diff (.unionAll [graphemeExtend, joiner, .range 0x200b 0x200b]))
  | "numeric" | "nu" => some ((category ["nd"]).union (.range 0x66b 0x66b))
  | _ => (wordBreaks.find? (·.names.contains name)).map Entry.set

/-- The characters that stay with the one before them in sentences. -/
def sentenceExtend : CharSet := .unionAll [graphemeExtend, category ["mc"], joiner]

/-- The letters in upper case, as sentences take them: the Georgian capitals start none. -/
def sentenceUpper : CharSet :=
  (uppercase.union (category ["lt"])).diff (.ofRanges [(0x1c90, 0x1cba), (0x1cbd, 0x1cbf)])

/-- The letters in lower case, as sentences take them: the Georgian letters have no case here. -/
def sentenceLower : CharSet :=
  lowercase.diff (.unionAll [graphemeExtend, .range 0x10d0 0x10fa, .range 0x10fd 0x10ff])

/-- The characters with a value of the property for boundaries of sentences. -/
def sentenceBreakNamed? (name : String) : Option CharSet :=
  match name with
  | "extend" | "ex" => some sentenceExtend
  | "upper" | "up" => some sentenceUpper
  | "lower" | "lo" => some sentenceLower
  | "oletter" | "le" =>
    some ((alphabetic.union (.range 0x5f3 0x5f3)).diff
      (.unionAll [sentenceUpper, sentenceLower, sentenceExtend]))
  | "format" | "fo" => some ((category ["cf"]).diff (graphemeExtend.union joiner))
  | "numeric" | "nu" => some ((category ["nd"]).union (.range 0x66b 0x66c))
  | "close" | "cl" => some ((category ["ps", "pe", "pi", "pf"]).union quotesThatClose)
  | "sterm" | "st" =>
    some ((table "sentenceterminal").diff (.ofRanges [(0x2e, 0x2e), (0x2024, 0x2024),
      (0xfe52, 0xfe52), (0xff0e, 0xff0e)]))
  | "sp" =>
    some (whiteSpace.diff (.ofRanges [(0xa, 0xa), (0xd, 0xd), (0x85, 0x85), (0x2028, 0x2029)]))
  | _ => (sentenceBreaks.find? (·.names.contains name)).map Entry.set

end BracketScript.Regex.Property

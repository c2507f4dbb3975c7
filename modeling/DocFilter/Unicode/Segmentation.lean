import DocFilter.Unicode.DerivedProperty
import DocFilter.Unicode.Script

/-!
# Text segmentation

How characters take part in dividing a text into grapheme clusters, words and sentences.  Each
division sorts characters into classes, which follow from other properties by rule; a character in
none of the classes has no part in the division.
-/

namespace DocFilter
namespace Unicode

/-- Single code points, in ascending order. -/
def codePoints (ns : List Nat) : CharClass := .table (ns.map fun n => (n, n))

/-- The characters of scripts, given by their names. -/
def inScripts (names : List String) : CharClass :=
  anyOfTables ((scripts.filter fun script => names.any script.names.contains).map (·.table))

def carriageReturn : CharClass := codePoints [0x0D]

def lineFeed : CharClass := codePoints [0x0A]

def zeroWidthNonJoiner : CharClass := codePoints [0x200C]

def zeroWidthJoiner : CharClass := codePoints [0x200D]

/-! ### Grapheme clusters -/

/-- What stays with the character before it. -/
def clusterExtend : CharClass := .union graphemeExtend (.table emojiModifier)

/-- What stays with the character after it. -/
def clusterPrepend : CharClass :=
  .union (.table prependedConcatenationMark)
    (.table [(0x0D4E, 0x0D4E), (0x111C2, 0x111C3), (0x113D1, 0x113D1), (0x1193F, 0x1193F),
      (0x11941, 0x11941), (0x11A3A, 0x11A3A), (0x11A84, 0x11A89), (0x11D46, 0x11D46),
      (0x11F02, 0x11F02)])

def clusterControl : CharClass :=
  .diff
    (.union (anyOfTables [lineSeparator, paragraphSeparator, control, format])
      (.diff defaultIgnorable assigned))
    (.unions [carriageReturn, lineFeed, zeroWidthNonJoiner, zeroWidthJoiner,
      .table prependedConcatenationMark, clusterExtend])

/-- Marks that take space and yet start no cluster.  Some marks of scripts that are written without
spaces do start one. -/
def clusterSpacingMark : CharClass :=
  .diff (.union (.table spacingMark) (codePoints [0x0E33, 0x0EB3]))
    (.union clusterExtend
      (.table [(0x102B, 0x102C), (0x1038, 0x1038), (0x1062, 0x1064), (0x1067, 0x106D),
        (0x1083, 0x1083), (0x1087, 0x108C), (0x108F, 0x108F), (0x109A, 0x109C), (0x1A61, 0x1A61),
        (0x1A63, 0x1A64), (0xAA7B, 0xAA7B), (0xAA7D, 0xAA7D), (0x11720, 0x11721)]))

/-- Syllables that have no final consonant: the first of each 28. -/
def openSyllables : CharClass := codePoints ((List.range 399).map fun i => 0xAC00 + 28 * i)

def syllables : CharClass := .table [(0xAC00, 0xD7A3)]

/-- The classes for grapheme clusters, each by its names. -/
def graphemeClusterBreaks : List (List String × CharClass) :=
  [(["cr"], carriageReturn),
   (["lf"], lineFeed),
   (["control", "cn"], clusterControl),
   (["extend", "ex"], clusterExtend),
   (["zwj"], zeroWidthJoiner),
   (["regionalindicator", "ri"], .table regionalIndicator),
   (["prepend", "pp"], clusterPrepend),
   (["spacingmark", "sm"], clusterSpacingMark),
   (["l"], .table [(0x1100, 0x115F), (0xA960, 0xA97C)]),
   (["v"], .table [(0x1160, 0x11A7), (0xD7B0, 0xD7C6), (0x16D63, 0x16D63), (0x16D67, 0x16D6A)]),
   (["t"], .table [(0x11A8, 0x11FF), (0xD7CB, 0xD7FB)]),
   (["lv"], openSyllables),
   (["lvt"], .diff syllables openSyllables)]

/-! ### Words -/

/-- What a number is written with: digits, signs before a number, and decimal separators. -/
def numeric : CharClass :=
  .union (.table decimalNumber)
    (.table [(0x0600, 0x0605), (0x066B, 0x066C), (0x06DD, 0x06DD), (0x0890, 0x0891),
      (0x08E2, 0x08E2), (0x19DA, 0x19DA), (0x110BD, 0x110BD), (0x110CD, 0x110CD)])

def wordExtend : CharClass :=
  .diff (.union graphemeExtend (anyOfTables [spacingMark, emojiModifier])) zeroWidthJoiner

def wordFormat : CharClass :=
  .diff (.table format)
    (.unions [codePoints [0x200B, 0x200C, 0x200D], clusterPrepend, wordExtend])

def wordKatakana : CharClass :=
  .union (inScripts ["katakana"])
    (.table [(0x3031, 0x3035), (0x309B, 0x309C), (0x30A0, 0x30A0), (0x30FC, 0x30FC),
      (0xFF70, 0xFF70)])

def hebrewLetter : CharClass := .inter (inScripts ["hebrew"]) (.table otherLetter)

/-- Scripts in which only a dictionary tells where a word ends. -/
def dictionaryScripts : CharClass :=
  inScripts ["ahom", "khmer", "lao", "myanmar", "newtailue", "taile", "taitham", "taiviet", "thai"]

/-- Letters of words, and signs that are part of words as letters are, as far as words do not need a
dictionary. -/
def wordLetter : CharClass :=
  .diff
    (.union alphabetic
      (.table [(0x02C2, 0x02C5), (0x02D2, 0x02D7), (0x02DE, 0x02DF), (0x02E5, 0x02EB),
        (0x02ED, 0x02ED), (0x02EF, 0x02FF), (0x055A, 0x055C), (0x055E, 0x055E), (0x058A, 0x058A),
        (0x05F3, 0x05F3), (0x070F, 0x070F), (0xA708, 0xA716), (0xA720, 0xA721), (0xA789, 0xA78A),
        (0xAB5B, 0xAB5B)]))
    (.unions [.table ideographic, wordKatakana, inScripts ["hiragana"], wordExtend, hebrewLetter,
      dictionaryScripts])

/-- The classes for words, each by its names. -/
def wordBreaks : List (List String × CharClass) :=
  [(["cr"], carriageReturn),
   (["lf"], lineFeed),
   (["newline", "nl"], codePoints [0x0B, 0x0C, 0x85, 0x2028, 0x2029]),
   (["extend"], wordExtend),
   (["zwj"], zeroWidthJoiner),
   (["regionalindicator", "ri"], .table regionalIndicator),
   (["format", "fo"], wordFormat),
   (["katakana", "ka"], wordKatakana),
   (["hebrewletter", "hl"], hebrewLetter),
   (["aletter", "le"], wordLetter),
   (["singlequote", "sq"], codePoints [0x27]),
   (["doublequote", "dq"], codePoints [0x22]),
   (["midnumlet", "mb"], codePoints [0x2E, 0x2018, 0x2019, 0x2024, 0xFE52, 0xFF07, 0xFF0E]),
   (["midletter", "ml"],
    codePoints [0x3A, 0xB7, 0x0387, 0x055F, 0x05F4, 0x2027, 0xFE13, 0xFE55, 0xFF1A]),
   (["midnum", "mn"],
    codePoints [0x2C, 0x3B, 0x037E, 0x0589, 0x060C, 0x060D, 0x066C, 0x07F8, 0x2044, 0xFE50, 0xFE54,
      0xFF0C, 0xFF1B]),
   (["numeric", "nu"], .diff numeric (codePoints [0x066C])),
   (["extendnumlet", "ex"], .union (.table connectorPunctuation) (codePoints [0x202F])),
   (["wsegspace"], .diff (.table spaceSeparator) (codePoints [0xA0, 0x2007, 0x202F]))]

/-! ### Sentences -/

def sentenceSeparator : CharClass := codePoints [0x85, 0x2028, 0x2029]

def sentenceExtend : CharClass :=
  .unions [graphemeExtend, .table spacingMark, zeroWidthJoiner]

def sentenceFormat : CharClass :=
  .diff (.table format) (.unions [zeroWidthNonJoiner, numeric, sentenceExtend])

/-- Small letters, those of a script apart whose letters have capitals for display alone. -/
def sentenceLower : CharClass :=
  .diff lowercase (.union graphemeExtend (.table [(0x10D0, 0x10FA), (0x10FD, 0x10FF)]))

/-- Capitals, those for display alone apart. -/
def sentenceUpper : CharClass :=
  .diff (.union uppercase (.table titlecaseLetter)) (.table [(0x1C90, 0x1CBA), (0x1CBD, 0x1CBF)])

def fullStop : CharClass := codePoints [0x2E, 0x2024, 0xFE52, 0xFF0E]

/-- The classes for sentences, each by its names. -/
def sentenceBreaks : List (List String × CharClass) :=
  [(["cr"], carriageReturn),
   (["lf"], lineFeed),
   (["extend", "ex"], sentenceExtend),
   (["sep", "se"], sentenceSeparator),
   (["format", "fo"], sentenceFormat),
   (["sp"], .diff (.table whiteSpace) (.unions [sentenceSeparator, carriageReturn, lineFeed])),
   (["lower", "lo"], sentenceLower),
   (["upper", "up"], sentenceUpper),
   (["oletter", "le"],
    .diff (.union alphabetic (codePoints [0x05F3]))
      (.unions [sentenceLower, sentenceUpper, sentenceExtend])),
   (["numeric", "nu"], numeric),
   (["aterm", "at"], fullStop),
   (["scontinue", "sc"],
    .table [(0x2C, 0x2D), (0x3A, 0x3B), (0x037E, 0x037E), (0x055D, 0x055D), (0x060C, 0x060D),
      (0x07F8, 0x07F8), (0x1802, 0x1802), (0x1808, 0x1808), (0x2013, 0x2014), (0x3001, 0x3001),
      (0xFE10, 0xFE11), (0xFE13, 0xFE14), (0xFE31, 0xFE32), (0xFE50, 0xFE51), (0xFE54, 0xFE55),
      (0xFE58, 0xFE58), (0xFE63, 0xFE63), (0xFF0C, 0xFF0D), (0xFF1A, 0xFF1B), (0xFF64, 0xFF64)]),
   (["sterm", "st"], .diff (.table sentenceTerminal) fullStop),
   (["close", "cl"],
    .union (anyOfTables [openPunctuation, closePunctuation, initialPunctuation, finalPunctuation])
      (.table [(0x22, 0x22), (0x27, 0x27), (0x275B, 0x2760), (0x2E00, 0x2E01), (0x2E06, 0x2E08),
        (0x2E0B, 0x2E0B), (0x1F676, 0x1F678)]))]

end Unicode
end DocFilter

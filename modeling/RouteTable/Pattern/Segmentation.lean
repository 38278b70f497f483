import RouteTable.Pattern.Property
import RouteTable.Text.Script
import RouteTable.Text.Syllable
/-!
# Segmentation

The classes by which a text is cut into clusters of characters, into words and
into sentences, under the names by which a pattern asks for them.
-/

namespace RouteTable.Pattern

open RouteTable.Text

namespace Property

open CharSet

def points (bounds : List (Nat × Nat)) : CharSet := table ⟨bounds.toArray⟩

def carriageReturn : Property := ⟨["cr"], single '\r'⟩

def lineFeed : Property := ⟨["lf"], single '\n'⟩

def zeroWidthJoiner : Property := ⟨["zwj"], single '\u200d'⟩

def regionalIndicator : Property := ⟨["ri", "regionalindicator"], table regionalIndicators⟩

def openSyllables : CharSet :=
  points ((List.range 399).map fun n => (0xac00 + 28 * n, 0xac00 + 28 * n))

def clusterExtend : CharSet := union graphemeExtend (table emojiModifiers)

def clusterControl : CharSet :=
  diff
    (union (ofTables [lineSeparators, paragraphSeparators, controls, formats])
      (diff (table otherIgnorable) (ofTables assigned)))
    (unions [table prependedMarks, clusterExtend,
      points [(0xa, 0xa), (0xd, 0xd), (0x200d, 0x200d)]])

def clusterBreaks : List Property := [
  ⟨["cn", "control"], clusterControl⟩,
  carriageReturn,
  ⟨["ex", "extend"], clusterExtend⟩,
  ⟨["l"], table leadingConsonants⟩,
  lineFeed,
  ⟨["lv"], openSyllables⟩,
  ⟨["lvt"], diff (points [(0xac00, 0xd7a3)]) openSyllables⟩,
  ⟨["pp", "prepend"], ofTables [prependedMarks, prependedConsonants]⟩,
  regionalIndicator,
  ⟨["sm", "spacingmark"],
    diff (union (table spacingMarks) (points [(0xe33, 0xe33), (0xeb3, 0xeb3)]))
      (union clusterExtend (table looseMarks))⟩,
  ⟨["t"], table trailingConsonants⟩,
  ⟨["v"], table innerVowels⟩,
  zeroWidthJoiner]

def wordExtend : CharSet := unions [graphemeExtend, table spacingMarks, table emojiModifiers]

def katakana : CharSet :=
  union (table Script.katakana.characters)
    (points [(0x3031, 0x3035), (0x309b, 0x309c), (0x30a0, 0x30a0), (0x30fc, 0x30fc),
      (0xff70, 0xff70)])

def hebrewLetters : CharSet := inter (table Script.hebrew.characters) (table otherLetters)

def letterSigns : CharSet :=
  points [(0x2c2, 0x2c5), (0x2d2, 0x2d7), (0x2de, 0x2df), (0x2e5, 0x2eb), (0x2ed, 0x2ed),
    (0x2ef, 0x2ff), (0x55a, 0x55c), (0x55e, 0x55e), (0x58a, 0x58a), (0x5f3, 0x5f3),
    (0x70f, 0x70f), (0xa708, 0xa716), (0xa720, 0xa721), (0xa789, 0xa78a), (0xab5b, 0xab5b)]

def wordLetters : CharSet :=
  diff (union (ofTables alphabetic) letterSigns)
    (unions [ofTables [unifiedIdeographs, otherIdeographs, unspacedLetters,
      Script.hiragana.characters], katakana, hebrewLetters, wordExtend])

def wordNumbers : CharSet :=
  unions [table decimalNumbers, points [(0x66b, 0x66b)],
    diff (table prependedMarks) (points [(0x70f, 0x70f)])]

def wordFormats : CharSet :=
  diff (table formats)
    (unions [wordExtend, table prependedMarks, points [(0x200b, 0x200b), (0x200d, 0x200d)]])

def wordBreaks : List Property := [
  carriageReturn,
  ⟨["dq", "doublequote"], single '"'⟩,
  ⟨["le", "aletter"], wordLetters⟩,
  lineFeed,
  ⟨["mb", "midnumlet"],
    points [(0x2e, 0x2e), (0x2018, 0x2019), (0x2024, 0x2024), (0xfe52, 0xfe52), (0xff07, 0xff07),
      (0xff0e, 0xff0e)]⟩,
  ⟨["ml", "midletter"],
    points [(0x3a, 0x3a), (0xb7, 0xb7), (0x387, 0x387), (0x55f, 0x55f), (0x5f4, 0x5f4),
      (0x2027, 0x2027), (0xfe13, 0xfe13), (0xfe55, 0xfe55), (0xff1a, 0xff1a)]⟩,
  ⟨["mn", "midnum"],
    points [(0x2c, 0x2c), (0x3b, 0x3b), (0x37e, 0x37e), (0x589, 0x589), (0x60c, 0x60d),
      (0x66c, 0x66c), (0x7f8, 0x7f8), (0x2044, 0x2044), (0xfe10, 0xfe10), (0xfe14, 0xfe14),
      (0xfe50, 0xfe50), (0xfe54, 0xfe54), (0xff0c, 0xff0c), (0xff1b, 0xff1b)]⟩,
  ⟨["nl", "newline"], points [(0xb, 0xc), (0x85, 0x85), (0x2028, 0x2029)]⟩,
  ⟨["nu", "numeric"], wordNumbers⟩,
  regionalIndicator,
  ⟨["sq", "singlequote"], single '\''⟩,
  ⟨["wsegspace"],
    points [(0x20, 0x20), (0x1680, 0x1680), (0x2000, 0x2006), (0x2008, 0x200a), (0x205f, 0x205f),
      (0x3000, 0x3000)]⟩,
  zeroWidthJoiner,
  ⟨["ex", "extendnumlet"], union (table connectorPunctuation) (points [(0x202f, 0x202f)])⟩,
  ⟨["extend"], wordExtend⟩,
  ⟨["fo", "format"], wordFormats⟩,
  ⟨["hl", "hebrewletter"], hebrewLetters⟩,
  ⟨["ka", "katakana"], katakana⟩]

def fullStops : CharSet :=
  points [(0x2e, 0x2e), (0x2024, 0x2024), (0xfe52, 0xfe52), (0xff0e, 0xff0e)]

def sentenceExtend : CharSet :=
  unions [graphemeExtend, table spacingMarks, points [(0x200d, 0x200d)]]

def sentenceLower : CharSet :=
  diff (ofTables lowercase) (union graphemeExtend (table untitledLetters))

def sentenceUpper : CharSet := diff capital (table wordCapitals)

def sentenceBreaks : List Property := [
  ⟨["at", "aterm"], fullStops⟩,
  ⟨["cl", "close"],
    unions [ofTables [openPunctuation, closePunctuation, initialPunctuation, finalPunctuation],
      points [(0x22, 0x22), (0x27, 0x27), (0x275b, 0x2760), (0x2e00, 0x2e01), (0x2e06, 0x2e08),
        (0x2e0b, 0x2e0b), (0x1f676, 0x1f678)]]⟩,
  carriageReturn,
  ⟨["ex", "extend"], sentenceExtend⟩,
  ⟨["fo", "format"], diff (table formats) (union sentenceExtend wordNumbers)⟩,
  ⟨["le", "oletter"],
    diff (union (ofTables alphabetic) (points [(0x5f3, 0x5f3)]))
      (unions [sentenceLower, sentenceUpper, sentenceExtend])⟩,
  lineFeed,
  ⟨["lo", "lower"], sentenceLower⟩,
  ⟨["nu", "numeric"], union wordNumbers (points [(0x66c, 0x66c)])⟩,
  ⟨["sc", "scontinue"],
    points [(0x2c, 0x2d), (0x3a, 0x3b), (0x37e, 0x37e), (0x55d, 0x55d), (0x60c, 0x60d),
      (0x7f8, 0x7f8), (0x1802, 0x1802), (0x1808, 0x1808), (0x2013, 0x2014), (0x3001, 0x3001),
      (0xfe10, 0xfe11), (0xfe13, 0xfe14), (0xfe31, 0xfe32), (0xfe50, 0xfe51), (0xfe54, 0xfe55),
      (0xfe58, 0xfe58), (0xfe63, 0xfe63), (0xff0c, 0xff0d), (0xff1a, 0xff1b), (0xff64, 0xff64)]⟩,
  ⟨["se", "sep"], points [(0x85, 0x85), (0x2028, 0x2029)]⟩,
  ⟨["sp"],
    diff (table whiteSpace)
      (points [(0xa, 0xa), (0xd, 0xd), (0x85, 0x85), (0x2028, 0x2029)])⟩,
  ⟨["st", "sterm"], diff (table sentenceTerminals) fullStops⟩,
  ⟨["up", "upper"], sentenceUpper⟩]

end Property

end RouteTable.Pattern

import AmxTrace.Unicode.Derived

/-! # Segmentation of text -/

namespace AmxTrace.Unicode

namespace Formula

def carriageReturn : Formula := .set [(0x0D, 0x0D)]

def lineFeed : Formula := .set [(0x0A, 0x0A)]

/-- The joiner, which ties the characters on its sides together. -/
def zeroWidthJoiner : Formula := .set [(0x200D, 0x200D)]

def regionalIndicators : Formula := .property "ri"

def graphemeControl : Formula :=
  .without
    (.either (.categories ["zl", "zp", "cc", "cf"])
      (.without defaultIgnorable (.without (.set CharSet.everything) .unassigned)))
    (.either (.either carriageReturn lineFeed)
      (.either zeroWidthJoiner (.either (.property "pcm") graphemeExtend)))

def graphemePrepend : Formula :=
  .either (.property "pcm")
    (.table "d4e 111c2-111c3 113d1 1193f 11941 11a3a 11a84-11a89 11d46 11f02")

/-- Marks that take up room and belong to the character before them. -/
def graphemeSpacingMark : Formula :=
  .without (.either (.categories ["mc"]) (.set [(0xE33, 0xE33), (0xEB3, 0xEB3)]))
    (.either graphemeExtend
      (.table "102b-102c 1038 1062-1064 1067-106d 1083 1087-108c 108f 109a-109c 1a61 1a63-1a64
        aa7b aa7d 11720-11721"))

/-- Syllables of two letters, the first of each block of syllables. -/
def hangulOpen : Formula :=
  .set ((List.range 399).map fun block => (0xAC00 + 28 * block, 0xAC00 + 28 * block))

def hangulClosed : Formula := .without (.set [(0xAC00, 0xD7A3)]) hangulOpen

/-- Marks of words and sentences, which count as the character before them. -/
def extendingMarks : Formula := .either graphemeExtend (.categories ["mc"])

/-- Digits, and signs that count as digits. -/
def sentenceNumeric : Formula :=
  .either (.categories ["nd"])
    (.table "600-605 66b-66c 6dd 890-891 8e2 19da 110bd 110cd")

def sentenceFormat : Formula :=
  .without (.categories ["cf"])
    (.either sentenceNumeric (.either zeroWidthJoiner graphemeExtend))

def sentenceSeparator : Formula := .table "85 2028-2029"

def sentenceSpace : Formula :=
  .without (.property "wspace")
    (.either sentenceSeparator (.either carriageReturn lineFeed))

/-- Letters in lower case at the start of a sentence's rest. -/
def sentenceLower : Formula :=
  .without lowercase (.either graphemeExtend (.set [(0x10D0, 0x10FA), (0x10FD, 0x10FF)]))

def sentenceUpper : Formula :=
  .without (.either uppercase (.categories ["lt"])) (.set [(0x1C90, 0x1CBA), (0x1CBD, 0x1CBF)])

def sentenceOtherLetter : Formula :=
  .without (.either alphabetic (.set [(0x5F3, 0x5F3)]))
    (.either (.either sentenceLower sentenceUpper) extendingMarks)

def ambiguousTerminator : Formula := .table "2e 2024 fe52 ff0e"

def sentenceContinue : Formula :=
  .table "2c-2d 3a-3b 37e 55d 60c-60d 7f8 1802 1808 2013-2014 3001 fe10-fe11 fe13-fe14
    fe31-fe32 fe50-fe51 fe54-fe55 fe58 fe63 ff0c-ff0d ff1a-ff1b ff64"

def sentenceClose : Formula :=
  .either (.categories ["ps", "pe", "pi", "pf"])
    (.table "22 27 275b-2760 2e00-2e01 2e06-2e08 2e0b 1f676-1f678")

def wordKatakana : Formula :=
  .either (.script "katakana") (.table "3031-3035 309b-309c 30a0 30fc ff70")

def wordHebrew : Formula :=
  .without (.script "hebrew")
    (.without (.script "hebrew") (.categories ["lo"]))

def unspacedLetters : Formula :=
  .either (.either (.property "ideo") (.script "hiragana"))
    (.table "e01-e30 e32-e33 e40-e46 e81-e82 e84 e86-e8a e8c-ea3 ea5 ea7-eb0 eb2-eb3 ebd
      ec0-ec4 ec6 edc-edf 1000-102a 103f 1050-1055 105a-105d 1061 1065-1066 106e-1070 1075-1081
      108e 1780-17b3 17d7 17dc 1950-196d 1970-1974 1980-19ab 19b0-19c9 1a20-1a54 1aa7 a9e0-a9e4
      a9e6-a9ef a9fa-a9fe aa60-aa76 aa7a aa7e-aaaf aab1 aab5-aab6 aab9-aabd aac0 aac2 aadb-aadd
      11700-1171a 11740-11746")

def wordLetter : Formula :=
  .without
    (.either alphabetic
      (.table "2c2-2c5 2d2-2d7 2de-2df 2e5-2eb 2ed 2ef-2ff 55a-55c 55e 58a 5f3 70f a708-a716
        a720-a721 a789-a78a ab5b"))
    (.either (.either extendingMarks unspacedLetters) (.either wordKatakana wordHebrew))

def wordExtend : Formula := .either extendingMarks (.property "emod")

def wordFormat : Formula := .without sentenceFormat (.set [(0x70F, 0x70F), (0x200B, 0x200B)])

def wordNumeric : Formula := .without sentenceNumeric (.set [(0x66C, 0x66C)])

end Formula

/-- Names and formulas of the parts of characters in what a reader takes for one. -/
def graphemeBreaks : List (List String × Formula) :=
  [(["cr"], .carriageReturn),
   (["lf"], .lineFeed),
   (["cn", "control"], .graphemeControl),
   (["ex", "extend"], .either .graphemeExtend (.property "emod")),
   (["zwj"], .zeroWidthJoiner),
   (["ri", "regionalindicator"], .regionalIndicators),
   (["pp", "prepend"], .graphemePrepend),
   (["sm", "spacingmark"], .graphemeSpacingMark),
   (["l"], .table "1100-115f a960-a97c"),
   (["v"], .table "1160-11a7 d7b0-d7c6 16d63 16d67-16d6a"),
   (["t"], .table "11a8-11ff d7cb-d7fb"),
   (["lv"], .hangulOpen),
   (["lvt"], .hangulClosed)]

def wordBreaks : List (List String × Formula) :=
  [(["cr"], .carriageReturn),
   (["lf"], .lineFeed),
   (["nl", "newline"], .table "b-c 85 2028-2029"),
   (["extend"], .wordExtend),
   (["zwj"], .zeroWidthJoiner),
   (["ri", "regionalindicator"], .regionalIndicators),
   (["fo", "format"], .wordFormat),
   (["ka", "katakana"], .wordKatakana),
   (["hl", "hebrewletter"], .wordHebrew),
   (["le", "aletter"], .wordLetter),
   (["sq", "singlequote"], .singleQuote),
   (["dq", "doublequote"], .set [(0x22, 0x22)]),
   (["mb", "midnumlet"], .midLetterOrNumber),
   (["ml", "midletter"], .midLetter),
   (["mn", "midnum"], .table "2c 3b 37e 589 60c-60d 66c 7f8 2044 fe50 fe54 ff0c ff1b"),
   (["nu", "numeric"], .wordNumeric),
   (["ex", "extendnumlet"], .either (.categories ["pc"]) (.set [(0x202F, 0x202F)])),
   (["wsegspace"], .table "20 1680 2000-2006 2008-200a 205f 3000")]

/-- Names and formulas of the parts of characters in sentences. -/
def sentenceBreaks : List (List String × Formula) :=
  [(["cr"], .carriageReturn),
   (["lf"], .lineFeed),
   (["ex", "extend"], .either .extendingMarks .zeroWidthJoiner),
   (["se", "sep"], .sentenceSeparator),
   (["fo", "format"], .sentenceFormat),
   (["sp"], .sentenceSpace),
   (["lo", "lower"], .sentenceLower),
   (["up", "upper"], .sentenceUpper),
   (["le", "oletter"], .sentenceOtherLetter),
   (["nu", "numeric"], .sentenceNumeric),
   (["at", "aterm"], .ambiguousTerminator),
   (["sc", "scontinue"], .sentenceContinue),
   (["st", "sterm"], .without (.property "sterm") .ambiguousTerminator),
   (["cl", "close"], .sentenceClose)]

end AmxTrace.Unicode

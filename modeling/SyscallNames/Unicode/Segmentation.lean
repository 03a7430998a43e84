import SyscallNames.Unicode.Property

set_option autoImplicit false

namespace SyscallNames.Unicode

def freeSpacingMark : CharSet := .ofRows
  ["102B-102C 1038 1062-1064 1067-106D 1083 1087-108C 108F 109A-109C 1A61 1A63-1A64 AA7B AA7D",
   "11720-11721"]

def prepended : CharSet := .ofRows
  ["600-605 6DD 70F 890-891 8E2 D4E 110BD 110CD 111C2-111C3 113D1 1193F 11941 11A3A",
   "11A84-11A89 11D46 11F02"]

def hangulLeading : CharSet := .ofRows ["1100-115F A960-A97C"]

def hangulVowel : CharSet := .ofRows ["1160-11A7 16D63 16D67-16D6A D7B0-D7C6"]

def hangulTrailing : CharSet := .ofRows ["11A8-11FF D7CB-D7FB"]

def hangulSyllable : CharSet := .range 0xAC00 0xD7A3

def hangulOpenSyllable : CharSet :=
  .ofRanges ((List.range 399).map fun n => (0xAC00 + 28 * n, 0xAC00 + 28 * n))

def clusterControl : CharSet :=
  CharSet.diff
    (.unions [lineSeparator, paragraphSeparator, control, format,
      otherDefaultIgnorable.diff letter])
    (.unions [.ofRows ["A D 200C-200D"], prepended, graphemeExtend])

def clusterExtend : CharSet := graphemeExtend.union emojiModifier

def clusterSpacingMark : CharSet :=
  CharSet.union (.ofRows ["E33 EB3"]) (spacingMark.diff (graphemeExtend.union freeSpacingMark))

def clusterClasses : List (List String × CharSet) := [
  (["cr"], .single '\r'), (["lf"], .single '\n'), (["cn", "control"], clusterControl),
  (["ex", "extend"], clusterExtend), (["zwj"], .single '\u200D'),
  (["ri", "regionalindicator"], regionalIndicator), (["pp", "prepend"], prepended),
  (["sm", "spacingmark"], clusterSpacingMark), (["l"], hangulLeading), (["v"], hangulVowel),
  (["t"], hangulTrailing), (["lv"], hangulOpenSyllable),
  (["lvt"], hangulSyllable.diff hangulOpenSyllable)]

def numberSign : CharSet := .ofRows ["600-605 6DD 890-891 8E2 110BD 110CD"]

def letterSign : CharSet := .ofRows ["70F"]

def wordExtend : CharSet := .unions [graphemeExtend, spacingMark, emojiModifier]

def wordFormat : CharSet :=
  format.diff (.unions [.ofRows ["200B-200D"], graphemeExtend, numberSign, letterSign])

def hebrewLetter : CharSet := .ofRows
  ["5D0-5EA 5EF-5F2 FB1D FB1F-FB28 FB2A-FB36 FB38-FB3C FB3E FB40-FB41 FB43-FB44 FB46-FB4F"]

def katakana : CharSet := .ofRows
  ["3031-3035 309B-309C 30A0-30FA 30FC-30FF 31F0-31FF 32D0-32FE 3300-3357 FF66-FF9D",
   "1AFF0-1AFF3 1AFF5-1AFFB 1AFFD-1AFFE 1B000 1B120-1B122 1B155 1B164-1B167"]

def complexContext : CharSet := .ofRows
  ["E01-E30 E32-E33 E40-E46 E81-E82 E84 E86-E8A E8C-EA3 EA5 EA7-EB0 EB2-EB3 EBD EC0-EC4 EC6",
   "EDC-EDF 1000-102A 103F 1050-1055 105A-105D 1061 1065-1066 106E-1070 1075-1081 108E",
   "1780-17B3 17D7 17DC 1950-196D 1970-1974 1980-19AB 19B0-19C9 1A20-1A54 1AA7 A9E0-A9E4",
   "A9E6-A9EF A9FA-A9FE AA60-AA76 AA7A AA7E-AAAF AAB1 AAB5-AAB6 AAB9-AABD AAC0 AAC2 AADB-AADD",
   "11700-1171A 11740-11746"]

def letterlike : CharSet := .ofRows
  ["2C2-2C5 2D2-2D7 2DE-2DF 2E5-2EB 2ED 2EF-2FF 55A-55C 55E 58A 5F3 A708-A716 A720-A721",
   "A789-A78A AB5B"]

def hiragana : CharSet := .ofRows ["3041-3096 309D-309F 1B001-1B11F 1B132 1B150-1B152"]

def wordLetter : CharSet :=
  CharSet.diff (.unions [alphabetic, letterlike, letterSign])
    (.unions [ideographic, katakana, hiragana, hebrewLetter, complexContext, wordExtend])

def wordClasses : List (List String × CharSet) := [
  (["cr"], .single '\r'), (["lf"], .single '\n'),
  (["nl", "newline"], .ofRows ["B-C 85 2028-2029"]), (["extend"], wordExtend),
  (["zwj"], .single '\u200D'), (["ri", "regionalindicator"], regionalIndicator),
  (["fo", "format"], wordFormat), (["ka", "katakana"], katakana),
  (["hl", "hebrewletter"], hebrewLetter), (["le", "aletter"], wordLetter),
  (["sq", "singlequote"], .single '\''), (["dq", "doublequote"], .single '"'),
  (["mb", "midnumlet"], .ofRows ["2E 2018-2019 2024 FE52 FF07 FF0E"]),
  (["ml", "midletter"], .ofRows ["3A B7 387 55F 5F4 2027 FE13 FE55 FF1A"]),
  (["mn", "midnum"],
    .ofRows ["2C 3B 37E 589 60C-60D 66C 7F8 2044 FE10 FE14 FE50 FE54 FF0C FF1B"]),
  (["nu", "numeric"], .unions [decimalNumber, .ofRows ["66B"], numberSign]),
  (["ex", "extendnumlet"], CharSet.union (.ofRows ["202F"]) connectorPunctuation),
  (["wsegspace"], .ofRows ["20 1680 2000-2006 2008-200A 205F 3000"])]

def sentenceStop : CharSet := .ofRows ["2E 2024 FE52 FF0E"]

def sentenceExtend : CharSet := .unions [graphemeExtend, spacingMark, .single '\u200D']

def georgianSmall : CharSet := .ofRows ["10D0-10FA 10FD-10FF"]

def georgianCapital : CharSet := .ofRows ["1C90-1CBA 1CBD-1CBF"]

def sentenceLower : CharSet := lowercase.diff (graphemeExtend.union georgianSmall)

def sentenceUpper : CharSet :=
  CharSet.diff (uppercase.union titlecaseLetter) georgianCapital

def sentenceLetter : CharSet :=
  CharSet.diff (.unions [alphabetic, .ofRows ["5F3"], letterSign])
    (.unions [sentenceLower, sentenceUpper, sentenceExtend])

def looseQuotation : CharSet := .ofRows ["22 27 275B-2760 2E00-2E01 2E06-2E08 2E0B 1F676-1F678"]

def sentenceClasses : List (List String × CharSet) := [
  (["cr"], .single '\r'), (["lf"], .single '\n'), (["ex", "extend"], sentenceExtend),
  (["se", "sep"], .ofRows ["85 2028-2029"]),
  (["fo", "format"],
    format.diff (.unions [.ofRows ["200C-200D"], graphemeExtend, numberSign, letterSign])),
  (["sp"], whiteSpace.diff (.ofRows ["A D 85 2028-2029"])), (["lo", "lower"], sentenceLower),
  (["up", "upper"], sentenceUpper), (["le", "oletter"], sentenceLetter),
  (["nu", "numeric"], .unions [decimalNumber, .ofRows ["66B-66C"], numberSign]),
  (["at", "aterm"], sentenceStop),
  (["sc", "scontinue"], .ofRows
    ["2C-2D 3A 55D 60C-60D 7F8 1802 1808 2013-2014 3001 FE10-FE11 FE13 FE31-FE32 FE50-FE51",
     "FE55 FE58 FE63 FF0C-FF0D FF1A FF64"]),
  (["st", "sterm"], sentenceTerminal.diff sentenceStop),
  (["cl", "close"],
    .unions [openPunctuation, closePunctuation, initialPunctuation, finalPunctuation,
      looseQuotation])]

end SyscallNames.Unicode

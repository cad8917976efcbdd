import DocGuard.Character.Derived

/-!
# Classes for cutting text

The classes by which text is cut into clusters of characters, into words and into sentences. Each
way of cutting puts a character into at most one class.
-/

namespace DocGuard.Segment

open Category Trait

def carriageReturn : CharRule := .listed "D"

def lineFeed : CharRule := .listed "A"

def joiner : CharRule := .listed "200D"

def nonJoiner : CharRule := .listed "200C"

def tags : CharRule := .listed "E0020-E007F"

/-- Signs written around the digits after them, which count as digits; the abbreviation mark does
not. -/
def numberSigns : CharRule := prependedConcatenationMark \ .listed "70F"

def numeric : CharRule := decimalNumber ∪ numberSigns ∪ .listed "66B 19DA"

namespace Cluster

def extend : CharRule := (graphemeExtend ∪ emojiModifier) \ joiner

def controls : CharRule :=
  (lineSeparator ∪ paragraphSeparator ∪ control ∪ format ∪ (defaultIgnorable \ assigned))
    \ (carriageReturn ∪ lineFeed ∪ joiner ∪ prependedConcatenationMark ∪ graphemeExtend)

/-- Marks with a width that do not go on a cluster. -/
def detachedMarks : CharRule := .listed <|
  "102B-102C 1038 1062-1064 1067-106D 1083 1087-108C 108F 109A-109C 1A61 1A63-1A64 AA7B AA7D " ++
    "11720-11721"

def spacing : CharRule := (spacingMark \ (extend ∪ detachedMarks)) ∪ .listed "E33 EB3"

/-- Characters that a cluster goes on from. -/
def prepend : CharRule := .listed <|
  "600-605 6DD 70F 890-891 8E2 D4E 110BD 110CD 111C2-111C3 113D1 1193F 11941 11A3A 11A84-11A89 " ++
    "11D46 11F02"

/-- Syllables of a leading consonant and a vowel. -/
def openSyllable : CharRule := .listed "AC00-D788/1C"

/-- Syllables with a trailing consonant. -/
def closedSyllable : CharRule := .listed "AC00-D7A3" \ openSyllable

/-- The classes for clusters by their names, in loose form. -/
def named : List (List String × CharRule) :=
  [(["cr"], carriageReturn),
   (["lf"], lineFeed),
   (["cn", "control"], controls),
   (["ex", "extend"], extend),
   (["zwj"], joiner),
   (["ri", "regionalindicator"], regionalIndicator),
   (["pp", "prepend"], prepend),
   (["sm", "spacingmark"], spacing),
   (["l"], .listed "1100-115F A960-A97C"),
   (["v"], .listed "1160-11A7 D7B0-D7C6 16D63 16D67-16D6A"),
   (["t"], .listed "11A8-11FF D7CB-D7FB"),
   (["lv"], openSyllable),
   (["lvt"], closedSyllable)]

end Cluster

namespace Word

def extend : CharRule := (graphemeExtend ∪ spacingMark ∪ emojiModifier) \ joiner

def formats : CharRule :=
  format \ (prependedConcatenationMark ∪ tags ∪ joiner ∪ nonJoiner ∪ .listed "200B")

def hebrewLetter : CharRule := .listed <|
  "5D0-5EA 5EF-5F2 FB1D FB1F-FB28 FB2A-FB36 FB38-FB3C FB3E FB40-FB41 FB43-FB44 FB46-FB4F"

def katakana : CharRule := .listed <|
  "3031-3035 309B-309C 30A0-30FA 30FC-30FF 31F0-31FF 32D0-32FE 3300-3357 FF66-FF9D " ++
    "1AFF0-1AFF3 1AFF5-1AFFB 1AFFD-1AFFE 1B000 1B120-1B122 1B155 1B164-1B167"

def hiragana : CharRule := .listed "3041-3096 309D-309F 1B001-1B11F 1B132 1B150-1B152 1F200"

/-- Letters of scripts that are written without a blank between words. -/
def unspacedLetters : CharRule := .listed <|
  "E01-E30 E32-E33 E40-E46 E81-E82 E84 E86-E8A E8C-EA3 EA5 EA7-EB0 EB2-EB3 EBD EC0-EC4 EC6 " ++
    "EDC-EDF 1000-102A 103F 1050-1055 105A-105D 1061 1065-1066 106E-1070 1075-1081 108E " ++
    "1780-17B3 17D7 17DC 1950-196D 1970-1974 1980-19AB 19B0-19C9 1A20-1A54 1AA7 A9E0-A9E4 " ++
    "A9E6-A9EF A9FA-A9FE AA60-AA76 AA7A AA7E-AAAF AAB1 AAB5-AAB6 AAB9-AABD AAC0 AAC2 " ++
    "AADB-AADD 11700-1171A 11740-11746"

/-- Characters that are not alphabetic and yet go for letters in words. -/
def letterSigns : CharRule := .listed <|
  "2C2-2C5 2D2-2D7 2DE-2DF 2E5-2EB 2ED 2EF-2FF 55A-55C 55E 58A 5F3 70F A708-A716 A720-A721 " ++
    "A789-A78A AB5B"

def letters : CharRule :=
  (alphabetic \ (ideographic ∪ katakana ∪ hiragana ∪ extend ∪ hebrewLetter ∪ unspacedLetters))
    ∪ letterSigns

/-- The classes for words by their names, in loose form. -/
def named : List (List String × CharRule) :=
  [(["cr"], carriageReturn),
   (["lf"], lineFeed),
   (["nl", "newline"], .listed "B-C 85 2028-2029"),
   (["extend"], extend),
   (["zwj"], joiner),
   (["ri", "regionalindicator"], regionalIndicator),
   (["fo", "format"], formats),
   (["ka", "katakana"], katakana),
   (["hl", "hebrewletter"], hebrewLetter),
   (["le", "aletter"], letters),
   (["sq", "singlequote"], .listed "27"),
   (["dq", "doublequote"], .listed "22"),
   (["mb", "midnumlet"], .listed "2E 2018-2019 2024 FE52 FF07 FF0E"),
   (["ml", "midletter"], .listed "3A B7 387 55F 5F4 2027 FE13 FE55 FF1A"),
   (["mn", "midnum"], .listed "2C 3B 37E 589 60C-60D 66C 7F8 2044 FE50 FE54 FF0C FF1B"),
   (["nu", "numeric"], numeric),
   (["ex", "extendnumlet"], connectorPunctuation ∪ .listed "202F"),
   (["wsegspace"], .listed "20 1680 2000-2006 2008-200A 205F 3000")]

end Word

namespace Sentence

def separators : CharRule := .listed "85 2028-2029"

/-- Full stops, which may also stand within a sentence. -/
def fullStop : CharRule := .listed "2E 2024 FE52 FF0E"

def extend : CharRule := graphemeExtend ∪ spacingMark ∪ joiner ∪ nonJoiner

def formats : CharRule := (format \ (numberSigns ∪ tags ∪ joiner ∪ nonJoiner)) ∪ .listed "70F"

/-- Lowercase letters; those of Georgian have no case here. -/
def lower : CharRule := lowercase \ (graphemeExtend ∪ .listed "10D0-10FB 10FD-10FF")

/-- Uppercase letters; those of Georgian have no case here. -/
def upper : CharRule := (titleLetter ∪ uppercase) \ .listed "1C90-1CBF"

def otherLetters : CharRule := (alphabetic ∪ .listed "5F3") \ (lower ∪ upper ∪ extend)

def plainQuotes : CharRule := .listed "22 27 275B-2760 2E00-2E01 2E06-2E08 2E0B 1F676-1F678"

def close : CharRule :=
  openPunctuation ∪ closePunctuation ∪ initialPunctuation ∪ finalPunctuation ∪ plainQuotes

def continues : CharRule := .listed <|
  "2C-2D 3A-3B 37E 55D 60C-60D 7F8 1802 1808 2013-2014 3001 FE10-FE11 FE13-FE14 FE31-FE32 " ++
    "FE50-FE51 FE54-FE55 FE58 FE63 FF0C-FF0D FF1A-FF1B FF64"

/-- The classes for sentences by their names, in loose form. -/
def named : List (List String × CharRule) :=
  [(["cr"], carriageReturn),
   (["lf"], lineFeed),
   (["se", "sep"], separators),
   (["ex", "extend"], extend),
   (["fo", "format"], formats),
   (["sp"], whiteSpace \ (separators ∪ carriageReturn ∪ lineFeed)),
   (["lo", "lower"], lower),
   (["up", "upper"], upper),
   (["le", "oletter"], otherLetters),
   (["nu", "numeric"], numeric ∪ .listed "66C"),
   (["at", "aterm"], fullStop),
   (["sc", "scontinue"], continues),
   (["st", "sterm"], sentenceTerminal \ fullStop),
   (["cl", "close"], close)]

end Sentence

end DocGuard.Segment

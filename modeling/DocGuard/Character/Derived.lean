import DocGuard.Character.Category
import DocGuard.Character.Trait

/-!
# Derived traits of characters

The yes-or-no properties that follow from the categories and the listed traits, and the names of
all such properties. Each rule is the definition of the property in the character database.
-/

namespace DocGuard.Trait

open Category

def lowercase : CharRule := lowerLetter ∪ otherLowercase

def uppercase : CharRule := upperLetter ∪ otherUppercase

def cased : CharRule := lowercase ∪ uppercase ∪ titleLetter

def alphabetic : CharRule :=
  cased ∪ modifierLetter ∪ otherLetter ∪ letterNumber ∪ otherAlphabetic

def math : CharRule := mathSymbol ∪ otherMath

def wordPunctuation : CharRule :=
  .listed "27 2E 3A B7 387 55F 5F4 2018-2019 2024 2027 FE13 FE52 FE55 FF07 FF0E FF1A"

/-- Characters that do not part a letter from its case. -/
def caseIgnorable : CharRule :=
  nonspacingMark ∪ enclosingMark ∪ format ∪ modifierLetter ∪ modifierSymbol ∪ wordPunctuation

/-- The digraphs in uppercase, which titlecasing changes and uppercasing keeps. -/
def upperDigraphs : CharRule := .listed "1C4 1C7 1CA 1F1"

/-- Characters with an uppercase form, but in titlecase already. -/
def titlecased : CharRule :=
  .listed "1C5 1C8 1CB 1F2 10D0-10FA 10FD-10FF 1F88-1F8F 1F98-1F9F 1FA8-1FAF 1FBC 1FCC 1FFC"

def changesWhenTitlecased : CharRule := (changesWhenUppercased \ titlecased) ∪ upperDigraphs

/-- Lowercase characters that case folding changes. -/
def foldedLower : CharRule := .listed <|
  "B5 DF 149 17F 345 3C2 3D0-3D1 3D5-3D6 3F0-3F1 3F5 587 13F8-13FD 1C80-1C88 1E9A-1E9B " ++
    "1F80-1F87 1F90-1F97 1FA0-1FA7 1FB2-1FB4 1FB7 1FC2-1FC4 1FC7 1FF2-1FF4 1FF7 AB70-ABBF " ++
    "FB00-FB06 FB13-FB17"

/-- The uppercase letters that others are folded to. -/
def foldedTo : CharRule := .listed "13A0-13F5"

def changesWhenCasefolded : CharRule := (changesWhenLowercased \ foldedTo) ∪ foldedLower

def changesWhenCasemapped : CharRule :=
  changesWhenLowercased ∪ changesWhenUppercased ∪ changesWhenTitlecased

def idStart : CharRule :=
  (letter ∪ letterNumber ∪ otherIdStart) \ (patternSyntax ∪ patternWhiteSpace)

def idContinue : CharRule :=
  (idStart ∪ nonspacingMark ∪ spacingMark ∪ decimalNumber ∪ connectorPunctuation ∪ otherIdContinue)
    \ (patternSyntax ∪ patternWhiteSpace)

/-- Characters that normalization turns into some that are not fit for identifiers. -/
def unstableInIds : CharRule := .listed "37A 309B-309C FC5E-FC63 FDFA-FDFB FE70-FE7E/2"

/-- Characters that normalization turns into some that may not start an identifier. -/
def unstableAtStart : CharRule := .listed "E33 EB3 FF9E-FF9F"

def xidStart : CharRule := idStart \ (unstableInIds ∪ unstableAtStart)

def xidContinue : CharRule := idContinue \ unstableInIds

/-- Format characters that show: annotations, and controls of hieroglyphs. -/
def visibleFormat : CharRule := .listed "FFF9-FFFB 13430-13440"

def defaultIgnorable : CharRule :=
  (otherDefaultIgnorable ∪ format ∪ variationSelector)
    \ (whiteSpace ∪ visibleFormat ∪ prependedConcatenationMark)

def graphemeExtend : CharRule := enclosingMark ∪ nonspacingMark ∪ otherGraphemeExtend

def graphemeBase : CharRule :=
  assigned \ (control ∪ format ∪ privateUse ∪ lineSeparator ∪ paragraphSeparator ∪ graphemeExtend)

/-- Characters of words: letters, marks, digits, connectors and the two joiners. -/
def word : CharRule :=
  alphabetic ∪ mark ∪ decimalNumber ∪ connectorPunctuation ∪ joinControl

/-- The yes-or-no properties by their names, in loose form. -/
def named : List (List String × CharRule) :=
  [(["ahex", "asciihexdigit"], asciiHexDigit),
   (["alpha", "alphabetic"], alphabetic),
   (["bidic", "bidicontrol"], bidiControl),
   (["bidim", "bidimirrored"], bidiMirrored),
   (["cased"], cased),
   (["ci", "caseignorable"], caseIgnorable),
   (["cwcf", "changeswhencasefolded"], changesWhenCasefolded),
   (["cwcm", "changeswhencasemapped"], changesWhenCasemapped),
   (["cwl", "changeswhenlowercased"], changesWhenLowercased),
   (["cwt", "changeswhentitlecased"], changesWhenTitlecased),
   (["cwu", "changeswhenuppercased"], changesWhenUppercased),
   (["dash"], dash),
   (["dep", "deprecated"], deprecated),
   (["di", "defaultignorablecodepoint"], defaultIgnorable),
   (["dia", "diacritic"], diacritic),
   (["emoji"], emoji),
   (["ebase", "emojimodifierbase"], emojiModifierBase),
   (["ecomp", "emojicomponent"], emojiComponent),
   (["emod", "emojimodifier"], emojiModifier),
   (["epres", "emojipresentation"], emojiPresentation),
   (["ext", "extender"], extender),
   (["extpict", "extendedpictographic"], extendedPictographic),
   (["grbase", "graphemebase"], graphemeBase),
   (["grext", "graphemeextend"], graphemeExtend),
   (["grlink", "graphemelink"], graphemeLink),
   (["hex", "hexdigit"], hexDigit),
   (["hyphen"], hyphen),
   (["idc", "idcontinue"], idContinue),
   (["ids", "idstart"], idStart),
   (["idcompatmathcontinue"], idCompatMathContinue),
   (["idcompatmathstart"], idCompatMathStart),
   (["ideo", "ideographic"], ideographic),
   (["idsb", "idsbinaryoperator"], idsBinaryOperator),
   (["idst", "idstrinaryoperator"], idsTrinaryOperator),
   (["idsu", "idsunaryoperator"], idsUnaryOperator),
   (["joinc", "joincontrol"], joinControl),
   (["loe", "logicalorderexception"], logicalOrderException),
   (["lower", "lowercase"], lowercase),
   (["math"], math),
   (["mcm", "modifiercombiningmark"], modifierCombiningMark),
   (["nchar", "noncharactercodepoint"], noncharacter),
   (["oalpha", "otheralphabetic"], otherAlphabetic),
   (["odi", "otherdefaultignorablecodepoint"], otherDefaultIgnorable),
   (["ogrext", "othergraphemeextend"], otherGraphemeExtend),
   (["oidc", "otheridcontinue"], otherIdContinue),
   (["oids", "otheridstart"], otherIdStart),
   (["olower", "otherlowercase"], otherLowercase),
   (["omath", "othermath"], otherMath),
   (["oupper", "otheruppercase"], otherUppercase),
   (["patsyn", "patternsyntax"], patternSyntax),
   (["patws", "patternwhitespace"], patternWhiteSpace),
   (["pcm", "prependedconcatenationmark"], prependedConcatenationMark),
   (["qmark", "quotationmark"], quotationMark),
   (["radical"], radical),
   (["ri", "regionalindicator"], regionalIndicator),
   (["sd", "softdotted"], softDotted),
   (["sterm", "sentenceterminal"], sentenceTerminal),
   (["term", "terminalpunctuation"], terminalPunctuation),
   (["uideo", "unifiedideograph"], unifiedIdeograph),
   (["upper", "uppercase"], uppercase),
   (["vs", "variationselector"], variationSelector),
   (["space", "wspace", "whitespace"], whiteSpace),
   (["xidc", "xidcontinue"], xidContinue),
   (["xids", "xidstart"], xidStart)]

end DocGuard.Trait

import Callsite.Pattern.Category
import Callsite.Pattern.NamedSet
import Callsite.Text.BreakTable
import Callsite.Text.PropertyTable

set_option autoImplicit false

/-! The properties that a character has or has not. Most of them follow from the categories of
characters and from a table of what the categories leave out. -/

namespace Callsite.Pattern

open Text

def whiteSpace : CharSet :=
  .named .blank

def alphabetic : CharSet :=
  .ranges Text.alphabetic

def lowercase : CharSet :=
  .union (ofCategory .lowercaseLetter) (.ranges otherLowercase)

def uppercase : CharSet :=
  .union (ofCategory .uppercaseLetter) (.ranges otherUppercase)

def raised : CharSet :=
  .union uppercase (ofCategory .titlecaseLetter)

def cased : CharSet :=
  .union lowercase raised

/-- The title case letters that follow their upper case forms, and those forms. -/
def digraphs : CharSet :=
  .unions [.single '\u01c4', .single '\u01c7', .single '\u01ca', .single '\u01f1']

def changesInLowercase : CharSet :=
  .difference raised (.ranges unlowered)

def changesInUppercase : CharSet :=
  .difference (.union lowercase (ofCategory .titlecaseLetter)) (.ranges unraised)

def changesInTitlecase : CharSet :=
  .union digraphs <| .difference lowercase (.union (.ranges unraised) (.ranges georgianLetters))

/-- Folding leads to lower case, but for Cherokee, whose letters fold to upper case. -/
def changesInFolding : CharSet :=
  .union (.ranges refolded) (.difference changesInLowercase (.range '\u13a0' '\u13f5'))

def changesInMapping : CharSet :=
  .unions [changesInLowercase, changesInUppercase, changesInTitlecase]

def joinControls : CharSet :=
  .ranges joinControl

def tags : CharSet :=
  .ranges [(0xe0020, 0xe007f)]

def emojiModifiers : CharSet :=
  .ranges [(0x1f3fb, 0x1f3ff)]

def regionalIndicators : CharSet :=
  .ranges [(0x1f1e6, 0x1f1ff)]

def prepended : CharSet :=
  .ranges prependedMarks

def middles : CharSet :=
  .unions [.ranges middleLetterMarks, .ranges middleMarks, .single '\'']

def caseIgnorable : CharSet :=
  .union middles <| ofCategories
    [.nonspacingMark, .enclosingMark, .format, .modifierLetter, .modifierSymbol]

def idStart : CharSet :=
  .difference (.union (ofCategories (.letterNumber :: letters)) (.ranges otherIdStart))
    (.union (.ranges patternSyntax) (.ranges patternBlanks))

def idContinue : CharSet :=
  .unions [idStart, ofCategories [.nonspacingMark, .spacingMark, .decimalNumber, .connector],
    .ranges otherIdContinue]

def stableIdStart : CharSet :=
  .difference idStart (.union (.ranges unstableIdStart) (.ranges unstableIdContinue))

def stableIdContinue : CharSet :=
  .difference idContinue (.ranges unstableIdContinue)

def graphemeExtend : CharSet :=
  .union (ofCategories [.nonspacingMark, .enclosingMark]) (.ranges otherGraphemeExtend)

def graphemeBase : CharSet :=
  .complement <| .unions [graphemeExtend, unassigned,
    ofCategories [.control, .format, .privateUse, .lineSeparator, .paragraphSeparator]]

def ignorable : CharSet :=
  .difference (.unions [.ranges otherIgnorable, .ranges variationSelectors, ofCategory .format])
    (.union prepended (.ranges shownFormats))

def ideographs : CharSet :=
  .union (.ranges unifiedIdeographs) (.ranges otherIdeographs)

/-- The last two code points of each plane, and 32 code points of Arabic. -/
def noncharacters : List (Nat × Nat) :=
  (0xfdd0, 0xfdef) ::
    (List.range 17).map fun plane => (0x10000 * plane + 0xfffe, 0x10000 * plane + 0xffff)

def letterProperties : List NamedSet := [
  ⟨["alphabetic", "alpha"], alphabetic⟩,
  ⟨["otheralphabetic", "oalpha"],
    .difference alphabetic (ofCategories (.letterNumber :: letters))⟩,
  ⟨["lowercase", "lower"], lowercase⟩,
  ⟨["otherlowercase", "olower"], .ranges otherLowercase⟩,
  ⟨["uppercase", "upper"], uppercase⟩,
  ⟨["otheruppercase", "oupper"], .ranges otherUppercase⟩,
  ⟨["cased"], cased⟩,
  ⟨["caseignorable", "ci"], caseIgnorable⟩,
  ⟨["changeswhenlowercased", "cwl"], changesInLowercase⟩,
  ⟨["changeswhenuppercased", "cwu"], changesInUppercase⟩,
  ⟨["changeswhentitlecased", "cwt"], changesInTitlecase⟩,
  ⟨["changeswhencasefolded", "cwcf"], changesInFolding⟩,
  ⟨["changeswhencasemapped", "cwcm"], changesInMapping⟩,
  ⟨["softdotted", "sd"], .ranges softDotted⟩,
  ⟨["idstart", "ids"], idStart⟩,
  ⟨["otheridstart", "oids"], .ranges otherIdStart⟩,
  ⟨["idcontinue", "idc"], idContinue⟩,
  ⟨["otheridcontinue", "oidc"], .ranges otherIdContinue⟩,
  ⟨["xidstart", "xids"], stableIdStart⟩,
  ⟨["xidcontinue", "xidc"], stableIdContinue⟩,
  ⟨["idcompatmathstart"], .ranges mathConstants⟩,
  ⟨["idcompatmathcontinue"], .union (.ranges mathConstants) (.ranges mathScripts)⟩,
  ⟨["ideographic", "ideo"], ideographs⟩,
  ⟨["unifiedideograph", "uideo"], .ranges unifiedIdeographs⟩,
  ⟨["radical"], .ranges radicals⟩,
  ⟨["idsbinaryoperator", "idsb"], .ranges binaryIdsOperators⟩,
  ⟨["idstrinaryoperator", "idst"], .range '\u2ff2' '\u2ff3'⟩,
  ⟨["idsunaryoperator", "idsu"], .range '\u2ffe' '\u2fff'⟩,
  ⟨["logicalorderexception", "loe"], .ranges logicalOrderExceptions⟩]

def signProperties : List NamedSet := [
  ⟨["whitespace", "wspace", "space"], whiteSpace⟩,
  ⟨["patternwhitespace", "patws"], .ranges patternBlanks⟩,
  ⟨["patternsyntax", "patsyn"], .ranges patternSyntax⟩,
  ⟨["asciihexdigit", "ahex"], .inter ascii (.ranges hexDigits)⟩,
  ⟨["hexdigit", "hex"], .ranges hexDigits⟩,
  ⟨["math"], .union (ofCategory .mathSymbol) (.ranges otherMath)⟩,
  ⟨["othermath", "omath"], .ranges otherMath⟩,
  ⟨["dash"], .union (ofCategory .dash) (.ranges otherDashes)⟩,
  ⟨["hyphen"], .ranges hyphens⟩,
  ⟨["quotationmark", "qmark"], .ranges quotationMarks⟩,
  ⟨["sentenceterminal", "sterm"], .ranges sentenceEnds⟩,
  ⟨["terminalpunctuation", "term"], .ranges terminalPunctuation⟩,
  ⟨["diacritic", "dia"], .ranges diacritics⟩,
  ⟨["extender", "ext"], .ranges extenders⟩,
  ⟨["modifiercombiningmark", "mcm"], .ranges combiningModifiers⟩,
  ⟨["graphemebase", "grbase"], graphemeBase⟩,
  ⟨["graphemeextend", "grext"], graphemeExtend⟩,
  ⟨["othergraphemeextend", "ogrext"], .ranges otherGraphemeExtend⟩,
  ⟨["graphemelink", "grlink"], .ranges graphemeLinks⟩,
  ⟨["joincontrol", "joinc"], joinControls⟩,
  ⟨["bidicontrol", "bidic"], .ranges bidiControls⟩,
  ⟨["bidimirrored", "bidim"], .ranges bidiMirrored⟩,
  ⟨["prependedconcatenationmark", "pcm"], prepended⟩,
  ⟨["variationselector", "vs"], .ranges variationSelectors⟩,
  ⟨["defaultignorablecodepoint", "di"], ignorable⟩,
  ⟨["otherdefaultignorablecodepoint", "odi"], .ranges otherIgnorable⟩,
  ⟨["deprecated", "dep"], .ranges deprecated⟩,
  ⟨["noncharactercodepoint", "nchar"], .ranges noncharacters⟩,
  ⟨["regionalindicator", "ri"], regionalIndicators⟩,
  ⟨["emoji"], .ranges emoji⟩,
  ⟨["emojicomponent", "ecomp"], .ranges emojiComponents⟩,
  ⟨["emojimodifier", "emod"], emojiModifiers⟩,
  ⟨["emojimodifierbase", "ebase"], .ranges emojiBases⟩,
  ⟨["emojipresentation", "epres"], .ranges emojiPresentation⟩,
  ⟨["extendedpictographic", "extpict"], .ranges pictographs⟩]

def binaryProperty? (name : String) : Option CharSet :=
  NamedSet.find? (letterProperties ++ signProperties) name

end Callsite.Pattern

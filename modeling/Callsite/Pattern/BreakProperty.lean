import Callsite.Pattern.BinaryProperty
import Callsite.Text.Script

set_option autoImplicit false

/-! The parts that characters take in the breaks between graphemes, words and sentences. Each of the three
properties gives a character at most one value that has a set here. -/

namespace Callsite.Pattern

open Text

/-- The Hangul syllables without a final consonant: every 28th one. -/
def openSyllables : CharSet :=
  .ranges ((List.range 399).map fun index => (0xac00 + 28 * index, 0xac00 + 28 * index))

def closedSyllables : CharSet :=
  .difference (.range '\uac00' '\ud7a3') openSyllables

def lineEnds : CharSet :=
  .union (.single '\n') (.single '\r')

/-- The marks that span digits, without the one of Syriac, which belongs to words. -/
def numberMarks : CharSet :=
  .difference prepended (.single '\u070f')

def graphemeControl : CharSet :=
  .difference
    (.union (ofCategories [.control, .format, .lineSeparator, .paragraphSeparator])
      (.inter unassigned ignorable))
    (.unions [lineEnds, prepended, joinControls, tags])

def graphemeSpacingMark : CharSet :=
  .difference (.unions [.single '\u0e33', .single '\u0eb3', ofCategory .spacingMark])
    (.union graphemeExtend (.ranges looseSpacingMarks))

def graphemeBreaks : List NamedSet := [
  ⟨["cr"], .single '\r'⟩,
  ⟨["lf"], .single '\n'⟩,
  ⟨["control", "cn"], graphemeControl⟩,
  ⟨["extend", "ex"], .union graphemeExtend emojiModifiers⟩,
  ⟨["prepend", "pp"], .union prepended (.ranges prependedLetters)⟩,
  ⟨["spacingmark", "sm"], graphemeSpacingMark⟩,
  ⟨["regionalindicator", "ri"], regionalIndicators⟩,
  ⟨["zwj"], .single '\u200d'⟩,
  ⟨["l"], .union (.range '\u1100' '\u115f') (.range '\ua960' '\ua97c')⟩,
  ⟨["v"], .ranges hangulVowels⟩,
  ⟨["t"], .union (.range '\u11a8' '\u11ff') (.range '\ud7cb' '\ud7fb')⟩,
  ⟨["lv"], openSyllables⟩,
  ⟨["lvt"], closedSyllables⟩]

def ofScript (name : String) : CharSet :=
  .unions ((script? name).toList.map fun script => .ranges script.ranges)

def wordExtend : CharSet :=
  .unions [graphemeExtend, ofCategory .spacingMark, emojiModifiers]

def wordKatakana : CharSet :=
  .union (ofScript "kana") (.ranges katakanaMarks)

def hebrewLetters : CharSet :=
  .inter (ofScript "hebr") (ofCategory .otherLetter)

def wordLetters : CharSet :=
  .union (.ranges wordMarks) <|
    .difference (.union alphabetic (ofCategory .modifierSymbol)) <|
      .unions [ideographs, wordKatakana, ofScript "hira", hebrewLetters, wordExtend,
        .ranges unspacedLetters]

def wordNumbers : CharSet :=
  .unions [ofCategory .decimalNumber, numberMarks, .single '\u066b', .single '\u19da']

def wordBreaks : List NamedSet := [
  ⟨["cr"], .single '\r'⟩,
  ⟨["lf"], .single '\n'⟩,
  ⟨["newline", "nl"], .unions [.range '\x0b' '\x0c', .single '\u0085', .range '\u2028' '\u2029']⟩,
  ⟨["extend"], wordExtend⟩,
  ⟨["zwj"], .single '\u200d'⟩,
  ⟨["format", "fo"],
    .difference (ofCategory .format) (.unions [prepended, .range '\u200b' '\u200d', tags])⟩,
  ⟨["katakana", "ka"], wordKatakana⟩,
  ⟨["hebrewletter", "hl"], hebrewLetters⟩,
  ⟨["aletter", "le"], wordLetters⟩,
  ⟨["numeric", "nu"], wordNumbers⟩,
  ⟨["extendnumlet", "ex"], .union (ofCategory .connector) (.single '\u202f')⟩,
  ⟨["midletter", "ml"], .ranges middleLetterMarks⟩,
  ⟨["midnum", "mn"], .ranges middleNumberMarks⟩,
  ⟨["midnumlet", "mb"], .ranges middleMarks⟩,
  ⟨["singlequote", "sq"], .single '\''⟩,
  ⟨["doublequote", "dq"], .single '"'⟩,
  ⟨["regionalindicator", "ri"], regionalIndicators⟩,
  ⟨["wsegspace"], .ranges wordSpaces⟩]

def sentenceLower : CharSet :=
  .difference lowercase (.union graphemeExtend (.ranges georgianLetters))

/-- Capital Georgian letters stand for whole texts in capitals and begin no sentence. -/
def sentenceUpper : CharSet :=
  .difference raised (.union (.range '\u1c90' '\u1cba') (.range '\u1cbd' '\u1cbf'))

def sentenceExtend : CharSet :=
  .unions [graphemeExtend, ofCategory .spacingMark, .single '\u200d']

def separatorsOfSentences : CharSet :=
  .union (.single '\u0085') (.range '\u2028' '\u2029')

def closingMarks : CharSet :=
  .difference (.unions [ofCategories brackets, .ranges quotationMarks, .ranges closingOrnaments])
    (.ranges wideQuotes)

def sentenceBreaks : List NamedSet := [
  ⟨["cr"], .single '\r'⟩,
  ⟨["lf"], .single '\n'⟩,
  ⟨["sep", "se"], separatorsOfSentences⟩,
  ⟨["sp"], .difference whiteSpace (.union separatorsOfSentences lineEnds)⟩,
  ⟨["extend", "ex"], sentenceExtend⟩,
  ⟨["format", "fo"],
    .difference (ofCategory .format) (.unions [numberMarks, joinControls, tags])⟩,
  ⟨["lower", "lo"], sentenceLower⟩,
  ⟨["upper", "up"], sentenceUpper⟩,
  ⟨["oletter", "le"],
    .union (.single '\u05f3')
      (.difference alphabetic (.unions [sentenceLower, sentenceUpper, sentenceExtend]))⟩,
  ⟨["numeric", "nu"], .union wordNumbers (.single '\u066c')⟩,
  ⟨["aterm", "at"], .ranges fullStops⟩,
  ⟨["sterm", "st"], .difference (.ranges sentenceEnds) (.ranges fullStops)⟩,
  ⟨["scontinue", "sc"], .ranges sentenceMarks⟩,
  ⟨["close", "cl"], closingMarks⟩]

end Callsite.Pattern

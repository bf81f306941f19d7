import Callsite.Text.CategoryTable
import Callsite.Text.Letter

set_option autoImplicit false

/-! The general categories of Unicode. Every assigned character is of exactly one. -/

namespace Callsite.Text

inductive Category where
  | uppercaseLetter
  | lowercaseLetter
  | titlecaseLetter
  | modifierLetter
  | otherLetter
  | nonspacingMark
  | spacingMark
  | enclosingMark
  | decimalNumber
  | letterNumber
  | fractionNumber
  | connector
  | dash
  | openingBracket
  | closingBracket
  | initialQuote
  | finalQuote
  | otherPunctuation
  | mathSymbol
  | currencySymbol
  | modifierSymbol
  | otherSymbol
  | space
  | lineSeparator
  | paragraphSeparator
  | control
  | format
  | privateUse
  deriving DecidableEq, Repr

namespace Category

def ranges : Category → List (Nat × Nat)
  | uppercaseLetter => uppercaseLetterRanges
  | lowercaseLetter => lowercaseLetterRanges
  | titlecaseLetter => titlecaseLetterRanges
  | modifierLetter => modifierLetterRanges
  | otherLetter => otherLetterRanges
  | nonspacingMark => nonspacingMarkRanges
  | spacingMark => spacingMarkRanges
  | enclosingMark => enclosingMarkRanges
  | decimalNumber => Text.decimalNumber
  | letterNumber => letterNumberRanges
  | fractionNumber => fractionNumberRanges
  | connector => (0x5f, 0x5f) :: Text.connector
  | dash => dashRanges
  | openingBracket => openingBracketRanges
  | closingBracket => closingBracketRanges
  | initialQuote => initialQuoteRanges
  | finalQuote => finalQuoteRanges
  | otherPunctuation => otherPunctuationRanges
  | mathSymbol => mathSymbolRanges
  | currencySymbol => currencySymbolRanges
  | modifierSymbol => modifierSymbolRanges
  | otherSymbol => otherSymbolRanges
  | space => spaceRanges
  | lineSeparator => lineSeparatorRanges
  | paragraphSeparator => paragraphSeparatorRanges
  | control => controlRanges
  | format => formatRanges
  | privateUse => privateUseRanges

/-- The ranges of which every second code point is of a category. -/
def pairs : Category → List (Nat × Nat)
  | uppercaseLetter => uppercaseLetterPairs
  | lowercaseLetter => lowercaseLetterPairs
  | otherLetter => otherLetterPairs
  | openingBracket => openingBracketPairs
  | closingBracket => closingBracketPairs
  | _ => []

def has (category : Category) (c : Char) : Bool :=
  inRanges category.ranges c.toNat ||
    category.pairs.any fun (first, last) =>
      first ≤ c.toNat && c.toNat ≤ last && (c.toNat - first) % 2 = 0

def all : List Category := [
  .uppercaseLetter, .lowercaseLetter, .titlecaseLetter, .modifierLetter, .otherLetter,
  .nonspacingMark, .spacingMark, .enclosingMark, .decimalNumber, .letterNumber, .fractionNumber,
  .connector, .dash, .openingBracket, .closingBracket, .initialQuote, .finalQuote,
  .otherPunctuation, .mathSymbol, .currencySymbol, .modifierSymbol, .otherSymbol, .space,
  .lineSeparator, .paragraphSeparator, .control, .format, .privateUse]

end Category

end Callsite.Text

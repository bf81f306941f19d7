import Callsite.Pattern.CharSet

set_option autoImplicit false

/-! The general categories of Unicode by name, and the groups of categories that have names. -/

namespace Callsite.Pattern

open Text

def ascii : CharSet :=
  .range '\x00' '\x7f'

def ofCategory (category : Category) : CharSet :=
  .named (.category category)

def ofCategories (categories : List Category) : CharSet :=
  .unions (categories.map ofCategory)

def casedLetters : List Category :=
  [.uppercaseLetter, .lowercaseLetter, .titlecaseLetter]

def letters : List Category :=
  casedLetters ++ [.modifierLetter, .otherLetter]

def marks : List Category :=
  [.nonspacingMark, .spacingMark, .enclosingMark]

def numbers : List Category :=
  [.decimalNumber, .letterNumber, .fractionNumber]

def brackets : List Category :=
  [.openingBracket, .closingBracket, .initialQuote, .finalQuote]

def punctuation : List Category :=
  [.connector, .dash, .otherPunctuation] ++ brackets

def symbols : List Category :=
  [.mathSymbol, .currencySymbol, .modifierSymbol, .otherSymbol]

def separators : List Category :=
  [.space, .lineSeparator, .paragraphSeparator]

def unassigned : CharSet :=
  .complement (ofCategories Category.all)

def category? : String → Option Category
  | "lu" | "uppercaseletter" => some .uppercaseLetter
  | "ll" | "lowercaseletter" => some .lowercaseLetter
  | "lt" | "titlecaseletter" => some .titlecaseLetter
  | "lm" | "modifierletter" => some .modifierLetter
  | "lo" | "otherletter" => some .otherLetter
  | "mn" | "nonspacingmark" => some .nonspacingMark
  | "mc" | "spacingmark" => some .spacingMark
  | "me" | "enclosingmark" => some .enclosingMark
  | "nd" | "decimalnumber" | "digit" => some .decimalNumber
  | "nl" | "letternumber" => some .letterNumber
  | "no" | "othernumber" => some .fractionNumber
  | "pc" | "connectorpunctuation" => some .connector
  | "pd" | "dashpunctuation" => some .dash
  | "ps" | "openpunctuation" => some .openingBracket
  | "pe" | "closepunctuation" => some .closingBracket
  | "pi" | "initialpunctuation" => some .initialQuote
  | "pf" | "finalpunctuation" => some .finalQuote
  | "po" | "otherpunctuation" => some .otherPunctuation
  | "sm" | "mathsymbol" => some .mathSymbol
  | "sc" | "currencysymbol" => some .currencySymbol
  | "sk" | "modifiersymbol" => some .modifierSymbol
  | "so" | "othersymbol" => some .otherSymbol
  | "zs" | "spaceseparator" => some .space
  | "zl" | "lineseparator" => some .lineSeparator
  | "zp" | "paragraphseparator" => some .paragraphSeparator
  | "cc" | "control" | "cntrl" => some .control
  | "cf" | "format" => some .format
  | "co" | "privateuse" => some .privateUse
  | _ => none

/-- The characters of a category or of a group of categories. What is no letter, mark, number,
punctuation, symbol or separator is of the group `other`, unassigned characters among it. -/
def generalCategory? (name : String) : Option CharSet :=
  match name with
  | "any" => some .everything
  | "ascii" => some ascii
  | "assigned" => some (ofCategories Category.all)
  | "cn" | "unassigned" => some unassigned
  | "l" | "letter" => some (ofCategories letters)
  | "lc" | "casedletter" => some (ofCategories casedLetters)
  | "m" | "mark" | "combiningmark" => some (ofCategories marks)
  | "n" | "number" => some (ofCategories numbers)
  | "p" | "punctuation" | "punct" => some (ofCategories punctuation)
  | "s" | "symbol" => some (ofCategories symbols)
  | "z" | "separator" => some (ofCategories separators)
  | "c" | "other" =>
      some (.complement (ofCategories
        (letters ++ marks ++ numbers ++ punctuation ++ symbols ++ separators)))
  | _ => (category? name).map ofCategory

end Callsite.Pattern

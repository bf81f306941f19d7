import Callsite.Text.Blank
import Callsite.Text.Case
import Callsite.Text.Category

set_option autoImplicit false

/-! Sets of characters as patterns write them: ranges, tables, named classes, and the operations of
bracketed classes. Membership is computed on the expression, so a set is never expanded. -/

namespace Callsite

open Text

inductive CharClass where
  | wordPart
  | decimalDigit
  | blank
  | category (kind : Category)
  deriving DecidableEq, Repr

def CharClass.has : CharClass → Char → Bool
  | .wordPart, c => isWordPart c
  | .decimalDigit, c => isDecimalDigit c
  | .blank, c => isBlank c
  | .category kind, c => kind.has c

inductive CharSet where
  | nothing
  | range (low high : Char)
  /-- The code points of a table, which is sorted. -/
  | ranges (table : List (Nat × Nat))
  | named (kind : CharClass)
  | complement (set : CharSet)
  | union (left right : CharSet)
  | inter (left right : CharSet)
  /-- Every character that differs from a member in case only; in ASCII letters alone if so asked. -/
  | anyCase (asciiOnly : Bool) (set : CharSet)
  deriving DecidableEq, Repr

namespace CharSet

def has : CharSet → Char → Bool
  | nothing, _ => false
  | range low high, c => low ≤ c && c ≤ high
  | ranges table, c => inRanges table c.toNat
  | named kind, c => kind.has c
  | complement set, c => !set.has c
  | union left right, c => left.has c || right.has c
  | inter left right, c => left.has c && right.has c
  | anyCase asciiOnly set, c =>
      (if asciiOnly then asciiCaseVariants c else caseVariants c).any set.has

def single (c : Char) : CharSet :=
  range c c

def everything : CharSet :=
  complement nothing

def difference (left right : CharSet) : CharSet :=
  inter left (complement right)

def symmetricDifference (left right : CharSet) : CharSet :=
  union (difference left right) (difference right left)

def unions (sets : List CharSet) : CharSet :=
  sets.foldr union nothing

def complementIf (negated : Bool) (set : CharSet) : CharSet :=
  if negated then complement set else set

end CharSet

end Callsite

import Callsite.Toml.Reader

set_option autoImplicit false

/-! Writing TOML. A string is written between double quotes if it needs no escapes there, else between
single quotes if it can be, else between three quotes; lists of two items or more take a line for each
item. -/

namespace Callsite.Toml

inductive StringStyle where
  | quoted
  | literal
  | quotedLines
  | literalLines
  deriving DecidableEq, Repr

/-- Whether a character has to be escaped between double quotes, and cannot stand between single ones.
Tabs and line feeds do not count. -/
def isControl (c : Char) : Bool :=
  (c.toNat < 32 && c ≠ '\t' && c ≠ '\n') || c.toNat = 127

/-- The length of the longest row of `c`, `row` being that of the row that goes on. -/
def longestRow (c : Char) (row : Nat) : List Char → Nat
  | [] => row
  | first :: rest =>
      if first = c then longestRow c (row + 1) rest else max row (longestRow c 0 rest)

def styleOf (text : List Char) : StringStyle :=
  let control := text.any isControl
  let backslash := text.contains '\\'
  let newline := text.contains '\n'
  let double := longestRow '"' 0 text
  let single := longestRow '\'' 0 text
  if !(control || backslash || newline) && double = 0 then .quoted
  else if !(control || newline) && single = 0 then .literal
  else if !(control || backslash) && double ≤ 2 then .quotedLines
  else if !control && single ≤ 2 then .literalLines
  else if newline then .quotedLines
  else .quoted

def hexDigit (value : Nat) : Char :=
  Char.ofNat (if value < 10 then 48 + value else 55 + value)

def escapeLetter? (lines : Bool) (c : Char) : Option Char :=
  if c = '\x08' then some 'b'
  else if c = '\t' then some 't'
  else if c = '\n' then if lines then none else some 'n'
  else if c = '\x0c' then some 'f'
  else if c = '\r' then some 'r'
  else if c = '\\' then some '\\'
  else none

def escapedChar (lines : Bool) (c : Char) : List Char :=
  match escapeLetter? lines c with
  | some letter => ['\\', letter]
  | none =>
      if isControl c then ['\\', 'u', '0', '0', hexDigit (c.toNat / 16), hexDigit (c.toNat % 16)]
      else [c]

/-- The text between double quotes. Over several lines two quotes in a row stand for themselves;
`quotes` is the number of those that precede. -/
def escaped (lines : Bool) (quotes : Nat) : List Char → List Char
  | [] => []
  | c :: rest =>
      if c = '"' then
        if lines && quotes < 2 then '"' :: escaped lines (quotes + 1) rest
        else '\\' :: '"' :: escaped lines 0 rest
      else escapedChar lines c ++ escaped lines 0 rest

def openingBreak (text : List Char) : List Char :=
  if text.contains '\n' then ['\n'] else []

def writeStyled (text : List Char) : StringStyle → List Char
  | .quoted => '"' :: escaped false 0 text ++ ['"']
  | .literal => '\'' :: text ++ ['\'']
  | .quotedLines => ['"', '"', '"'] ++ openingBreak text ++ escaped true 0 text ++ ['"', '"', '"']
  | .literalLines => ['\'', '\'', '\''] ++ openingBreak text ++ text ++ ['\'', '\'', '\'']

def writeString (text : String) : List Char :=
  writeStyled text.toList (styleOf text.toList)

def writeName (name : String) : List Char :=
  let text := name.toList
  let control := text.any fun c => isControl c || c = '\n'
  if !text.isEmpty && text.all isKeyChar then text
  else if !(control || text.contains '\\' || text.contains '"') then writeStyled text .quoted
  else if !(control || text.contains '\'') then writeStyled text .literal
  else writeStyled text .quoted

def writeItemLines : List String → List Char
  | [] => []
  | item :: rest => [' ', ' ', ' ', ' '] ++ writeString item ++ [',', '\n'] ++ writeItemLines rest

def writeStrings : List String → List Char
  | [] => ['[', ']']
  | [item] => '[' :: writeString item ++ [']']
  | items => ['[', '\n'] ++ writeItemLines items ++ [']']

def writeBool (value : Bool) : List Char :=
  if value then ['t', 'r', 'u', 'e'] else ['f', 'a', 'l', 's', 'e']

/-- A whole number, if it has no more than 64 bits. Larger ones cannot be written. -/
def writeNatural? (value : Nat) : Option (List Char) :=
  if value < integerBound then some (toString value).toList else none

def writeEntry (name : String) (value : List Char) : List Char :=
  writeName name ++ [' ', '=', ' '] ++ value ++ ['\n']

def writeHeader (path : String) : List Char :=
  '[' :: path.toList ++ [']', '\n']

end Callsite.Toml

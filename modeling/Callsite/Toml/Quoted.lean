import Callsite.Toml.Scan

set_option autoImplicit false

/-! Reading quoted strings. Between double quotes a backslash begins an escape; between single quotes
every character stands for itself. Either kind may be opened by three quotes, and then go over several
lines: a line break right after the opening quotes does not count, every other one is a line feed, and
the string may hold one or two quotes in a row, also right before its end. -/

namespace Callsite.Toml

inductive QuoteState where
  | plain
  | escape
  /-- Inside a number, with how many of its digits are to come and what has been read. -/
  | number (digits value : Nat)
  /-- After a backslash and blanks, which only a line break may end. -/
  | lineEnd
  /-- After a backslash at the end of a line: blanks and line breaks do not count. -/
  | folded
  deriving DecidableEq, Repr

inductive QuoteStep where
  | refuse
  | go (state : QuoteState)
  | add (c : Char) (state : QuoteState)
  | close (quotes rest : List Char)
  deriving DecidableEq, Repr

def hexDigit? (c : Char) : Option Nat :=
  if '0' ≤ c && c ≤ '9' then some (c.toNat - 48)
  else if 'a' ≤ c && c ≤ 'f' then some (c.toNat - 87)
  else if 'A' ≤ c && c ≤ 'F' then some (c.toNat - 55)
  else none

def escapedChar? : Char → Option Char
  | 'b' => some '\x08'
  | 't' => some '\t'
  | 'n' => some '\n'
  | 'f' => some '\x0c'
  | 'r' => some '\r'
  | '"' => some '"'
  | '\\' => some '\\'
  | _ => none

def charOf? (value : Nat) : Option Char :=
  if value.isValidChar then some (Char.ofNat value) else none

/-- How a string over several lines ends at a quote, `rest` being what follows the quote: at the third
quote in a row, or the fourth or fifth if there are so many. -/
def closing? (quote : Char) (rest : List Char) : Option (List Char × List Char) :=
  let further := (rest.takeWhile (· = quote)).length
  if further < 2 then none
  else
    let kept := min (further - 2) 2
    some (List.replicate kept quote, rest.drop (2 + kept))

def plainStep (lines : Bool) (c : Char) (rest : List Char) : QuoteStep :=
  if c = '"' then
    if lines then
      match closing? '"' rest with
      | some (quotes, rest) => .close quotes rest
      | none => .add c .plain
    else .close [] rest
  else if c = '\\' then .go .escape
  else if isPlain c then .add c .plain
  else if lines && c = '\n' then .add c .plain
  else if lines && c = '\r' && rest.head? = some '\n' then .go .plain
  else .refuse

def foldStep (c : Char) (rest : List Char) (state : QuoteState) : QuoteStep :=
  if isBlank c then .go state
  else if c = '\n' then .go .folded
  else if c = '\r' && rest.head? = some '\n' then .go .folded
  else .refuse

/-- What the character `c` does, before `rest`; `lines` says whether the string may go over several
lines. -/
def quoteStep (lines : Bool) (state : QuoteState) (c : Char) (rest : List Char) : QuoteStep :=
  match state with
  | .plain => plainStep lines c rest
  | .escape =>
      match escapedChar? c with
      | some value => .add value .plain
      | none =>
          if c = 'u' then .go (.number 4 0)
          else if c = 'U' then .go (.number 8 0)
          else if lines then foldStep c rest .lineEnd
          else .refuse
  | .number digits value =>
      match hexDigit? c with
      | none => .refuse
      | some digit =>
          if digits ≤ 1 then
            match charOf? (16 * value + digit) with
            | some value => .add value .plain
            | none => .refuse
          else .go (.number (digits - 1) (16 * value + digit))
  | .lineEnd => foldStep c rest .lineEnd
  | .folded =>
      match foldStep c rest .folded with
      | .refuse => plainStep lines c rest
      | step => step

def readQuoted (lines : Bool) (state : QuoteState) : List Char → Option (List Char × List Char)
  | [] => none
  | c :: rest =>
      match quoteStep lines state c rest with
      | .refuse => none
      | .go state => readQuoted lines state rest
      | .add value state => do
          let (content, after) ← readQuoted lines state rest
          some (value :: content, after)
      | .close quotes after => some (quotes, after)

def readLiteral (lines : Bool) : List Char → Option (List Char × List Char)
  | [] => none
  | c :: rest =>
      let step : QuoteStep :=
        if c = '\'' then
          if lines then
            match closing? '\'' rest with
            | some (quotes, after) => .close quotes after
            | none => .add c .plain
          else .close [] rest
        else if isPlain c then .add c .plain
        else if lines && c = '\n' then .add c .plain
        else if lines && c = '\r' && rest.head? = some '\n' then .go .plain
        else .refuse
      match step with
      | .refuse => none
      | .go _ => readLiteral lines rest
      | .add value _ => do
          let (content, after) ← readLiteral lines rest
          some (value :: content, after)
      | .close quotes after => some (quotes, after)

def dropLineBreak (text : List Char) : List Char :=
  (lineBreak? text).getD text

def lineString? : List Char → Option (List Char × List Char)
  | '"' :: rest => readQuoted false .plain rest
  | '\'' :: rest => readLiteral false rest
  | _ => none

def string? : List Char → Option (List Char × List Char)
  | '"' :: '"' :: '"' :: rest => readQuoted true .plain (dropLineBreak rest)
  | '\'' :: '\'' :: '\'' :: rest => readLiteral true (dropLineBreak rest)
  | text => lineString? text

end Callsite.Toml

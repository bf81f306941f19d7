import Callsite.Timestamp
import Callsite.Toml.Number

set_option autoImplicit false

/-! Reading dates and times: `2024-01-02`, `03:04:05.678`, both with a `T` or a blank between them, and
then also an offset, `Z` or `+09:30`. A moment is kept as text, with a `T`, no zeros at the end of the
fraction, and no more than nine digits of it. -/

namespace Callsite.Toml

def twoDigits? (low high : Nat) : List Char → Option (List Char × List Char)
  | tens :: ones :: rest =>
      let value := valueIn 10 [tens, ones]
      if isDigit tens && isDigit ones && low ≤ value && value ≤ high then some ([tens, ones], rest)
      else none
  | _ => none

def after? (c : Char) : List Char → Option (List Char)
  | [] => none
  | first :: rest => if first = c then some rest else none

def date? (text : List Char) : Option (List Char × List Char) := do
  let year := text.take 4
  if year.length ≠ 4 || !year.all isDigit then none
  let (month, rest) ← twoDigits? 1 12 (← after? '-' (text.drop 4))
  let (day, rest) ← twoDigits? 1 31 (← after? '-' rest)
  if Timestamp.isDate (valueIn 10 year) (valueIn 10 month) (valueIn 10 day) then
    some (year ++ '-' :: month ++ '-' :: day, rest)
  else none

def secondFraction (text : List Char) : List Char × List Char :=
  match text with
  | '.' :: rest =>
      let digits := rest.takeWhile isDigit
      if digits.isEmpty then ([], text)
      else
        let kept := ((digits.take 9).reverse.dropWhile (· = '0')).reverse
        (if kept.isEmpty then [] else '.' :: kept, rest.drop digits.length)
  | _ => ([], text)

def time? (text : List Char) : Option (List Char × List Char) := do
  let (hour, rest) ← twoDigits? 0 23 text
  let (minute, rest) ← twoDigits? 0 59 (← after? ':' rest)
  let (second, rest) ← twoDigits? 0 60 (← after? ':' rest)
  let (fraction, rest) := secondFraction rest
  some (hour ++ ':' :: minute ++ ':' :: second ++ fraction, rest)

/-- An offset from universal time. No offset is neither ahead nor behind. -/
def offset? : List Char → Option (List Char × List Char)
  | 'Z' :: rest | 'z' :: rest => some (['Z'], rest)
  | direction :: rest => do
      if direction ≠ '+' && direction ≠ '-' then none
      let (hour, rest) ← twoDigits? 0 23 rest
      let (minute, rest) ← twoDigits? 0 59 (← after? ':' rest)
      let direction := if valueIn 10 (hour ++ minute) = 0 then '+' else direction
      some (direction :: hour ++ ':' :: minute, rest)
  | [] => none

def afterTimeMark? : List Char → Option (List Char)
  | 'T' :: rest | 't' :: rest | ' ' :: rest => some rest
  | _ => none

def dateAndTime? (text : List Char) : Option (List Char × List Char) := do
  let (date, rest) ← date? text
  match afterTimeMark? rest >>= time? with
  | none => some (date, rest)
  | some (time, rest) =>
      let (offset, rest) := (offset? rest).getD ([], rest)
      some (date ++ 'T' :: time ++ offset, rest)

def moment? (text : List Char) : Option (Toml × List Char) := do
  let (content, rest) ← (dateAndTime? text).or (time? text)
  some (.moment (String.ofList content), rest)

end Callsite.Toml

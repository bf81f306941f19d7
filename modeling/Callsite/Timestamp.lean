import Callsite.Text.Blank
import Callsite.Text.Letter

set_option autoImplicit false

/-! Points in time, read from and written as texts such as `2024-01-02T03:04:05.678Z`. Reading is
lenient: numbers may be shorter than usual, blanks may stand around them, a blank or small letter may
stand for the `T`, and any offset from universal time may follow. Writing uses universal time. -/

namespace Callsite

open Text

/-- The seconds since the beginning of 1970 in universal time, and the nanoseconds of the second. More
than a full second of nanoseconds belongs to a leap second. -/
structure Timestamp where
  seconds : Int
  nanoseconds : Nat
  deriving DecidableEq, Repr

namespace Timestamp

/-! ### The calendar -/

/-- The number of days from the beginning of 1970 to a date, with years that begin in March. -/
def daysOfDate (year : Int) (month day : Nat) : Int :=
  let shifted := if month ≤ 2 then year - 1 else year
  let era := shifted.fdiv 400
  let yearOfEra := shifted - era * 400
  let monthFromMarch := (month + 9) % 12
  let dayOfYear : Int := ((153 * monthFromMarch + 2) / 5 + day - 1 : Nat)
  let dayOfEra := yearOfEra * 365 + yearOfEra / 4 - yearOfEra / 100 + dayOfYear
  era * 146097 + dayOfEra - 719468

def dateOfDays (days : Int) : Int × Nat × Nat :=
  let shifted := days + 719468
  let era := shifted.fdiv 146097
  let dayOfEra := (shifted - era * 146097).toNat
  let yearOfEra := (dayOfEra - dayOfEra / 1460 + dayOfEra / 36524 - dayOfEra / 146096) / 365
  let dayOfYear := dayOfEra - (365 * yearOfEra + yearOfEra / 4 - yearOfEra / 100)
  let monthFromMarch := (5 * dayOfYear + 2) / 153
  let day := dayOfYear - (153 * monthFromMarch + 2) / 5 + 1
  let month := if monthFromMarch < 10 then monthFromMarch + 3 else monthFromMarch - 9
  let year : Int := yearOfEra + era * 400
  (if month ≤ 2 then year + 1 else year, month, day)

def isLeapYear (year : Int) : Bool :=
  year % 4 = 0 && (year % 100 ≠ 0 || year % 400 = 0)

def daysInMonth (year : Int) (month : Nat) : Nat :=
  if month = 2 then if isLeapYear year then 29 else 28
  else if month ∈ [4, 6, 9, 11] then 30
  else 31

/-- The calendar goes from the beginning of the year -262143 to the end of the year 262142. -/
def isYear (year : Int) : Bool :=
  -262143 ≤ year && year ≤ 262142

def isDate (year : Int) (month day : Nat) : Bool :=
  isYear year && 1 ≤ month && month ≤ 12 && 1 ≤ day && day ≤ daysInMonth year month

/-! ### Reading -/

def digitValue (c : Char) : Nat :=
  c.toNat - 48

def numberOf (digits : List Char) : Nat :=
  digits.foldl (fun value c => value * 10 + digitValue c) 0

def readNumber (width : Nat) (text : List Char) : Option (Nat × List Char) :=
  let digits := (text.takeWhile isAsciiDigit).take width
  if digits.isEmpty then none else some (numberOf digits, text.drop digits.length)

/-- A number of at most two digits after optional blanks, which has to lie within bounds. -/
def readField (low high : Nat) (text : List Char) : Option (Nat × List Char) := do
  let (value, rest) ← readNumber 2 (trimStart text)
  if low ≤ value && value ≤ high then some (value, rest) else none

/-- A year of at most four digits, or of any length after a sign. -/
def readYear (text : List Char) : Option (Int × List Char) :=
  match trimStart text with
  | '-' :: rest => do
      let (value, rest) ← readNumber rest.length rest
      some (-(value : Int), rest)
  | '+' :: rest => do
      let (value, rest) ← readNumber rest.length rest
      some ((value : Int), rest)
  | text => do
      let (value, rest) ← readNumber 4 text
      some ((value : Int), rest)

def readMark (c : Char) (text : List Char) : Option (List Char) :=
  match trimStart text with
  | found :: rest => if found = c then some rest else none
  | [] => none

/-- A fraction of a second in nanoseconds, zero if there is none. Digits beyond the ninth are
dropped. -/
def readFraction : List Char → Option (Nat × List Char)
  | '.' :: rest =>
      let digits := rest.takeWhile isAsciiDigit
      if digits.isEmpty then none
      else
        let kept := digits.take 9
        some (numberOf kept * Nat.pow 10 (9 - kept.length), rest.drop digits.length)
  | text => some (0, text)

def readTwoDigits (tens : Nat) : List Char → Option (Nat × List Char)
  | first :: second :: rest =>
      if isAsciiDigit first && isAsciiDigit second && digitValue first ≤ tens then
        some (digitValue first * 10 + digitValue second, rest)
      else none
  | _ => none

def readOffset (text : List Char) : Option (Int × List Char) :=
  match text with
  | 'Z' :: rest | 'z' :: rest => some (0, rest)
  | first :: second :: third :: rest =>
      if first ∈ ['U', 'u'] && second ∈ ['T', 't'] && third ∈ ['C', 'c'] then some (0, rest)
      else do
        let negative ← if first = '+' then some false
          else if first = '-' || first = '\u2212' then some true
          else none
        let (hours, rest) ← readTwoDigits 9 (second :: third :: rest)
        let (minutes, rest) ← readTwoDigits 5 (rest.dropWhile fun c => c = ':' || isBlank c)
        if hours < 24 then
          let offset : Int := hours * 3600 + minutes * 60
          some (if negative then -offset else offset, rest)
        else none
  | _ => none

def parse? (text : String) : Option Timestamp := do
  let (year, rest) ← readYear text.toList
  let (month, rest) ← readField 1 12 (← readMark '-' rest)
  let (day, rest) ← readField 1 31 (← readMark '-' rest)
  let rest ← match rest with
    | 'T' :: rest | 't' :: rest | ' ' :: rest => some rest
    | _ => none
  let (hour, rest) ← readField 0 23 rest
  let (minute, rest) ← readField 0 59 (← readMark ':' rest)
  let (second, rest) ← readField 0 60 (← readMark ':' rest)
  let (fraction, rest) ← readFraction rest
  let (offset, rest) ← readOffset (trimStart rest)
  if isDate year month day && (trimStart rest).isEmpty then
    let leap := second = 60
    let second := if leap then 59 else second
    let local_ := daysOfDate year month day * 86400 + (hour * 3600 + minute * 60 + second : Nat)
    let seconds := local_ - offset
    if isYear (dateOfDays (seconds.fdiv 86400)).1 then
      some ⟨seconds, if leap then fraction + 1000000000 else fraction⟩
    else none
  else none

/-! ### Writing -/

def padded (width value : Nat) : String :=
  let digits := toString value
  String.ofList (List.replicate (width - digits.length) '0') ++ digits

/-- Four digits, and a sign for a year outside of those. -/
def yearText (year : Int) : String :=
  if 0 ≤ year && year ≤ 9999 then padded 4 year.toNat
  else (if year < 0 then "-" else "+") ++ padded 4 year.natAbs

/-- The fraction in as few groups of three digits as hold it. -/
def fractionText (nanoseconds : Nat) : String :=
  if nanoseconds = 0 then ""
  else if nanoseconds % 1000000 = 0 then "." ++ padded 3 (nanoseconds / 1000000)
  else if nanoseconds % 1000 = 0 then "." ++ padded 6 (nanoseconds / 1000)
  else "." ++ padded 9 nanoseconds

def render (time : Timestamp) : String :=
  let days := time.seconds.fdiv 86400
  let secondOfDay := (time.seconds - days * 86400).toNat
  let (year, month, day) := dateOfDays days
  let leap := 1000000000 ≤ time.nanoseconds
  let second := secondOfDay % 60 + if leap then 1 else 0
  let fraction := if leap then time.nanoseconds - 1000000000 else time.nanoseconds
  yearText year ++ "-" ++ padded 2 month ++ "-" ++ padded 2 day ++ "T" ++
    padded 2 (secondOfDay / 3600) ++ ":" ++ padded 2 (secondOfDay / 60 % 60) ++ ":" ++
    padded 2 second ++ fractionText fraction ++ "Z"

end Timestamp

end Callsite

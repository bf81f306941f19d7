import Callsite.Toml.Basic
import Callsite.Toml.Quoted

set_option autoImplicit false

/-! Reading numbers. Between two digits there may be an underscore. Whole numbers have 64 bits; other
numbers have to be less than what rounds to infinity. -/

namespace Callsite.Toml

def isDigit (c : Char) : Bool :=
  '0' ≤ c && c ≤ '9'

/-- The digits that go on a number, without the underscores between them, and what follows. -/
def moreDigits (accept : Char → Bool) : List Char → List Char × List Char
  | [] => ([], [])
  | '_' :: c :: rest =>
      if accept c then
        let (digits, after) := moreDigits accept rest
        (c :: digits, after)
      else ([], '_' :: c :: rest)
  | c :: rest =>
      if accept c then
        let (digits, after) := moreDigits accept rest
        (c :: digits, after)
      else ([], c :: rest)

def digits? (accept : Char → Bool) : List Char → Option (List Char × List Char)
  | [] => none
  | c :: rest =>
      if accept c then
        let (digits, after) := moreDigits accept rest
        some (c :: digits, after)
      else none

/-- The digits before a point: no further digit follows a leading zero. -/
def wholeDigits? : List Char → Option (List Char × List Char)
  | '0' :: rest => some (['0'], rest)
  | text => digits? isDigit text

def sign : List Char → Bool × List Char
  | '-' :: rest => (true, rest)
  | '+' :: rest => (false, rest)
  | text => (false, text)

def valueIn (base : Nat) (digits : List Char) : Nat :=
  digits.foldl (fun value c => base * value + (hexDigit? c).getD 0) 0

def integerBound : Nat :=
  Nat.pow 2 63

/-- A whole number, if it has no more than 64 bits. -/
def signed? (negative : Bool) (value : Nat) : Option Int :=
  if negative then if value ≤ integerBound then some (-(value : Int)) else none
  else if value < integerBound then some value else none

def basedInteger? (base : Nat) (text : List Char) : Option (Toml × List Char) := do
  let accept := fun c => (hexDigit? c).any (· < base)
  let (digits, rest) ← digits? accept text
  some (.integer (← signed? false (valueIn base digits)), rest)

def integer? : List Char → Option (Toml × List Char)
  | '0' :: 'x' :: rest => basedInteger? 16 rest
  | '0' :: 'o' :: rest => basedInteger? 8 rest
  | '0' :: 'b' :: rest => basedInteger? 2 rest
  | text => do
      let (negative, rest) := sign text
      let (digits, rest) ← wholeDigits? rest
      some (.integer (← signed? negative (valueIn 10 digits)), rest)

def fraction? : List Char → Option (List Char × List Char)
  | '.' :: rest => digits? isDigit rest
  | _ => none

def exponent? : List Char → Option (Bool × List Char × List Char)
  | 'e' :: rest | 'E' :: rest => do
      let (negative, rest) := sign rest
      let (digits, rest) ← digits? isDigit rest
      some (negative, digits, rest)
  | _ => none

def leastInfinite : Nat :=
  Nat.pow 2 1024 - Nat.pow 2 970

def roundsToInfinity (value : Nat) (exponent : Int) : Bool :=
  let size : Int := (toString value).length
  if value = 0 || size + exponent < 300 then false
  else if size + exponent > 320 then true
  else match exponent with
    | .ofNat power => leastInfinite ≤ value * Nat.pow 10 power
    | .negSucc power => leastInfinite * Nat.pow 10 (power + 1) ≤ value

def decimalDigits? (text : List Char) : Option (Toml × List Char) := do
  let (negative, rest) := sign text
  let (whole, afterWhole) ← wholeDigits? rest
  let (fraction, afterFraction) := (fraction? afterWhole).getD ([], afterWhole)
  let (below, exponent, after) := (exponent? afterFraction).getD (false, [], afterFraction)
  if after.length = afterWhole.length then none
  let power : Int := valueIn 10 exponent
  let shifted := (if below then -power else power) - fraction.length
  if !negative && roundsToInfinity (valueIn 10 (whole ++ fraction)) shifted then none
  some (.decimal (String.ofList (text.take (text.length - after.length))), after)

def namedDecimal? (text : List Char) : Option (Toml × List Char) :=
  match (sign text).2 with
  | 'i' :: 'n' :: 'f' :: rest => some (.decimal "inf", rest)
  | 'n' :: 'a' :: 'n' :: rest => some (.decimal "nan", rest)
  | _ => none

def decimal? (text : List Char) : Option (Toml × List Char) :=
  (decimalDigits? text).or (namedDecimal? text)

end Callsite.Toml

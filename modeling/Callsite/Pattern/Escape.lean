import Callsite.Pattern.Basic

set_option autoImplicit false

/-! Reading escapes: what stands after a backslash in a pattern. In verbose patterns blanks and
comments may stand inside the longer escapes. -/

namespace Callsite

open Text

inductive PatternFault where
  | unclosedGroup
  | unopenedGroup
  | unclosedClass
  | emptyRange
  | classItem
  | nothingToRepeat
  | repetitionCount
  | groupName
  | duplicateGroupName
  | lookAround
  | backreference
  | unfinished
  | unknownEscape
  | unknownFlag
  | unknownProperty
  | codePoint
  | beyondText
  | tooDeep
  deriving DecidableEq, Repr

namespace Pattern

def isMeta (c : Char) : Bool :=
  c ∈ ['\\', '.', '+', '*', '?', '(', ')', '|', '[', ']', '\x7b', '\x7d', '^', '$', '#', '&', '-', '~']

def escape : List Char → List Char
  | [] => []
  | c :: rest => if isMeta c then '\\' :: c :: escape rest else c :: escape rest

/-- Drops blanks, and comments from `#` to the end of the line; `inComment` says that a comment has
begun. -/
def dropTrivia (inComment : Bool) : List Char → List Char
  | [] => []
  | c :: rest =>
      if inComment then dropTrivia (c ≠ '\n') rest
      else if isBlank c then dropTrivia false rest
      else if c = '#' then dropTrivia true rest
      else c :: rest

def settle (verbose : Bool) (text : List Char) : List Char :=
  if verbose then dropTrivia false text else text

inductive Escape where
  | literal (c : Char)
  /-- A code point beyond ASCII with two hexadecimal digits, which may mean a single byte. -/
  | wideByte (c : Char)
  | named (negated : Bool) (kind : CharClass)
  | property (negated : Bool) (name : List Char)
  | look (unicode ascii : Look)

def hexValue? (c : Char) : Option Nat :=
  if '0' ≤ c && c ≤ '9' then some (c.toNat - 48)
  else if 'a' ≤ c && c ≤ 'f' then some (c.toNat - 87)
  else if 'A' ≤ c && c ≤ 'F' then some (c.toNat - 55)
  else none

def codePoint (digits : List Nat) : Except PatternFault Char :=
  let value := digits.foldl (fun value digit => value * 16 + digit) 0
  if value < 0xd800 || (0xe000 ≤ value && value ≤ 0x10ffff) then .ok (Char.ofNat value)
  else .error .codePoint

def readFixedHex (verbose : Bool) : Nat → List Char → Except PatternFault (List Nat × List Char)
  | 0, text => .ok ([], text)
  | count + 1, text =>
      match text with
      | [] => .error .unfinished
      | c :: rest =>
          match hexValue? c with
          | none => .error .codePoint
          | some digit => do
              let (digits, rest) ← readFixedHex verbose count (settle verbose rest)
              .ok (digit :: digits, rest)

/-- Hexadecimal digits up to a closing brace; `fuel` is at least the length of the text. -/
def readBracedHex (verbose : Bool) : Nat → List Char → Except PatternFault (List Nat × List Char)
  | 0, _ => .error .unfinished
  | fuel + 1, text =>
      match settle verbose text with
      | [] => .error .unfinished
      | '\x7d' :: rest => .ok ([], settle verbose rest)
      | c :: rest =>
          match hexValue? c with
          | none => .error .codePoint
          | some digit => do
              let (digits, rest) ← readBracedHex verbose fuel rest
              .ok (digit :: digits, rest)

/-- The code point after `\x`, `\u` or `\U`, which take `width` digits unless in braces. -/
def readHex (verbose : Bool) (width : Nat) (text : List Char) :
    Except PatternFault (Escape × List Char) :=
  match settle verbose text with
  | [] => .error .unfinished
  | '\x7b' :: rest => do
      let (digits, rest) ← readBracedHex verbose (rest.length + 1) rest
      if digits.isEmpty then .error .codePoint
      else .ok (.literal (← codePoint digits), rest)
  | text => do
      let (digits, rest) ← readFixedHex verbose width text
      let c ← codePoint digits
      .ok (if width = 2 && 128 ≤ c.toNat then .wideByte c else .literal c, rest)

def readPropertyName (verbose : Bool) : Nat → List Char → Except PatternFault (List Char × List Char)
  | 0, _ => .error .unfinished
  | fuel + 1, text =>
      match settle verbose text with
      | [] => .error .unfinished
      | '\x7d' :: rest => .ok ([], rest)
      | c :: rest => do
          let (name, rest) ← readPropertyName verbose fuel rest
          .ok (c :: name, rest)

/-- The property after `\p` or `\P`: one letter, or a name in braces. -/
def readProperty (verbose negated : Bool) (text : List Char) :
    Except PatternFault (Escape × List Char) :=
  match settle verbose text with
  | [] => .error .unfinished
  | '\x7b' :: rest => do
      let (name, rest) ← readPropertyName verbose (rest.length + 1) rest
      .ok (.property negated name, rest)
  | '\\' :: _ => .error .unknownProperty
  | c :: rest => .ok (.property negated [c], settle verbose rest)

def readEdgeName (verbose : Bool) : Nat → List Char → List Char × List Char
  | 0, text => ([], text)
  | fuel + 1, text =>
      match text with
      | [] => ([], [])
      | c :: rest =>
          if isAsciiLetter c || c = '-' then
            let (name, rest) := readEdgeName verbose fuel (settle verbose rest)
            (c :: name, rest)
          else ([], c :: rest)

/-- The word boundary after `\b`, which may name one side of a word in braces. Braces that open with
anything but a letter or hyphen are left for a repetition count. -/
def readBoundary (verbose : Bool) (text : List Char) : Except PatternFault (Escape × List Char) :=
  let plain : Escape := .look (.wordBoundary false) (.wordBoundary true)
  match text with
  | '\x7b' :: rest =>
      let inner := settle verbose rest
      match inner with
      | [] => .error .unfinished
      | c :: _ =>
          if isAsciiLetter c || c = '-' then
            match readEdgeName verbose inner.length inner with
            | (name, '\x7d' :: rest) =>
                match String.ofList name with
                | "start" => .ok (.look (.wordStart false) (.wordStart true), rest)
                | "end" => .ok (.look (.wordEnd false) (.wordEnd true), rest)
                | "start-half" => .ok (.look (.wordStartHalf false) (.wordStartHalf true), rest)
                | "end-half" => .ok (.look (.wordEndHalf false) (.wordEndHalf true), rest)
                | _ => .error .unknownEscape
            | _ => .error .unfinished
          else .ok (plain, text)
  | _ => .ok (plain, text)

def readEscape (verbose : Bool) : List Char → Except PatternFault (Escape × List Char)
  | [] => .error .unfinished
  | c :: rest =>
      if isAsciiDigit c then .error .backreference
      else if c = 'x' then readHex verbose 2 rest
      else if c = 'u' then readHex verbose 4 rest
      else if c = 'U' then readHex verbose 8 rest
      else if c = 'p' then readProperty verbose false rest
      else if c = 'P' then readProperty verbose true rest
      else match c with
        | 'd' => .ok (.named false .decimalDigit, rest)
        | 'D' => .ok (.named true .decimalDigit, rest)
        | 's' => .ok (.named false .blank, rest)
        | 'S' => .ok (.named true .blank, rest)
        | 'w' => .ok (.named false .wordPart, rest)
        | 'W' => .ok (.named true .wordPart, rest)
        | 'a' => .ok (.literal '\x07', rest)
        | 'f' => .ok (.literal '\x0c', rest)
        | 't' => .ok (.literal '\t', rest)
        | 'n' => .ok (.literal '\n', rest)
        | 'r' => .ok (.literal '\r', rest)
        | 'v' => .ok (.literal '\x0b', rest)
        | 'A' => .ok (.look .textStart .textStart, rest)
        | 'z' => .ok (.look .textEnd .textEnd, rest)
        | 'b' => readBoundary verbose rest
        | 'B' => .ok (.look (.notWordBoundary false) (.notWordBoundary true), rest)
        | '<' => .ok (.look (.wordStart false) (.wordStart true), rest)
        | '>' => .ok (.look (.wordEnd false) (.wordEnd true), rest)
        | c => if isAscii c && !isAsciiLetter c then .ok (.literal c, rest)
               else .error .unknownEscape

end Pattern

end Callsite

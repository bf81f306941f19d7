import Callsite.Language.Table

set_option autoImplicit false

/-! Function bodies: from the line of a declaration to the line that closes its block, within a window
of lines. Each block style scans the window once. -/

namespace Callsite

open Text

/-- The lines of a body, counted from 0, both ends included. A body that does not close inside the
window ends with the window. -/
structure Span where
  start : Nat
  stop : Nat
  closed : Bool
  deriving DecidableEq, Repr

namespace Body

def windowEnd (lines : List String) (scanLimit start : Nat) : Nat :=
  min (start + max scanLimit 1) lines.length

def window (lines : List String) (scanLimit start : Nat) : List String :=
  (lines.take (windowEnd lines scanLimit start)).drop start

def capped (start windowEnd : Nat) : Span :=
  ⟨start, max (windowEnd - 1) start, false⟩

/-- The number of open blocks after a line, or none once the last of them has closed. -/
abbrev LineScan := Nat → String → Option Nat

def closingLine? (scan : LineScan) (depth index : Nat) : List String → Option Nat
  | [] => none
  | line :: rest =>
      match scan depth line with
      | none => some index
      | some depth => closingLine? scan depth (index + 1) rest

def spanBy (scan : LineScan) (lines : List String) (scanLimit start : Nat) : Span :=
  match closingLine? scan 0 start (window lines scanLimit start) with
  | some stop => ⟨start, stop, true⟩
  | none => capped start (windowEnd lines scanLimit start)

/-- Counts braces. A closing brace before the first opening one does not count. -/
def scanBraces (depth : Nat) : List Char → Option Nat
  | [] => some depth
  | c :: rest =>
      if c = '\x7b' then scanBraces (depth + 1) rest
      else if c = '\x7d' then
        if depth = 0 then scanBraces 0 rest
        else if depth = 1 then none
        else scanBraces (depth - 1) rest
      else scanBraces depth rest

def byBraces : List String → Nat → Nat → Span :=
  spanBy fun depth line => scanBraces depth line.toList

/-- The width of the white space before a line: four for a tab, one for anything else. -/
def indentation (line : String) : Nat :=
  (line.toList.takeWhile isBlank).foldl (fun width c => width + if c = '\t' then 4 else 1) 0

/-- What the lines after a declaration say about its block: the index of its last line, and whether a
line at `base` or further left has ended it. Blank lines belong to no block. -/
def scanIndented (base last index : Nat) : List String → Nat × Bool
  | [] => (last, false)
  | line :: rest =>
      if isBlankText line then scanIndented base last (index + 1) rest
      else if indentation line ≤ base then (last, true)
      else scanIndented base index (index + 1) rest

/-- The body that ends before the first line indented no deeper than the declaration. The end of the
file closes it too. -/
def byIndentation (lines : List String) (scanLimit start : Nat) : Span :=
  let windowEnd := windowEnd lines scanLimit start
  match window lines scanLimit start with
  | [] => capped start windowEnd
  | first :: rest =>
      let (last, ended) := scanIndented (indentation first) start (start + 1) rest
      if ended || windowEnd = lines.length then ⟨start, last, true⟩
      else capped start windowEnd

def isMarkedWordPart (c : Char) : Bool :=
  isAlphanumeric c || c = '_' || c = '?' || c = '!'

/-- The words of a line up to its first number sign. -/
def codeWords (line : String) : List String :=
  ((splitTokens isMarkedWordPart [] (line.toList.takeWhile (· ≠ '#'))).filter (· ≠ [])).map
    String.ofList

def leadingOpeners : List String :=
  ["class", "module", "if", "unless", "while", "until", "case", "begin", "for"]

/-- Whether a word opens a block. A loop that leads its line has opened the block of its `do`. -/
def opensBlock (leading loopLine : Bool) (word : String) : Bool :=
  if word = "def" then true
  else if word = "do" then !loopLine
  else leading && word ∈ leadingOpeners

/-- Counts words that open blocks and the word `end`. An `end` before the first opening word does not
count. -/
def scanWords (loopLine leading : Bool) (depth : Nat) : List String → Option Nat
  | [] => some depth
  | word :: rest =>
      if opensBlock leading loopLine word then scanWords loopLine false (depth + 1) rest
      else if word = "end" then
        if depth = 0 then scanWords loopLine false 0 rest
        else if depth = 1 then none
        else scanWords loopLine false (depth - 1) rest
      else scanWords loopLine false depth rest

def isLoopLine (words : List String) : Bool :=
  words.head?.any (· ∈ ["while", "until", "for"])

def byEndKeyword : List String → Nat → Nat → Span :=
  spanBy fun depth line =>
    let words := codeWords line
    scanWords (isLoopLine words) true depth words

def isolate (style : BlockStyle) (lines : List String) (scanLimit start : Nat) : Span :=
  match style with
  | .braces => byBraces lines scanLimit start
  | .indentation => byIndentation lines scanLimit start
  | .endKeyword => byEndKeyword lines scanLimit start

end Body

end Callsite

import Callsite.Toml.Moment
import Callsite.Toml.Table

set_option autoImplicit false

/-! Reading TOML documents. A document is a sequence of lines, each of which is a header or binds a
key; blank lines and comments do not count. -/

namespace Callsite.Toml

/-! ### Keys -/

def isKeyChar (c : Char) : Bool :=
  isDigit c || ('a' ≤ c && c ≤ 'z') || ('A' ≤ c && c ≤ 'Z') || c = '_' || c = '-'

def name? (text : List Char) : Option (String × List Char) :=
  match text.takeWhile isKeyChar with
  | [] => do
      let (content, rest) ← lineString? text
      some (String.ofList content, rest)
  | bare => some (String.ofList bare, text.dropWhile isKeyChar)

/-- A key of at most `count` names with dots between them, as the names before the last and the last.
Blanks may stand around each name. -/
def key? : (count : Nat) → List Char → Option ((List String × String) × List Char)
  | 0, _ => none
  | count + 1, text => do
      let (name, rest) ← name? (skipBlanks text)
      match skipBlanks rest with
      | '.' :: rest => do
          let ((path, last), rest) ← key? count rest
          some ((name :: path, last), rest)
      | rest => some (([], name), rest)

/-- A key has at most so many names, and a part of a value has at most so many arrays and tables around
it. -/
def depthBound : Nat :=
  79

def dottedKey? (text : List Char) : Option ((List String × String) × List Char) :=
  key? depthBound text

/-! ### Values -/

def scalar? : List Char → Option (Toml × List Char)
  | 't' :: 'r' :: 'u' :: 'e' :: rest => some (.bool true, rest)
  | 'f' :: 'a' :: 'l' :: 's' :: 'e' :: rest => some (.bool false, rest)
  | text =>
      match string? text with
      | some (content, rest) => some (.string (String.ofList content), rest)
      | none => (moment? text).or ((decimal? text).or (integer? text))

/-- The items of an array up to its end. A comma may follow the last one. -/
def items? (item? : List Char → Option (Toml × List Char)) :
    (fuel : Nat) → List Char → Option (List Toml × List Char)
  | 0, _ => none
  | fuel + 1, text =>
      match skipLines false text with
      | ']' :: rest => some ([], rest)
      | text => do
          let (item, rest) ← item? text
          match skipLines false rest with
          | ',' :: rest => do
              let (items, rest) ← items? item? fuel rest
              some (item :: items, rest)
          | ']' :: rest => some ([item], rest)
          | _ => none

def pairs? (item? : List Char → Option (Toml × List Char)) :
    (fuel : Nat) → Entries → List Char → Option (Entries × List Char)
  | 0, _, _ => none
  | fuel + 1, entries, text => do
      let ((path, name), rest) ← dottedKey? text
      let (value, rest) ← item? (skipBlanks (← after? '=' rest))
      let entries ← put name value path entries
      match skipBlanks rest with
      | ',' :: rest => pairs? item? fuel entries rest
      | '\x7d' :: rest => some (entries, rest)
      | _ => none

def braced? (item? : List Char → Option (Toml × List Char)) (text : List Char) :
    Option (Entries × List Char) :=
  match skipBlanks text with
  | '\x7d' :: rest => some ([], rest)
  | text => pairs? item? (text.length + 1) [] text

/-- A value with at most `depth` arrays and tables around any part of it. -/
def value? : (depth : Nat) → List Char → Option (Toml × List Char)
  | 0, text => scalar? text
  | depth + 1, '[' :: rest => do
      let (items, rest) ← items? (value? depth) (rest.length + 1) rest
      some (.array items, rest)
  | depth + 1, '\x7b' :: rest => do
      let (entries, rest) ← braced? (value? depth) rest
      some (.table .inline entries, rest)
  | _ + 1, text => scalar? text

/-! ### Documents -/

inductive Statement where
  | table (path : List String) (name : String)
  | next (path : List String) (name : String)
  | entry (path : List String) (name : String) (value : Toml)
  deriving Repr

def statement? : List Char → Option (Statement × List Char)
  | '[' :: '[' :: rest => do
      let ((path, name), rest) ← dottedKey? rest
      let rest ← lineEnd? (← after? ']' (← after? ']' rest))
      some (.next path name, rest)
  | '[' :: rest => do
      let ((path, name), rest) ← dottedKey? rest
      let rest ← lineEnd? (← after? ']' rest)
      some (.table path name, rest)
  | text => do
      let ((path, name), rest) ← dottedKey? text
      let (value, rest) ← value? depthBound (skipBlanks (← after? '=' rest))
      some (.entry path name value, ← lineEnd? rest)

def statements? : (fuel : Nat) → List Char → Option (List Statement)
  | 0, _ => none
  | fuel + 1, text =>
      match skipBlanks text with
      | [] => some []
      | '#' :: _ => do statements? fuel (← lineEnd? text)
      | '\n' :: rest => statements? fuel rest
      | '\r' :: '\n' :: rest => statements? fuel rest
      | text => do
          let (statement, rest) ← statement? text
          some (statement :: (← statements? fuel rest))

/-- Adds what the statements say to the entries of a document, `header` being the last header. -/
def assemble? (header : List String) : List Statement → Entries → Option Entries
  | [], entries => some entries
  | .table path name :: rest, entries => do
      assemble? (path ++ [name]) rest (← openTable path name entries)
  | .next path name :: rest, entries => do
      assemble? (path ++ [name]) rest (← openNext path name entries)
  | .entry path name value :: rest, entries => do
      assemble? header rest (← within (put name value path) header entries)

/-- The entries of a document, if its text is one. A byte order mark may begin it. -/
def parse? (text : String) : Option Entries := do
  let chars := match text.toList with
    | '\ufeff' :: rest => rest
    | chars => chars
  assemble? [] (← statements? (chars.length + 1) chars) []

end Callsite.Toml

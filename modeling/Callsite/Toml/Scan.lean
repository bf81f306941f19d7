set_option autoImplicit false

/-! Blanks, comments and line breaks between the parts of a TOML document. A line ends with a line feed,
before which a carriage return may stand. -/

namespace Callsite.Toml

/-- The characters of comments and literal strings: all but control characters, and the tab. -/
def isPlain (c : Char) : Bool :=
  c = '\t' || (32 ≤ c.toNat && c.toNat ≠ 127)

def isBlank (c : Char) : Bool :=
  c = ' ' || c = '\t'

def skipBlanks (text : List Char) : List Char :=
  text.dropWhile isBlank

def lineBreak? : List Char → Option (List Char)
  | '\n' :: rest => some rest
  | '\r' :: '\n' :: rest => some rest
  | _ => none

def skipComment : List Char → List Char
  | '#' :: rest => rest.dropWhile isPlain
  | text => text

def lineEnd? (text : List Char) : Option (List Char) :=
  match skipComment (skipBlanks text) with
  | [] => some []
  | rest => lineBreak? rest

/-- Skips blanks, line breaks and comments. The text may begin inside a comment. -/
def skipLines (inComment : Bool) : List Char → List Char
  | [] => []
  | c :: rest =>
      if c = '\n' then skipLines false rest
      else if c = '\r' then
        if rest.head? = some '\n' then skipLines false rest else c :: rest
      else if inComment then
        if isPlain c then skipLines true rest else c :: rest
      else if isBlank c then skipLines false rest
      else if c = '#' then skipLines true rest
      else c :: rest

end Callsite.Toml

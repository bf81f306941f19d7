set_option autoImplicit false

/-! Lines of a text and cuts at byte offsets. A line ends at a line feed; one carriage return before
the line feed belongs to the line end. Offsets count bytes of the UTF-8 encoding, and a cut inside a
character is none. -/

namespace Callsite.Text

/-- The line read so far, in reverse order, without a carriage return at its end. -/
def closeLine : List Char → List Char
  | '\r' :: rest => rest.reverse
  | line => line.reverse

/-- Splits `text` at line feeds, `line` being the reversed beginning of the current line. A final
line feed opens no further line. -/
def splitLines (line : List Char) : List Char → List (List Char)
  | [] => if line.isEmpty then [] else [line.reverse]
  | c :: rest =>
      if c = '\n' then closeLine line :: splitLines [] rest else splitLines (c :: line) rest

def lines (text : String) : List String :=
  (splitLines [] text.toList).map String.ofList

def byteLength : List Char → Nat
  | [] => 0
  | c :: rest => c.utf8Size + byteLength rest

/-- The characters before byte `offset`, unless it lies inside a character or past the end. -/
def takeBytes? : List Char → Nat → Option (List Char)
  | _, 0 => some []
  | [], _ => none
  | c :: rest, offset =>
      if c.utf8Size ≤ offset then (takeBytes? rest (offset - c.utf8Size)).map (c :: ·) else none

/-- The characters from byte `offset` on, unless it lies inside a character or past the end. -/
def dropBytes? : List Char → Nat → Option (List Char)
  | text, 0 => some text
  | [], _ => none
  | c :: rest, offset =>
      if c.utf8Size ≤ offset then dropBytes? rest (offset - c.utf8Size) else none

end Callsite.Text

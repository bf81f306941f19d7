import Callsite.Pattern.CharSet

set_option autoImplicit false

/-! Patterns: the expressions by which rules recognise declarations and calls on a line. A pattern
is matched at a cursor and reports each captured group. -/

namespace Callsite

open Text

/-- A condition on the two characters next to a position. The flag of a word condition restricts
words to ASCII. -/
inductive Look where
  | textStart
  | textEnd
  | lineStart
  | lineEnd
  /-- Line ends where a carriage return, a line feed or the pair of them ends a line. -/
  | lineStartCrlf
  | lineEndCrlf
  | wordBoundary (asciiOnly : Bool)
  | notWordBoundary (asciiOnly : Bool)
  | wordStart (asciiOnly : Bool)
  | wordEnd (asciiOnly : Bool)
  | wordStartHalf (asciiOnly : Bool)
  | wordEndHalf (asciiOnly : Bool)
  deriving DecidableEq, Repr

/-- Whether a neighbour belongs to a word; the ends of the text do not. -/
def Look.inWord (asciiOnly : Bool) : Option Char → Bool
  | none => false
  | some c => if asciiOnly then isAscii c && isWordPart c else isWordPart c

def Look.holds (look : Look) (before after : Option Char) : Bool :=
  match look with
  | textStart => before = none
  | textEnd => after = none
  | lineStart => before = none || before = some '\n'
  | lineEnd => after = none || after = some '\n'
  | lineStartCrlf =>
      before = none || before = some '\n' || (before = some '\r' && after ≠ some '\n')
  | lineEndCrlf => after = none || after = some '\r' || (after = some '\n' && before ≠ some '\r')
  | wordBoundary a => inWord a before != inWord a after
  | notWordBoundary a => inWord a before == inWord a after
  | wordStart a => !inWord a before && inWord a after
  | wordEnd a => inWord a before && !inWord a after
  | wordStartHalf a => !inWord a before
  | wordEndHalf a => !inWord a after

inductive Pattern where
  | empty
  | chars (set : CharSet)
  | look (condition : Look)
  | seq (first second : Pattern)
  /-- Either branch, the first one preferred. -/
  | alt (first second : Pattern)
  | group (index : Nat) (body : Pattern)
  /-- One or more times; a greedy repetition prefers to go on. -/
  | repeated (greedy : Bool) (body : Pattern)
  deriving DecidableEq, Repr

namespace Pattern

def optional (greedy : Bool) (body : Pattern) : Pattern :=
  if greedy then alt body empty else alt empty body

def anyNumber (greedy : Bool) (body : Pattern) : Pattern :=
  optional greedy (repeated greedy body)

def times (body : Pattern) : Nat → Pattern
  | 0 => empty
  | 1 => body
  | count + 2 => seq body (times body (count + 1))

def upTo (greedy : Bool) (body : Pattern) : Nat → Pattern
  | 0 => empty
  | 1 => optional greedy body
  | count + 2 => optional greedy (seq body (upTo greedy body (count + 1)))

def between (greedy : Bool) (body : Pattern) (low high : Nat) : Pattern :=
  if low = high then times body low
  else if low = 0 then upTo greedy body high
  else seq (times body low) (upTo greedy body (high - low))

def atLeast (greedy : Bool) (body : Pattern) : Nat → Pattern
  | 0 => anyNumber greedy body
  | 1 => repeated greedy body
  | count + 2 => seq (times body (count + 1)) (repeated greedy body)

def isWidthless : Pattern → Bool
  | empty | look _ => true
  | chars _ => false
  | seq first second | alt first second => first.isWidthless && second.isWidthless
  | group _ body | repeated _ body => body.isWidthless

/-- From `low` to `high` times, or any number of times from `low` on. Repeating what consumes nothing
more than once adds nothing. -/
def repetition (greedy : Bool) (body : Pattern) (low : Nat) (high : Option Nat) : Pattern :=
  if body.isWidthless then between greedy body (min low 1) (min (high.getD 1) 1)
  else
    match high with
    | some high => between greedy body low high
    | none => atLeast greedy body low

def sequence : List Pattern → Pattern
  | [] => empty
  | [single] => single
  | first :: rest => seq first (sequence rest)

def choice : List Pattern → Pattern
  | [] => empty
  | [single] => single
  | first :: rest => alt first (choice rest)

end Pattern

/-- A position in a text: the character before it, the characters from it on, and the byte offset. -/
structure Cursor where
  before : Option Char
  rest : List Char
  offset : Nat
  deriving DecidableEq, Repr

namespace Cursor

def start (text : List Char) : Cursor :=
  ⟨none, text, 0⟩

def past (cursor : Cursor) (c : Char) (rest : List Char) : Cursor :=
  ⟨some c, rest, cursor.offset + c.utf8Size⟩

def textUpTo (cursor stop : Cursor) : List Char :=
  cursor.rest.take (cursor.rest.length - stop.rest.length)

end Cursor

/-- What is remembered of a match on the way: where a group begins, and where it ends. -/
inductive Mark where
  | opened (index : Nat) (position : Cursor)
  | closed (index : Nat) (position : Cursor)
  deriving DecidableEq, Repr

structure Way where
  marks : List Mark
  stop : Cursor
  deriving DecidableEq, Repr

namespace Way

def here (cursor : Cursor) : Way :=
  ⟨[], cursor⟩

def append (first second : Way) : Way :=
  ⟨first.marks ++ second.marks, second.stop⟩

def openedAt (index : Nat) (cursor : Cursor) (way : Way) : Way :=
  ⟨.opened index cursor :: way.marks, way.stop⟩

def closedAt (index : Nat) (cursor : Cursor) (way : Way) : Way :=
  ⟨.closed index cursor :: way.marks, way.stop⟩

/-- Where group `index` was captured last: from the last mark of its beginning to the last mark of its
end. -/
def group? (way : Way) (index : Nat) : Option (Cursor × Cursor) := do
  let marks := way.marks.reverse
  let start ← marks.findSome? fun
    | .opened i position => if i = index then some position else none
    | .closed _ _ => none
  let stop ← marks.findSome? fun
    | .closed i position => if i = index then some position else none
    | .opened _ _ => none
  some (start, stop)

@[simp] theorem append_here (way : Way) : way.append (here way.stop) = way := by
  simp [append, here]

@[simp] theorem here_append (cursor : Cursor) (way : Way) : (here cursor).append way = way := by
  simp [append, here]

theorem append_assoc (first second third : Way) :
    (first.append second).append third = first.append (second.append third) := by
  simp [append]

end Way

end Callsite

import Callsite.Pattern.Bracket

set_option autoImplicit false

/-! Reading patterns. One pass from left to right keeps the branch being read and, for every group
still open, what surrounds it; a repetition applies to the last piece of the branch. Patterns whose text
nests too deep are refused. -/

namespace Callsite.Pattern

open Text

/-- The depth to which a pattern may nest classes, groups, repetitions, branches and sequences. -/
def nestLimit : Nat :=
  250

structure NestedPattern where
  body : Pattern
  depth : Nat := 0

/-- A piece of a branch. A directive such as `(?i)` matches nothing and cannot be repeated. -/
inductive Piece where
  | pattern (nested : NestedPattern)
  | directive

def Piece.pattern? : Piece → Option NestedPattern
  | .pattern nested => some nested
  | .directive => none

/-- The depth around parts of the given depths: several parts nest, a single one stands for itself. -/
def depthAround (count : Nat) (parts : List NestedPattern) : Nat :=
  let deepest := parts.foldl (fun depth part => max depth part.depth) 0
  if count ≤ 1 then deepest else deepest + 1

/-- What surrounds an open group: the pieces before it, the branches before those, the modes to
return to, and the index under which the group captures. -/
structure OpenGroup where
  pieces : List Piece
  branches : List NestedPattern
  modes : Modes
  index : Option Nat

/-- A pattern whose beginning has been read. Pieces, branches and groups are kept in reverse. -/
structure Draft where
  pieces : List Piece := []
  branches : List NestedPattern := []
  modes : Modes := {}
  outer : List OpenGroup := []
  groupCount : Nat := 0
  names : List (List Char) := []

namespace Draft

def pushNested (draft : Draft) (nested : NestedPattern) : Draft :=
  { draft with pieces := .pattern nested :: draft.pieces }

def push (draft : Draft) (body : Pattern) : Draft :=
  draft.pushNested ⟨body, 0⟩

def branch (draft : Draft) : NestedPattern :=
  let parts := draft.pieces.reverse.filterMap Piece.pattern?
  ⟨sequence (parts.map NestedPattern.body), depthAround draft.pieces.length parts⟩

def body (draft : Draft) : NestedPattern :=
  let parts := (draft.branch :: draft.branches).reverse
  ⟨choice (parts.map NestedPattern.body), depthAround parts.length parts⟩

def nextBranch (draft : Draft) : Draft :=
  { draft with pieces := [], branches := draft.branch :: draft.branches }

def openGroup (draft : Draft) (modes : Modes) (index : Option Nat) : Draft :=
  { draft with
    pieces := [], branches := [], modes := modes
    outer := ⟨draft.pieces, draft.branches, draft.modes, index⟩ :: draft.outer }

def openCapture (draft : Draft) : Draft :=
  { draft.openGroup draft.modes (some (draft.groupCount + 1)) with
    groupCount := draft.groupCount + 1 }

def closeGroup (draft : Draft) : Except PatternFault Draft :=
  match draft.outer with
  | [] => .error .unopenedGroup
  | around :: outer =>
      let inner := draft.body
      let body := match around.index with
        | some index => group index inner.body
        | none => inner.body
      .ok { draft with
        pieces := .pattern ⟨body, inner.depth + 1⟩ :: around.pieces, branches := around.branches
        modes := around.modes, outer := outer }

def repeatLast (draft : Draft) (change : Pattern → Pattern) : Except PatternFault Draft :=
  match draft.pieces with
  | .pattern ⟨body, depth⟩ :: rest =>
      .ok { draft with pieces := .pattern ⟨change body, depth + 1⟩ :: rest }
  | _ => .error .nothingToRepeat

def pushSet (draft : Draft) (set : CharSet) : Except PatternFault Draft := do
  .ok (draft.push (chars (← draft.modes.confine set)))

def pushLiteral (draft : Draft) (c : Char) : Draft :=
  draft.push (chars (draft.modes.literal c))

def dot (modes : Modes) : CharSet :=
  if modes.dotAll then .everything
  else if modes.crlf then .complement (.union (.single '\r') (.single '\n'))
  else .complement (.single '\n')

def startLook (modes : Modes) : Look :=
  if modes.multiLine then if modes.crlf then .lineStartCrlf else .lineStart else .textStart

def endLook (modes : Modes) : Look :=
  if modes.multiLine then if modes.crlf then .lineEndCrlf else .lineEnd else .textEnd

def pushEscape (draft : Draft) : Escape → Except PatternFault Draft
  | .literal c => .ok (draft.pushLiteral c)
  | .wideByte c => if draft.modes.unicode then .ok (draft.pushLiteral c) else .error .beyondText
  | .named negated kind => draft.pushSet (.complementIf negated (draft.modes.classSet kind))
  | .property negated name => do draft.pushSet (← draft.modes.propertySet negated name)
  | .look unicode ascii => .ok (draft.push (look (if draft.modes.unicode then unicode else ascii)))

def readGreed (draft : Draft) : List Char → Bool × List Char
  | '?' :: rest => (draft.modes.swapGreed, rest)
  | text => (!draft.modes.swapGreed, text)

end Draft

/-- A decimal number below 2³², with blanks around it. -/
def readCount (verbose : Bool) (text : List Char) : Option Nat × List Char :=
  let rec digits : Nat → Option Nat → List Char → Option Nat × List Char
    | 0, value, text => (value, text)
    | fuel + 1, value, text =>
        match text with
        | c :: rest =>
            if isAsciiDigit c then
              digits fuel (some (value.getD 0 * 10 + (c.toNat - 48))) (settle verbose rest)
            else (value, text)
        | [] => (value, text)
  let text := trimStart text
  let (value, rest) := digits text.length none text
  (value.filter (· < UInt32.size), settle verbose (trimStart rest))

/-- A repetition count in braces, after the opening brace: exact, with a lower bound, or with both
bounds. -/
def readBounds (verbose : Bool) (text : List Char) :
    Except PatternFault ((Nat × Option Nat) × List Char) :=
  match readCount verbose (settle verbose text) with
  | (some low, '\x7d' :: rest) => .ok ((low, some low), rest)
  | (some low, ',' :: rest) =>
      match settle verbose rest with
      | '\x7d' :: rest => .ok ((low, none), rest)
      | text =>
          match readCount verbose text with
          | (some high, '\x7d' :: rest) =>
              if low ≤ high then .ok ((low, some high), rest) else .error .repetitionCount
          | _ => .error .repetitionCount
  | _ => .error .repetitionCount

def Modes.set? (modes : Modes) (value : Bool) : Char → Option Modes
  | 'i' => some { modes with ignoreCase := value }
  | 'm' => some { modes with multiLine := value }
  | 's' => some { modes with dotAll := value }
  | 'U' => some { modes with swapGreed := value }
  | 'u' => some { modes with unicode := value }
  | 'R' => some { modes with crlf := value }
  | 'x' => some { modes with verbose := value }
  | _ => none

/-- Reads mode letters up to a colon or closing parenthesis, which is left; `seen` holds the letters
so far, and letters after a hyphen switch modes off. -/
def readModes (modes : Modes) (seen : List Char) : List Char → Except PatternFault (Modes × List Char)
  | [] => .error .unfinished
  | c :: rest =>
      if c = ':' || c = ')' then
        if seen.head? = some '-' then .error .unknownFlag else .ok (modes, c :: rest)
      else if c ∈ seen then .error .unknownFlag
      else if c = '-' then readModes modes (c :: seen) rest
      else match modes.set? (!('-' ∈ seen)) c with
        | some modes => readModes modes (c :: seen) rest
        | none => .error .unknownFlag

def isNamePart (first : Bool) (c : Char) : Bool :=
  c = '_' || (if first then isAlphabetic c else c = '.' || c = '[' || c = ']' || isAlphanumeric c)

namespace Draft

def readNamedGroup (draft : Draft) (text : List Char) : Except PatternFault (Draft × List Char) :=
  let name := text.takeWhile (· ≠ '>')
  match name, text.dropWhile (· ≠ '>') with
  | first :: more, _ :: rest =>
      if isNamePart true first && more.all (isNamePart false) then
        if name ∈ draft.names then .error .duplicateGroupName
        else .ok ({ draft.openCapture with names := name :: draft.names }, rest)
      else .error .groupName
  | _, _ => .error .groupName

def readGroup (draft : Draft) (text : List Char) : Except PatternFault (Draft × List Char) :=
  match settle draft.modes.verbose text with
  | '?' :: '=' :: _ | '?' :: '!' :: _ | '?' :: '<' :: '=' :: _ | '?' :: '<' :: '!' :: _ =>
      .error .lookAround
  | '?' :: 'P' :: '<' :: rest => draft.readNamedGroup rest
  | '?' :: '<' :: rest => draft.readNamedGroup rest
  | '?' :: ')' :: _ => .error .nothingToRepeat
  | '?' :: rest => do
      match ← readModes draft.modes [] rest with
      | (modes, ':' :: rest) => .ok (draft.openGroup modes none, rest)
      | (modes, rest) =>
          .ok ({ draft with modes := modes, pieces := .directive :: draft.pieces }, rest.drop 1)
  | rest => .ok (draft.openCapture, rest)

def step (draft : Draft) (c : Char) (rest : List Char) : Except PatternFault (Draft × List Char) :=
  match c with
  | '(' => draft.readGroup rest
  | ')' => do .ok (← draft.closeGroup, rest)
  | '|' => .ok (draft.nextBranch, rest)
  | '[' => do
      let (⟨set, depth⟩, rest) ← readClass draft.modes rest
      .ok (draft.pushNested ⟨chars set, depth⟩, rest)
  | '?' => do
      let (greedy, rest) := draft.readGreed rest
      .ok (← draft.repeatLast (optional greedy), rest)
  | '*' => do
      let (greedy, rest) := draft.readGreed rest
      .ok (← draft.repeatLast (anyNumber greedy), rest)
  | '+' => do
      let (greedy, rest) := draft.readGreed rest
      .ok (← draft.repeatLast (repeated greedy), rest)
  | '\x7b' => do
      let ((low, high), rest) ← readBounds draft.modes.verbose rest
      let (greedy, rest) := draft.readGreed (settle draft.modes.verbose rest)
      .ok (← draft.repeatLast fun body => repetition greedy body low high, rest)
  | '\\' => do
      let (escape, rest) ← readEscape draft.modes.verbose rest
      .ok (← draft.pushEscape escape, rest)
  | '.' => do .ok (← draft.pushSet (dot draft.modes), rest)
  | '^' => .ok (draft.push (look (startLook draft.modes)), rest)
  | '$' => .ok (draft.push (look (endLook draft.modes)), rest)
  | c => .ok (draft.pushLiteral c, rest)

def readOn : Nat → Draft → List Char → Except PatternFault Draft
  | 0, draft, _ => .ok draft
  | fuel + 1, draft, text =>
      match settle draft.modes.verbose text with
      | [] => .ok draft
      | c :: rest => do
          let (draft, rest) ← draft.step c rest
          draft.readOn fuel rest

def finish (draft : Draft) : Except PatternFault Pattern :=
  if draft.outer.isEmpty then
    if draft.body.depth ≤ nestLimit then .ok draft.body.body else .error .tooDeep
  else .error .unclosedGroup

end Draft

def read (text : List Char) : Except PatternFault Pattern := do
  (← Draft.readOn text.length {} text).finish

end Callsite.Pattern

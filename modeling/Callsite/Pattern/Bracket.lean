import Callsite.Pattern.Escape
import Callsite.Pattern.Property

set_option autoImplicit false

/-! Reading bracketed classes: unions of characters, ranges, escapes and named classes, nested
classes, and the operations `&&`, `--` and `~~`, which associate to the left. Every set is read together
with the depth to which its text nests classes, unions and operations. -/

namespace Callsite.Pattern

open Text

structure Modes where
  ignoreCase : Bool := false
  multiLine : Bool := false
  dotAll : Bool := false
  swapGreed : Bool := false
  unicode : Bool := true
  crlf : Bool := false
  verbose : Bool := false
  deriving DecidableEq, Repr

namespace Modes

def closeCase (modes : Modes) (set : CharSet) : CharSet :=
  if modes.ignoreCase then .anyCase (!modes.unicode) set else set

def literal (modes : Modes) (c : Char) : CharSet :=
  modes.closeCase (.single c)

/-- The class `kind`, within ASCII when Unicode is off. -/
def classSet (modes : Modes) (kind : CharClass) : CharSet :=
  if modes.unicode then .named kind else .inter ascii (.named kind)

/-- The property `name`, for which Unicode has to be on. Case is ignored before a negation counts. -/
def propertySet (modes : Modes) (negated : Bool) (name : List Char) : Except PatternFault CharSet :=
  if modes.unicode then
    match property? name with
    | some (others, set) => .ok (.complementIf (negated != others) (modes.closeCase set))
    | none => .error .unknownProperty
  else .error .unknownProperty

/-- Refuses a set that would hold part of an encoded character: with Unicode off, any set beyond
ASCII. All sets written then are constant beyond ASCII, so one character decides. -/
def confine (modes : Modes) (set : CharSet) : Except PatternFault CharSet :=
  if !modes.unicode && set.has '\u0080' then .error .beyondText else .ok set

end Modes

inductive SetOperation where
  | inter
  | difference
  | symmetricDifference

def SetOperation.apply : SetOperation → CharSet → CharSet → CharSet
  | inter => CharSet.inter
  | difference => CharSet.difference
  | symmetricDifference => CharSet.symmetricDifference

structure NestedSet where
  set : CharSet
  depth : Nat := 0

structure Members where
  set : CharSet := .nothing
  count : Nat := 0
  depth : Nat := 0

namespace Members

def add (members : Members) (member : NestedSet) : Members :=
  ⟨.union members.set member.set, members.count + 1, max members.depth member.depth⟩

/-- A single member stands for itself; a union of more nests them. -/
def toNestedSet (members : Members) : NestedSet :=
  ⟨members.set, if members.count ≤ 1 then members.depth else members.depth + 1⟩

end Members

/-- A class whose closing bracket has not been read: the members read since the last operation, and
that operation with its left operand. -/
structure OpenClass where
  negated : Bool
  members : Members
  pending : Option (SetOperation × NestedSet)

namespace OpenClass

def add (open_ : OpenClass) (member : NestedSet) : OpenClass :=
  { open_ with members := open_.members.add member }

def value (modes : Modes) (open_ : OpenClass) : NestedSet :=
  let right := open_.members.toNestedSet
  match open_.pending with
  | none => right
  | some (operation, left) =>
      ⟨operation.apply (modes.closeCase left.set) (modes.closeCase right.set),
        max left.depth right.depth + 1⟩

def operate (modes : Modes) (operation : SetOperation) (open_ : OpenClass) : OpenClass :=
  { open_ with members := {}, pending := some (operation, open_.value modes) }

def close (modes : Modes) (open_ : OpenClass) : Except PatternFault NestedSet := do
  let value := open_.value modes
  let set ← modes.confine (.complementIf open_.negated (modes.closeCase value.set))
  .ok ⟨set, value.depth + 1⟩

end OpenClass

inductive ClassItem where
  | literal (c : Char)
  | set (members : CharSet)

def readClassItem (modes : Modes) : List Char → Except PatternFault (ClassItem × List Char)
  | [] => .error .unclosedClass
  | '\\' :: rest => do
      let (escape, rest) ← readEscape modes.verbose rest
      match escape with
      | .literal c => .ok (.literal c, rest)
      | .wideByte c => if modes.unicode then .ok (.literal c, rest) else .error .beyondText
      | .named negated kind =>
          .ok (.set (← modes.confine (.complementIf negated (modes.classSet kind))), rest)
      | .property negated name => .ok (.set (← modes.propertySet negated name), rest)
      | .look _ _ => .error .classItem
  | c :: rest => .ok (.literal c, rest)

/-- The set of an item; with Unicode off a character beyond ASCII is none. -/
def ClassItem.toSet (modes : Modes) : ClassItem → Except PatternFault CharSet
  | literal c => if modes.unicode || isAscii c then .ok (.single c) else .error .beyondText
  | set members => .ok members

/-- A single item or a range. A hyphen before a closing bracket or another hyphen opens no range. -/
def readClassRange (modes : Modes) (text : List Char) : Except PatternFault (CharSet × List Char) := do
  let (first, rest) ← readClassItem modes text
  match settle modes.verbose rest with
  | [] => .error .unclosedClass
  | '-' :: afterHyphen =>
      match settle modes.verbose afterHyphen with
      | [] => .error .unclosedClass
      | c :: more =>
          if c = ']' || c = '-' then .ok (← first.toSet modes, '-' :: afterHyphen)
          else
            let (last, rest) ← readClassItem modes (c :: more)
            match first, last with
            | .literal low, .literal high =>
                if low ≤ high then
                  let _ ← first.toSet modes
                  let _ ← last.toSet modes
                  .ok (.range low high, rest)
                else .error .emptyRange
            | _, _ => .error .classItem
  | rest => .ok (← first.toSet modes, rest)

def readLeadingHyphens (modes : Modes) : Nat → List Char → Members × List Char
  | 0, text => ({}, text)
  | fuel + 1, text =>
      match text with
      | '-' :: rest =>
          let (members, rest) := readLeadingHyphens modes fuel (settle modes.verbose rest)
          (members.add ⟨.single '-', 0⟩, rest)
      | text => ({}, text)

/-- The beginning of a class, after its opening bracket. A closing bracket that comes first stands
for itself. -/
def readClassStart (modes : Modes) (text : List Char) : OpenClass × List Char :=
  let text := settle modes.verbose text
  let (negated, text) := match text with
    | '^' :: rest => (true, settle modes.verbose rest)
    | text => (false, text)
  match readLeadingHyphens modes text.length text with
  | (⟨_, 0, _⟩, ']' :: rest) =>
      (⟨negated, Members.add {} ⟨.single ']', 0⟩, none⟩, settle modes.verbose rest)
  | (members, rest) => (⟨negated, members, none⟩, rest)

/-- A class such as `[:alpha:]`, after its opening bracket, if the text has that form and the name is
known. -/
def readBracketClass? (modes : Modes) : List Char → Option (CharSet × List Char)
  | ':' :: rest =>
      let (negated, rest) := match rest with
        | '^' :: rest => (true, rest)
        | rest => (false, rest)
      match rest.dropWhile (· ≠ ':') with
      | ':' :: ']' :: after =>
          (bracketClass? (rest.takeWhile (· ≠ ':'))).map fun set =>
            (.complementIf negated (modes.closeCase set), after)
      | _ => none
  | _ => none

/-- Reads up to the bracket that closes the outermost class, `outer` being the classes around
`current`, the innermost first; `fuel` is at least the length of the text. -/
def readClassBody (modes : Modes) :
    Nat → List OpenClass → OpenClass → List Char → Except PatternFault (NestedSet × List Char)
  | 0, _, _, _ => .error .unclosedClass
  | fuel + 1, outer, current, text =>
      match settle modes.verbose text with
      | [] => .error .unclosedClass
      | '[' :: rest =>
          match readBracketClass? modes rest with
          | some (set, rest) => do
              readClassBody modes fuel outer (current.add ⟨← modes.confine set, 0⟩) rest
          | none =>
              let (nested, rest) := readClassStart modes rest
              readClassBody modes fuel (current :: outer) nested rest
      | ']' :: rest => do
          let value ← current.close modes
          match outer with
          | [] => .ok (value, rest)
          | around :: outer => readClassBody modes fuel outer (around.add value) rest
      | '&' :: '&' :: rest => readClassBody modes fuel outer (current.operate modes .inter) rest
      | '-' :: '-' :: rest => readClassBody modes fuel outer (current.operate modes .difference) rest
      | '~' :: '~' :: rest =>
          readClassBody modes fuel outer (current.operate modes .symmetricDifference) rest
      | text => do
          let (set, rest) ← readClassRange modes text
          readClassBody modes fuel outer (current.add ⟨set, 0⟩) rest

def readClass (modes : Modes) (text : List Char) : Except PatternFault (NestedSet × List Char) :=
  let (current, rest) := readClassStart modes text
  readClassBody modes (rest.length + 1) [] current rest

end Callsite.Pattern

import Callsite.Pattern.Needed
import Callsite.Pattern.Reader
import Callsite.Text.Lines

set_option autoImplicit false

/-! Rules: what a declaration or a call looks like on one line. A template leaves a slot for the name
that is looked for; filling the slot with a target, or with the form of any identifier, and reading
the result as a pattern gives a rule. -/

namespace Callsite

open Text

inductive RuleKind where
  | declaration
  /-- Declares a function or type without a body: an abstract method, a signature. -/
  | abstractDeclaration
  | call
  deriving DecidableEq, Repr

namespace RuleKind

def isDeclaration : RuleKind → Bool
  | declaration | abstractDeclaration => true
  | call => false

def label : RuleKind → String
  | declaration => "declaration"
  | abstractDeclaration => "abstract_declaration"
  | call => "call"

end RuleKind

def identifierPattern : String :=
  "[A-Za-z_$][A-Za-z0-9_$]*"

structure RuleTemplate where
  pattern : String
  kind : RuleKind
  group : Nat := 1
  deriving DecidableEq, Repr

def fillSlot (slot : List Char) : List Char → List Char
  | '\x7b' :: 'n' :: 'a' :: 'm' :: 'e' :: '\x7d' :: rest => slot ++ fillSlot slot rest
  | c :: rest => c :: fillSlot slot rest
  | [] => []

structure Rule where
  text : List Char
  pattern : Pattern
  kind : RuleKind
  group : Nat
  /-- Characters without which a line is not worth a search. -/
  needed : List Char := pattern.needed
  needed_eq : needed = pattern.needed := by rfl
  deriving DecidableEq, Repr

/-- Where a rule applies to a line: the captured name, its first byte, and the byte after the whole
match. -/
structure Hit where
  name : String
  start : Nat
  stop : Nat
  kind : RuleKind
  deriving DecidableEq, Repr

namespace RuleTemplate

/-- The text that fills the slot. A target stands for itself, whatever its characters. -/
def slot : Option String → List Char
  | some target => Pattern.escape target.toList
  | none => identifierPattern.toList

def compile (template : RuleTemplate) (target : Option String) : Except PatternFault Rule := do
  let text := fillSlot (slot target) template.pattern.toList
  .ok { text, pattern := ← Pattern.read text, kind := template.kind, group := template.group }

end RuleTemplate

namespace Rule

/-- The hit of a match, unless the group that should capture the name took no part in it. -/
def hit? (rule : Rule) (found : Found) : Option Hit :=
  (found.group? rule.group).map fun (start, stop) =>
    ⟨String.ofList (start.textUpTo stop), start.offset, found.stop, rule.kind⟩

def found? (rule : Rule) (line : String) : Option Found :=
  if Pattern.mayMatch rule.needed line.toList then rule.pattern.find? line.toList else none

theorem found?_eq (rule : Rule) (line : String) :
    rule.found? line = rule.pattern.find? line.toList := by
  unfold found?
  split
  · rfl
  · rename_i lacks
    rw [rule.needed_eq, Bool.not_eq_true] at lacks
    exact (Pattern.find?_eq_none_of_lacks lacks).symm

def allFound (rule : Rule) (line : String) : List Found :=
  if Pattern.mayMatch rule.needed line.toList then rule.pattern.findAll line.toList else []

theorem allFound_eq (rule : Rule) (line : String) :
    rule.allFound line = rule.pattern.findAll line.toList := by
  unfold allFound
  split
  · rfl
  · rename_i lacks
    rw [rule.needed_eq, Bool.not_eq_true] at lacks
    exact (Pattern.findAll_eq_nil_of_lacks lacks).symm

def isMatch (rule : Rule) (line : String) : Bool :=
  (rule.found? line).isSome

def find? (rule : Rule) (line : String) : Option Hit :=
  (rule.found? line).bind rule.hit?

def findAll (rule : Rule) (line : String) : List Hit :=
  (rule.allFound line).filterMap rule.hit?

end Rule

def firstHit (rules : List Rule) (line : String) : Option Hit :=
  rules.findSome? (·.find? line)

def isTokenPart (c : Char) : Bool :=
  isAlphanumeric c || c = '_' || c = '$'

/-- The maximal runs of characters with `part`, with an empty token between adjacent separators;
`token` is the reversed beginning of the current one. -/
def splitTokens (part : Char → Bool) (token : List Char) : List Char → List (List Char)
  | [] => [token.reverse]
  | c :: rest =>
      if part c then splitTokens part (c :: token) rest
      else token.reverse :: splitTokens part [] rest

/-- Whether one of `words` stands as a whole word before byte `start` of the line, or anywhere in
the line if no character begins at that byte. -/
def precededByWord (line : String) (start : Nat) (words : List String) : Bool :=
  if words.isEmpty then false
  else
    let led := (takeBytes? line.toList start).getD line.toList
    (splitTokens isTokenPart [] led).any fun token => String.ofList token ∈ words

/-- The hit of the first declaration rule whose hit no statement word leads: after `return`, a name
with arguments is a call. -/
def firstDeclaration (rules : List Rule) (line : String) (statementWords : List String) :
    Option Hit :=
  rules.findSome? fun rule =>
    (rule.find? line).filter fun hit => !precededByWord line hit.start statementWords

end Callsite

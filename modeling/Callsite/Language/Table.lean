import Callsite.Language.Rule

set_option autoImplicit false

/-! Languages: the table that describes one, and the language made from it by compiling the rules that
look for any name. -/

namespace Callsite

open Text

inductive BlockStyle where
  | braces
  | indentation
  | endKeyword
  deriving DecidableEq, Repr

def BlockStyle.label : BlockStyle → String
  | braces => "braces"
  | indentation => "indentation"
  | endKeyword => "end_keyword"

structure LanguageTable where
  name : String
  aliases : List String := []
  /-- File extensions without the dot. -/
  extensions : List String := []
  /-- Rules for functions, the most specific first. -/
  declarations : List RuleTemplate := []
  typeOpeners : List RuleTemplate := []
  calls : List RuleTemplate := []
  /-- Words that look like calls before a parenthesis and are none. -/
  keywords : List String := []
  builtins : List String := []
  commentPrefixes : List String := []
  /-- Words that begin a statement, so that a declaration cannot follow them. -/
  statementWords : List String := []
  blockStyle : BlockStyle := .braces
  deriving DecidableEq, Repr

structure Language where
  table : LanguageTable
  functionOpeners : List Rule
  typeOpeners : List Rule
  callRules : List Rule
  deriving DecidableEq, Repr

def compileAll (templates : List RuleTemplate) (target : Option String) :
    Except PatternFault (List Rule) :=
  templates.mapM (·.compile target)

namespace Language

def ofTable (table : LanguageTable) : Except PatternFault Language := do
  .ok {
    table
    functionOpeners := ← compileAll table.declarations none
    typeOpeners := ← compileAll table.typeOpeners none
    callRules := ← compileAll table.calls none }

def name (language : Language) : String :=
  language.table.name

def isKeyword (language : Language) (name : String) : Bool :=
  name ∈ language.table.keywords

def isBuiltin (language : Language) (name : String) : Bool :=
  name ∈ language.table.builtins

def isStatementLed (language : Language) (line : String) (start : Nat) : Bool :=
  precededByWord line start language.table.statementWords

/-- Whether the line, without the white space around it, is a lone asterisk or begins with one of the
comment prefixes. -/
def isComment (language : Language) (line : String) : Bool :=
  let text := trimEnd (trimStart line.toList)
  text = ['*'] || language.table.commentPrefixes.any (·.toList.isPrefixOf text)

end Language

structure TargetRules where
  declarations : List Rule
  calls : List Rule
  statementWords : List String
  deriving DecidableEq, Repr

def Language.rulesFor (language : Language) (target : String) : Except PatternFault TargetRules := do
  .ok {
    declarations := ← compileAll language.table.declarations (some target)
    calls := ← compileAll language.table.calls (some target)
    statementWords := language.table.statementWords }

namespace TargetRules

def declaration? (rules : TargetRules) (line : String) : Option Hit :=
  firstDeclaration rules.declarations line rules.statementWords

def declaredNameEnd? (rules : TargetRules) (line : String) : Option Nat :=
  (rules.declaration? line).map fun hit => hit.start + hit.name.utf8ByteSize

/-- The hit that starts first; of hits with one start, the earliest in the list. -/
def leftmost : List Hit → Option Hit
  | [] => none
  | hit :: rest =>
      match leftmost rest with
      | none => some hit
      | some best => if hit.start ≤ best.start then some hit else some best

/-- The leftmost call of the target at byte `offset` or later. The rules see the line from that byte
on, as if it began there. -/
def firstCallFrom? (rules : TargetRules) (line : String) (offset : Nat) : Option Hit := do
  let tail := String.ofList (← dropBytes? line.toList offset)
  let hit ← leftmost (rules.calls.filterMap (·.find? tail))
  some { hit with start := hit.start + offset, stop := hit.stop + offset }

end TargetRules

end Callsite

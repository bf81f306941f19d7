import Callsite.Language.Table

set_option autoImplicit false

/-! Enclosing scopes. The scope of a line is the nearest declaration at or above it: a scan upwards
finds the line that opens a function or a type, whether or not its block is still open. -/

namespace Callsite

open Text

inductive ScopeKind where
  | function
  | type
  deriving DecidableEq, Repr

def ScopeKind.label : ScopeKind → String
  | .function => "function"
  | .type => "class"

structure Scope where
  name : String
  /-- The line of the declaration, counted from 1. -/
  line : Nat
  kind : ScopeKind
  abstractDeclaration : Bool
  deriving DecidableEq, Repr

namespace Language

def openerHit? (language : Language) (rules : List Rule) (line : String) : Option Hit :=
  rules.findSome? fun rule => (rule.find? line).filter fun hit =>
    !language.isKeyword hit.name && !language.isStatementLed line hit.start

def openers (language : Language) : ScopeKind → List Rule
  | .function => language.functionOpeners
  | .type => language.typeOpeners

/-- The scope that line number `number` opens, of the first kind among `kinds` that it opens one of. -/
def scopeOpenedBy? (language : Language) (kinds : List ScopeKind) (number : Nat) (line : String) :
    Option Scope :=
  if language.isComment line then none
  else kinds.findSome? fun kind =>
    (language.openerHit? (language.openers kind) line).map fun hit =>
      ⟨hit.name, number, kind, hit.kind = .abstractDeclaration⟩

def scopeAbove? (language : Language) (kinds : List ScopeKind) : List String → Option Scope
  | [] => none
  | line :: above =>
      (language.scopeOpenedBy? kinds (above.length + 1) line).or (language.scopeAbove? kinds above)

/-- What a column leaves to be seen of a line: the part before it, or all of it if no character begins
there. -/
def visible (line : String) (column : Nat) : String :=
  (takeBytes? line.toList column).elim line String.ofList

/-- The scope of line `index`, counted from 0. A column hides what stands right of it on that line;
an index past the end stands for the last line. -/
def enclosing? (language : Language) (kinds : List ScopeKind) (lines : List String) (index : Nat)
    (column : Option Nat) : Option Scope :=
  match (lines.take (index + 1)).reverse with
  | [] => none
  | line :: above =>
      let line := match column with
        | some column => if index < lines.length then visible line column else line
        | none => line
      language.scopeAbove? kinds (line :: above)

def enclosingFunction? (language : Language) (lines : List String) (index : Nat)
    (column : Option Nat) : Option Scope :=
  language.enclosing? [.function] lines index column

def enclosingType? (language : Language) (lines : List String) (index : Nat) : Option Scope :=
  language.enclosing? [.type] lines index none

def enclosingScope? (language : Language) (lines : List String) (index : Nat) : Option Scope :=
  language.enclosing? [.type, .function] lines index none

end Language

end Callsite

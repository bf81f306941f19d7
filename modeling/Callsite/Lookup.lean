import Callsite.CallNode
import Callsite.Corpus
import Callsite.Memo
import Callsite.Text.Blank
import Callsite.Text.Lines

set_option autoImplicit false

/-! Looking up definitions. A session remembers everything that one request has found out: listings,
the lines of files, compiled rules and definitions. So a corpus is listed once for each root and each
file is read once, and the session keeps a log of both. -/

namespace Callsite

open Text

/-- The definitions found so far, by name and by the parts of the search root. A name without a
definition is remembered as such. -/
abbrev DefinitionCache := Memo (String × List PathPart) (Option CallNode)

namespace DefinitionCache

def get? (cache : DefinitionCache) (name : String) (root : Path) : Option (Option CallNode) :=
  cache.find? (name, root.parts)

def put (cache : DefinitionCache) (name : String) (root : Path) (definition : Option CallNode) :
    DefinitionCache :=
  cache.insert (name, root.parts) definition

end DefinitionCache

structure Workspace where
  corpus : Corpus
  registry : Registry
  filter : LanguageFilter := .any

structure Session where
  definitions : DefinitionCache := {}
  rules : Memo (String × String) TargetRules := {}
  listings : Memo (List PathPart) (List SourceFile) := {}
  /-- The lines of a file, by the parts of its path; none if it cannot be read. -/
  sources : Memo (List PathPart) (Option (List String)) := {}
  listed : List Path := []
  /-- The paths read so far, in order, readable or not. -/
  reads : List Path := []

/-- A computation on a session. The session survives a failure. -/
abbrev Lookup := ExceptT Failure (StateM Session)

/-- The definition on the first line that declares `name` and is not a comment; `number` is the number
of the first of `lines`. -/
def definitionIn? (language : Language) (rules : TargetRules) (name : String) (file : SourceFile) :
    (number : Nat) → List String → Option CallNode
  | _, [] => none
  | number, line :: rest =>
      let hit := if language.isComment line then none else rules.declaration? line
      match hit with
      | some hit => some {
          functionName := name
          filePath := file.path
          line := number
          signature := trim line
          language := file.language
          abstractDeclaration := hit.kind = .abstractDeclaration }
      | none => definitionIn? language rules name file (number + 1) rest

namespace Workspace

def files (workspace : Workspace) (root : Path) : Lookup (List SourceFile) := do
  match (← get).listings.find? root.parts with
  | some files => return files
  | none =>
      modify fun session => { session with listed := session.listed ++ [root] }
      let files ← MonadExcept.ofExcept (workspace.corpus.list root workspace.filter)
      modify fun session => { session with listings := session.listings.insert root.parts files }
      return files

def lines? (workspace : Workspace) (path : Path) : Lookup (Option (List String)) := do
  match (← get).sources.find? path.parts with
  | some lines => return lines
  | none =>
      let lines := (workspace.corpus.read? path).map Text.lines
      modify fun session => { session with
        reads := session.reads ++ [path]
        sources := session.sources.insert path.parts lines }
      return lines

def rulesFor (workspace : Workspace) (language name : String) : Lookup TargetRules := do
  match (← get).rules.find? (language, name) with
  | some rules => return rules
  | none =>
      match (workspace.registry.language language).rulesFor name with
      | .error fault => throw (.pattern fault)
      | .ok rules =>
          modify fun session => { session with rules := session.rules.insert (language, name) rules }
          return rules

def firstDefinition? (workspace : Workspace) (name : String) :
    List SourceFile → Lookup (Option CallNode)
  | [] => return none
  | file :: rest => do
      match ← workspace.lines? file.path with
      | none => workspace.firstDefinition? name rest
      | some lines =>
          let rules ← workspace.rulesFor file.language name
          match definitionIn? (workspace.registry.language file.language) rules name file 1 lines with
          | some node => return some node
          | none => workspace.firstDefinition? name rest

/-- The first definition of `name` below `root`, in the order of files and of their lines. -/
def definition? (workspace : Workspace) (name : String) (root : Path) :
    Lookup (Option CallNode) := do
  match (← get).definitions.get? name root with
  | some definition => return definition
  | none =>
      let definition ← workspace.firstDefinition? name (← workspace.files root)
      modify fun session => { session with
        definitions := session.definitions.put name root definition }
      return definition

end Workspace

end Callsite

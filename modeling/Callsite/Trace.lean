import Callsite.Body
import Callsite.Calls
import Callsite.Direction
import Callsite.Lookup
import Callsite.Scope

set_option autoImplicit false

/-! Call trees around a function. From the definition of the function a trace follows calls backward to
callers or forward to callees, down to a given depth. A function that occurs among its own ancestors
is not followed again. -/

namespace Callsite

open Text

structure TraceOptions where
  direction : Direction := .both
  /-- The depth at which nodes are leaves. -/
  maxDepth : Nat := 5
  /-- The time budget in milliseconds. A trace takes no time here, so that a budget is spent at once
  if it is zero, and never otherwise. -/
  timeoutMs : Nat := 30000
  includeExternal : Bool := false
  bodyScanLimit : Nat := 50
  deriving DecidableEq, Repr

inductive Edge where
  | caller
  | callee
  deriving DecidableEq, Repr

def Direction.edges (direction : Direction) : List Edge :=
  (if direction.includesCallers then [.caller] else []) ++
    (if direction.includesCallees then [.callee] else [])

/-- What identifies a function on a path of the tree: its file and its name. -/
abbrev FunctionKey := List PathPart × String

def CallNode.key (node : CallNode) : FunctionKey :=
  (node.filePath.parts, node.functionName)

/-- The items whose key no earlier item has. -/
def distinctBy {α κ : Type} [DecidableEq κ] (key : α → κ) (seen : List κ) : List α → List α
  | [] => []
  | item :: rest =>
      if key item ∈ seen then distinctBy key seen rest
      else item :: distinctBy key (key item :: seen) rest

namespace Language

/-- The byte at which the line calls the target, beyond the name that it may declare. -/
def callSite? (language : Language) (rules : TargetRules) (line : String) : Option Nat :=
  if language.isComment line then none
  else (rules.firstCallFrom? line ((rules.declaredNameEnd? line).getD 0)).map Hit.start

/-- The functions that call the target on `lines`, once for each call site that stands in a function.
The first line is line `index`, and `above` is the function that encloses the line before it. -/
def callerScopes (language : Language) (rules : TargetRules) :
    (lines : List String) → (index : Nat) → (above : Thunk (Option Scope)) → List Scope
  | [], _, _ => []
  | line :: rest, index, above =>
      let opened := fun text => (language.scopeOpenedBy? [.function] (index + 1) text).or above.get
      let caller := (language.callSite? rules line).bind fun site => opened (visible line site)
      caller.toList ++ language.callerScopes rules rest (index + 1) ⟨fun _ => opened line⟩

private theorem enclosingFunction?_append (language : Language) (before : List String) (line : String)
    (rest : List String) (site : Nat) :
    language.enclosingFunction? (before ++ line :: rest) before.length (some site) =
      (language.scopeOpenedBy? [.function] (before.length + 1) (visible line site)).or
        (language.scopeAbove? [.function] before.reverse) := by
  have upTo : (before ++ line :: rest).take (before.length + 1) = before ++ [line] := by
    simp [List.take_append, List.take_of_length_le]
  simp [enclosingFunction?, enclosing?, upTo, scopeAbove?]

private theorem callerScopes_append (language : Language) (rules : TargetRules) (rest : List String) :
    ∀ (before : List String) (above : Thunk (Option Scope)),
      above.get = language.scopeAbove? [.function] before.reverse →
      language.callerScopes rules rest before.length above =
        (rest.zipIdx before.length).filterMap fun (line, index) =>
          (language.callSite? rules line).bind fun site =>
            language.enclosingFunction? (before ++ rest) index (some site) := by
  induction rest with
  | nil => intros; rfl
  | cons line rest ih =>
      intro before above here
      have next := ih (before ++ [line])
        ⟨fun _ => (language.scopeOpenedBy? [.function] (before.length + 1) line).or above.get⟩
        (by simp [Thunk.get, scopeAbove?, ← here])
      simp only [List.length_append, List.length_singleton, List.append_assoc,
        List.singleton_append] at next
      simp only [callerScopes, next, List.zipIdx_cons, List.filterMap_cons,
        enclosingFunction?_append, ← here]
      cases (language.callSite? rules line).bind fun site =>
        (language.scopeOpenedBy? [.function] (before.length + 1) (visible line site)).or above.get
      all_goals rfl

theorem callerScopes_eq (language : Language) (rules : TargetRules) (lines : List String) :
    language.callerScopes rules lines 0 (Thunk.pure none) =
      lines.zipIdx.filterMap fun (line, index) =>
        (language.callSite? rules line).bind fun site =>
          language.enclosingFunction? lines index (some site) :=
  callerScopes_append language rules lines [] (Thunk.pure none) rfl

def callerNode (file : SourceFile) (lines : List String) (depth : Nat) (scope : Scope) : CallNode where
  functionName := scope.name
  filePath := file.path
  line := scope.line
  signature := trim (lines[scope.line - 1]?.getD "")
  language := file.language
  abstractDeclaration := scope.abstractDeclaration
  depth := depth

def callersIn (language : Language) (rules : TargetRules) (file : SourceFile) (lines : List String)
    (depth : Nat) : List CallNode :=
  (language.callerScopes rules lines 0 (Thunk.pure none)).map (callerNode file lines depth)

/-- The text of the body of the function that line `start` declares: what follows its name, and the
further lines of its span. -/
def bodyText (language : Language) (rules : TargetRules) (lines : List String) (scanLimit start : Nat)
    (first : String) : String :=
  let span := Body.isolate language.table.blockStyle lines scanLimit start
  let tail := (dropBytes? first.toList ((rules.declaredNameEnd? first).getD 0)).getD []
  String.intercalate "\n" (String.ofList tail :: (lines.take (span.stop + 1)).drop (start + 1))

end Language

structure TraceState where
  session : Session := {}
  truncated : Bool := false
  expansions : Nat := 0

abbrev Tracing := ExceptT Failure (StateM TraceState)

def Tracing.lookup {α : Type} (action : Lookup α) : Tracing α := do
  let state ← get
  let (result, session) := action.run.run state.session
  set { state with session := session }
  MonadExcept.ofExcept result

structure TraceOutput where
  root : Option CallNode
  truncated : Bool
  expansions : Nat

namespace Workspace

def callersAmong (workspace : Workspace) (name : String) (depth : Nat) :
    List SourceFile → Lookup (List CallNode)
  | [] => return []
  | file :: rest => do
      match ← workspace.lines? file.path with
      | none => workspace.callersAmong name depth rest
      | some lines =>
          let rules ← workspace.rulesFor file.language name
          let language := workspace.registry.language file.language
          let further ← workspace.callersAmong name depth rest
          return language.callersIn rules file lines depth ++ further

/-- The functions that call `node`, each once, without their own edges. -/
def callers (workspace : Workspace) (root : Path) (node : CallNode) : Lookup (List CallNode) := do
  let files ← workspace.files root
  let callers ← workspace.callersAmong node.functionName (node.depth + 1) files
  return distinctBy CallNode.key [] callers

def calleesNamed (workspace : Workspace) (root : Path) (depth : Nat) :
    List String → Lookup (List CallNode)
  | [] => return []
  | name :: rest => do
      let callee := match ← workspace.definition? name root with
        | some definition => definition.atDepth depth
        | none => .placeholder name depth
      let further ← workspace.calleesNamed root depth rest
      return callee :: further

/-- The functions that `node` calls in its body, each once, without their own edges. A declaration
without a body calls none. -/
def callees (workspace : Workspace) (options : TraceOptions) (root : Path) (node : CallNode) :
    Lookup (List CallNode) := do
  if node.abstractDeclaration then return []
  match ← workspace.lines? node.filePath with
  | none => return []
  | some lines =>
      let start := node.line - 1
      match lines[start]? with
      | none => return []
      | some first =>
          let language := workspace.registry.language node.language
          let rules ← workspace.rulesFor node.language node.functionName
          let body := language.bodyText rules lines options.bodyScanLimit start first
          workspace.calleesNamed root (node.depth + 1)
            (language.callsIn body options.includeExternal)

def neighbours (workspace : Workspace) (options : TraceOptions) (root : Path) (node : CallNode) :
    Edge → Lookup (List CallNode)
  | .caller => workspace.callers root node
  | .callee => workspace.callees options root node

def attach (node : CallNode) (found : List CallNode) : Edge → CallNode
  | .caller => { node with callers := found }
  | .callee => { node with callees := found }

/-- The tree below `node` along one kind of edge, `levels` deep; `ancestors` are the functions on the
path to it. -/
def expand (workspace : Workspace) (options : TraceOptions) (root : Path) (edge : Edge) :
    (levels : Nat) → (ancestors : List FunctionKey) → CallNode → Tracing CallNode
  | 0, _, node => return node
  | levels + 1, ancestors, node => do
      if node.isExternal then return node
      if options.timeoutMs = 0 then
        modify fun state => { state with truncated := true }
        return node
      if node.key ∈ ancestors then return node
      modify fun state => { state with expansions := state.expansions + 1 }
      let found ← Tracing.lookup (workspace.neighbours options root node edge)
      let found ← found.mapM (workspace.expand options root edge levels (node.key :: ancestors))
      return attach node found edge

def expandAlong (workspace : Workspace) (options : TraceOptions) (root : Path) :
    List Edge → CallNode → Tracing CallNode
  | [], node => return node
  | edge :: rest, node => do
      let node ← workspace.expand options root edge options.maxDepth [] node
      workspace.expandAlong options root rest node

def trace (workspace : Workspace) (options : TraceOptions) (root : Path) (name : String) :
    Tracing TraceOutput := do
  let tree ← match ← Tracing.lookup (workspace.definition? name root) with
    | none => pure none
    | some definition => do
        let tree ← workspace.expandAlong options root options.direction.edges (definition.atDepth 0)
        pure (some tree)
  let state ← get
  return ⟨tree, state.truncated, state.expansions⟩

end Workspace

end Callsite

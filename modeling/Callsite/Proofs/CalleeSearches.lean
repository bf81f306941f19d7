import Callsite.Proofs.Coupling
import Callsite.Proofs.Language.LiteralTargets
import Callsite.Proofs.Language.Tokens
import Callsite.Proofs.Provenance

set_option autoImplicit false

/-! Searches for callees. The search has a default wherever the ground could be missing: for a file without
lines, for a line that is not there, for a line that does not declare the node, for a name that ends inside a
character. No trace needs one of them: a node whose callees are looked for was found by its declaration, and
what the search reads and compiles is what the declaration was found with. -/

namespace Callsite

open Text

theorem Text.dropBytes?_utf8ByteSize (before after : String) :
    dropBytes? (before ++ after).toList before.utf8ByteSize = some after.toList := by
  rw [String.toList_append, utf8ByteSize_eq, dropBytes?_append]

/-! ### Searches without defaults -/

namespace Workspace

/-- The search for the callees of a node with `otherwise` in place of each default. -/
def calleesOr (otherwise : Lookup (List CallNode)) (workspace : Workspace) (options : TraceOptions)
    (root : Path) (node : CallNode) : Lookup (List CallNode) := do
  if node.abstractDeclaration then return []
  match ← workspace.lines? node.filePath with
  | none => otherwise
  | some lines =>
      let start := node.line - 1
      match lines[start]? with
      | none => otherwise
      | some first =>
          let language := workspace.registry.language node.language
          let rules ← workspace.rulesFor node.language node.functionName
          match rules.declaredNameEnd? first with
          | none => otherwise
          | some stop =>
              match dropBytes? first.toList stop with
              | none => otherwise
              | some tail =>
                  let span := Body.isolate language.table.blockStyle lines options.bodyScanLimit start
                  let further := (lines.take (span.stop + 1)).drop (start + 1)
                  let body := String.intercalate "\n" (String.ofList tail :: further)
                  workspace.calleesNamed root (node.depth + 1)
                    (language.callsIn body options.includeExternal)

/-- Whether the line of a node declares it, in its file and by its rules as a fresh lookup finds them. -/
def Declares (workspace : Workspace) (node : CallNode) : Prop :=
  1 ≤ node.line ∧ ∃ lines first rules hit, workspace.linesAfresh? node.filePath = some lines ∧
    lines[node.line - 1]? = some first ∧
    workspace.rulesAfresh node.language node.functionName = .ok rules ∧
    rules.declaration? first = some hit

section

variable {workspace : Workspace} {node : CallNode}

theorem Declares.atDepth (declares : workspace.Declares node) (depth : Nat) :
    workspace.Declares (node.atDepth depth) :=
  declares

theorem Declares.attach (declares : workspace.Declares node) (found : List CallNode) (edge : Edge) :
    workspace.Declares (attach node found edge) := by
  cases edge <;> exact declares

theorem declares_of_definitionAfresh? {name : String} {root : Path}
    (found : workspace.definitionAfresh? name root = .ok (some node)) : workspace.Declares node := by
  obtain ⟨files, _, searched⟩ := bind_eq_ok_iff.mp found
  obtain ⟨file, _, lines, rules, read, compiled, here⟩ := exists_of_definitionAmong? searched
  obtain ⟨index, first, hit, atLine, _, declared, rfl⟩ := exists_of_definitionIn? here
  refine ⟨Nat.le_add_right 1 index, lines, first, rules, hit, read, ?_, compiled, declared⟩
  rw [Nat.add_sub_cancel_left]
  exact atLine

theorem declares_of_mem_calleesAfresh {options : TraceOptions} {root : Path} {found : List CallNode}
    (searched : workspace.calleesAfresh options root node = .ok found) {callee : CallNode}
    (member : callee ∈ found) (own : callee.isExternal = false) : workspace.Declares callee := by
  obtain ⟨_, _, _, name, definition, _, _, _, _, resolved, rfl⟩ :=
    exists_of_mem_calleesAfresh searched member
  cases definition with
  | none =>
      rw [calleeNode, CallNode.isExternal_placeholder] at own
      cases own
  | some definition => exact (declares_of_definitionAfresh? resolved).atDepth _

variable (byPlace : workspace.corpus.ByPlace) (regular : workspace.registry.Regular)

include regular in
theorem Declares.exists_split (declares : workspace.Declares node) :
    ∃ lines rules before after, workspace.linesAfresh? node.filePath = some lines ∧
      lines[node.line - 1]? = some (before ++ node.functionName ++ after) ∧
      workspace.rulesAfresh node.language node.functionName = .ok rules ∧
      rules.declaredNameEnd? (before ++ node.functionName ++ after) =
        some (before ++ node.functionName).utf8ByteSize := by
  obtain ⟨_, lines, first, rules, hit, read, atLine, fresh, declared⟩ := declares
  have compiled : (workspace.registry.language node.language).rulesFor node.functionName = .ok rules :=
    rulesAfresh_eq_ok_iff.mp fresh
  obtain ⟨before, after, rfl, stop⟩ :=
    (regular.language node.language).exists_declaredNameEnd? compiled declared
  exact ⟨lines, rules, before, after, read, atLine, fresh, stop⟩

include byPlace regular in
theorem Declares.callees_eq (declares : workspace.Declares node) {session : Session}
    (sound : session.Sound workspace) (otherwise : Lookup (List CallNode)) (options : TraceOptions)
    (root : Path) :
    outcome (workspace.calleesOr otherwise options root node) session =
      outcome (workspace.callees options root node) session := by
  obtain ⟨lines, rules, before, after, read, atLine, fresh, stop⟩ := declares.exists_split regular
  have tail := dropBytes?_utf8ByteSize (before ++ node.functionName) after
  rw [calleesOr, callees]
  cases node.abstractDeclaration with
  | true => rfl
  | false =>
      obtain ⟨next, reads, soundNext⟩ := (lines?_agrees byPlace node.filePath).exists_outcome sound
      obtain ⟨last, compiles, _⟩ :=
        (rulesFor_agrees node.language node.functionName).exists_outcome soundNext
      rw [read] at reads
      rw [fresh] at compiles
      simp only [Bool.false_eq_true, if_false, outcome_bind_ok reads, atLine, outcome_bind_ok compiles, stop,
        tail, Language.bodyText, Option.getD_some]

end

end Workspace

/-! ### Traces on record -/

structure EdgeSearch where
  edge : Edge
  node : CallNode
  /-- What is remembered when the search begins. -/
  session : Session

/-- The state of a trace with its searches so far, in order. -/
structure Ledger where
  state : TraceState := {}
  searches : List EdgeSearch := []

abbrev Recording := ExceptT Failure (StateM Ledger)

namespace Recording

def lookup {α : Type} (action : Lookup α) : Recording α := do
  let ledger ← get
  let (result, state) := (Tracing.lookup action).run.run ledger.state
  set { ledger with state := state }
  MonadExcept.ofExcept result

theorem outcome_lookup {α : Type} (action : Lookup α) (ledger : Ledger) :
    outcome (lookup action) ledger =
      ((outcome (Tracing.lookup action) ledger.state).1,
        { ledger with state := (outcome (Tracing.lookup action) ledger.state).2 }) := by
  rw [lookup, outcome_bind, outcome_get]
  show outcome (set _ >>= fun _ => MonadExcept.ofExcept (outcome (Tracing.lookup action) ledger.state).1)
    ledger = _
  rw [outcome_bind, outcome_set]
  exact outcome_ofExcept _ _

end Recording

def Ledger.enter (edge : Edge) (node : CallNode) (ledger : Ledger) : Ledger where
  state := { ledger.state with expansions := ledger.state.expansions + 1 }
  searches := ledger.searches ++ [⟨edge, node, ledger.state.session⟩]

namespace Workspace

def expandRecorded (workspace : Workspace) (options : TraceOptions) (root : Path) (edge : Edge) :
    (levels : Nat) → (ancestors : List FunctionKey) → CallNode → Recording CallNode
  | 0, _, node => return node
  | levels + 1, ancestors, node => do
      if node.isExternal then return node
      if options.timeoutMs = 0 then
        modify fun ledger => { ledger with state := { ledger.state with truncated := true } }
        return node
      if ancestors.contains node.key then return node
      modify (Ledger.enter edge node)
      let found ← Recording.lookup (workspace.neighbours options root node edge)
      let found ← found.mapM (workspace.expandRecorded options root edge levels (node.key :: ancestors))
      return attach node found edge

def expandAlongRecorded (workspace : Workspace) (options : TraceOptions) (root : Path) :
    List Edge → CallNode → Recording CallNode
  | [], node => return node
  | edge :: rest, node => do
      let node ← workspace.expandRecorded options root edge options.maxDepth [] node
      workspace.expandAlongRecorded options root rest node

def traceRecorded (workspace : Workspace) (options : TraceOptions) (root : Path) (name : String) :
    Recording TraceOutput := do
  let tree ← match ← Recording.lookup (workspace.definition? name root) with
    | none => pure none
    | some definition => do
        let tree ← workspace.expandAlongRecorded options root options.direction.edges
          (definition.atDepth 0)
        pure (some tree)
  let ledger ← get
  return ⟨tree, ledger.state.truncated, ledger.state.expansions⟩

end Workspace

/-- Whether a ledger is that of a trace in `state`, and whenever it has a search for callees on record, the
line of the node declares it and what was remembered was sound. -/
structure Ledger.Follows (workspace : Workspace) (state : TraceState) (ledger : Ledger) : Prop where
  same : ledger.state = state
  sound : state.session.Sound workspace
  counted : ledger.searches.length = state.expansions
  declared : ∀ search ∈ ledger.searches, search.edge = .callee →
    workspace.Declares search.node ∧ search.session.Sound workspace

namespace Ledger.Follows

variable {workspace : Workspace}

theorem empty (workspace : Workspace) : Follows workspace {} {} where
  same := rfl
  sound := Session.sound_empty workspace
  counted := rfl
  declared := nofun

theorem enter {state : TraceState} {ledger : Ledger} (follows : Follows workspace state ledger) {edge : Edge}
    {node : CallNode} (declares : edge = .callee → workspace.Declares node) :
    Follows workspace { state with expansions := state.expansions + 1 } (ledger.enter edge node) := by
  obtain ⟨rfl, sound, counted, declared⟩ := follows
  refine ⟨rfl, sound, ?_, ?_⟩
  · rw [Ledger.enter, List.length_append, counted, List.length_singleton]
  · rw [Ledger.enter, List.forall_mem_append, List.forall_mem_singleton]
    exact ⟨declared, fun callee => ⟨declares callee, sound⟩⟩

theorem lookup {α : Type} {action : Lookup α} {expected : Except Failure α}
    (agrees : Agrees (Session.Sound workspace) action expected) :
    Couples (Follows workspace) (Tracing.lookup action) (Recording.lookup action)
      fun value other => value = other ∧ expected = .ok value := by
  rintro state ledger ⟨rfl, sound, counted, declared⟩
  obtain ⟨came, soundAfter⟩ := agrees ledger.state.session sound
  rw [Recording.outcome_lookup, Tracing.outcome_lookup, came]
  refine ⟨?_, rfl, soundAfter, counted, declared⟩
  cases expected with
  | error failure => exact .error failure
  | ok value => exact .ok ⟨rfl, rfl⟩

end Ledger.Follows

namespace Workspace

variable {workspace : Workspace} {options : TraceOptions} {root : Path}
  (byPlace : workspace.corpus.ByPlace)

include byPlace

/-- The record keeps up with the trace, level by level. Nodes whose callers are looked for need not be
declared; of those whose callees are, the children are declared again. -/
theorem expand_follows (edge : Edge) (levels : Nat) : ∀ {ancestors : List FunctionKey} {node : CallNode},
    (edge = .callee → node.isExternal = false → workspace.Declares node) →
    Couples (Ledger.Follows workspace) (workspace.expand options root edge levels ancestors node)
      (workspace.expandRecorded options root edge levels ancestors node)
      fun tree other => tree = other ∧ (workspace.Declares node → workspace.Declares tree) := by
  induction levels with
  | zero => exact fun _ => Couples.pure ⟨rfl, id⟩
  | succ levels ih =>
      intro ancestors node declares
      have alone : Couples (Ledger.Follows workspace) (pure node) (pure node)
          fun tree other => tree = other ∧ (workspace.Declares node → workspace.Declares tree) :=
        Couples.pure ⟨rfl, id⟩
      rw [expand, expandRecorded]
      cases external : node.isExternal with
      | true => exact alone
      | false =>
          rw [if_neg Bool.false_ne_true, if_neg Bool.false_ne_true]
          by_cases spent : options.timeoutMs = 0
          · rw [if_pos spent, if_pos spent]
            apply Couples.bind (Couples.modify fun state ledger follows => ?_)
            · exact fun _ _ _ => alone
            · exact { follows with same := by rw [follows.same] }
          rw [if_neg spent, if_neg spent]
          by_cases known : node.key ∈ ancestors
          · rw [if_pos known, if_pos (List.contains_iff_mem.mpr known)]
            exact alone
          rw [if_neg known, if_neg (mt List.contains_iff_mem.mp known)]
          -- The expansion is counted on one side, and on the other put on record as well.
          apply Couples.bind (Couples.modify fun state ledger follows =>
            follows.enter fun callee => declares callee external)
          intro _ _ _
          apply (Ledger.Follows.lookup (neighbours_agrees byPlace options root node edge)).bind
          rintro found _ ⟨rfl, searched⟩
          -- What was found is found afresh, so that callees are again on lines that declare them.
          have each (child : CallNode) (member : child ∈ found) : edge = .callee →
              child.isExternal = false → workspace.Declares child := by
            rintro rfl own
            exact declares_of_mem_calleesAfresh searched member own
          have children : List.Forall₂ (fun child other => child = other ∧ child ∈ found) found found :=
            List.forall₂_same.mpr fun child member => ⟨rfl, member⟩
          apply Couples.bind (Couples.mapM children fun child other alike => ?_)
          · intro trees others grown
            have same : trees = others := List.forall₂_eq_eq_eq ▸ grown
            refine Couples.pure ⟨?_, fun declares => declares.attach trees edge⟩
            rw [same]
          · obtain ⟨rfl, member⟩ := alike
            exact (ih (each child member)).imp fun _ _ grown => grown.1

theorem expandAlong_follows (edges : List Edge) : ∀ {node : CallNode}, workspace.Declares node →
    Couples (Ledger.Follows workspace) (workspace.expandAlong options root edges node)
      (workspace.expandAlongRecorded options root edges node) Eq := by
  induction edges with
  | nil => exact fun _ => Couples.pure rfl
  | cons edge rest ih =>
      intro node declares
      apply (expand_follows byPlace edge options.maxDepth fun _ _ => declares).bind
      rintro tree _ ⟨rfl, kept⟩
      exact ih (kept declares)

theorem trace_follows (name : String) :
    Couples (Ledger.Follows workspace) (workspace.trace options root name)
      (workspace.traceRecorded options root name) Eq := by
  have finish (tree : Option CallNode) : Couples (Ledger.Follows workspace)
      (do let state ← get; return ⟨tree, state.truncated, state.expansions⟩ : Tracing TraceOutput)
      (do let ledger ← get; return ⟨tree, ledger.state.truncated, ledger.state.expansions⟩ :
        Recording TraceOutput) Eq := by
    rintro state ledger follows
    exact ⟨.ok (by rw [follows.same]), follows⟩
  rw [trace, traceRecorded]
  apply (Ledger.Follows.lookup (definition?_agrees byPlace name root)).bind
  rintro found _ ⟨rfl, searched⟩
  cases found with
  | none => exact finish none
  | some definition =>
      have declares : workspace.Declares definition := declares_of_definitionAfresh? searched
      apply (expandAlong_follows byPlace options.direction.edges (declares.atDepth 0)).bind
      rintro tree _ rfl
      exact finish (some tree)

end Workspace

/-! ### What a search goes by -/

/-- What a search for callees goes by: `lines` are read and `rules` compiled for its node, and by these rules
the line of the node, which is among the lines, declares the name of the node between `before` and `after`. -/
structure EdgeSearch.GoesBy (search : EdgeSearch) (workspace : Workspace) (lines : List String)
    (rules : TargetRules) (line before after : String) : Prop where
  read : (outcome (workspace.lines? search.node.filePath) search.session).1 = .ok (some lines)
  compiled : (outcome (workspace.rulesFor search.node.language search.node.functionName)
    search.session).1 = .ok rules
  positive : 1 ≤ search.node.line
  atLine : lines[search.node.line - 1]? = some line
  whole : line = before ++ search.node.functionName ++ after
  nameEnd : rules.declaredNameEnd? line = some (before ++ search.node.functionName).utf8ByteSize
  behind : dropBytes? line.toList (before ++ search.node.functionName).utf8ByteSize = some after.toList

theorem Workspace.Declares.exists_goesBy {workspace : Workspace} (byPlace : workspace.corpus.ByPlace)
    (regular : workspace.registry.Regular) {search : EdgeSearch}
    (declares : workspace.Declares search.node) (sound : search.session.Sound workspace) :
    ∃ lines rules line before after, search.GoesBy workspace lines rules line before after := by
  obtain ⟨lines, rules, before, after, read, atLine, fresh, stop⟩ := declares.exists_split regular
  have reads := (Workspace.lines?_agrees byPlace search.node.filePath search.session sound).1
  have compiles := (Workspace.rulesFor_agrees search.node.language search.node.functionName
    search.session sound).1
  exact ⟨lines, rules, _, before, after, read ▸ reads, compiles.trans fresh, declares.1, atLine, rfl, stop,
    Text.dropBytes?_utf8ByteSize _ after⟩

/-- A trace is the same on record, each of its expansions is a search on record, and each search for callees
goes by a line that declares its node: whatever stood in place of its defaults, it would come to the same. -/
theorem MemoryCorpus.callee_searches_go_by_declarations (corpus : MemoryCorpus)
    (extensions : Dictionary String) (filter : LanguageFilter) (options : TraceOptions) (root : Path)
    (name : String) :
    let workspace := corpus.workspace extensions filter
    let run := outcome (workspace.traceRecorded options root name) {}
    (run.1, run.2.state) = outcome (workspace.trace options root name) {} ∧
      run.2.searches.length = run.2.state.expansions ∧
      ∀ search ∈ run.2.searches, search.edge = .callee →
        (∃ lines rules line before after, search.GoesBy workspace lines rules line before after) ∧
        ∀ otherwise : Lookup (List CallNode),
          outcome (workspace.calleesOr otherwise options root search.node) search.session =
            outcome (workspace.callees options root search.node) search.session := by
  intro workspace run
  have regular : workspace.registry.Regular := Shipped.registry_regular.withExtensions extensions
  have byPlace : workspace.corpus.ByPlace := corpus.toCorpus_byPlace
  obtain ⟨matched, follows⟩ := Workspace.trace_follows byPlace name {} {} (Ledger.Follows.empty workspace)
  refine ⟨Prod.ext matched.eq.symm follows.same, ?_, ?_⟩
  · rw [follows.counted, follows.same]
  · intro search member callee
    obtain ⟨declares, sound⟩ := follows.declared search member callee
    exact ⟨declares.exists_goesBy byPlace regular sound, fun otherwise =>
      declares.callees_eq byPlace regular sound otherwise options root⟩

namespace Scripts

/-- The ledger of a trace in both directions. -/
def record : Ledger :=
  (outcome ((corpus.workspace {} .any).traceRecorded {} ⟨""⟩ "f") {}).2

theorem record_outline :
    record.searches.map (fun search => (search.edge, search.node.functionName)) =
      [(.caller, "f"), (.caller, "g"), (.callee, "f"), (.callee, "g")] := by
  decide +kernel

/-- The callees of a callee are looked for behind its name, on the line that its definition was found on. -/
theorem callee_search_goes_by :
    ∃ search ∈ record.searches, search.edge = .callee ∧ search.node.functionName = "g" ∧
      ∃ lines rules line before after,
        search.GoesBy (corpus.workspace {} .any) lines rules line before after := by
  have recorded : (Edge.callee, "g") ∈ record.searches.map fun search =>
      (search.edge, search.node.functionName) := by
    rw [record_outline]
    decide
  obtain ⟨search, member, same⟩ := List.mem_map.mp recorded
  obtain ⟨callee, named⟩ := Prod.mk.inj same
  refine ⟨search, member, callee, named, ?_⟩
  have searches := (MemoryCorpus.callee_searches_go_by_declarations corpus {} .any {} ⟨""⟩ "f").2.2
  -- The two runs are made the same term, since to compare them otherwise is to run the trace.
  rw [record] at member
  exact (searches search member callee).1

end Scripts

end Callsite

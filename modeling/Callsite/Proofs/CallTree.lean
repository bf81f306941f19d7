import Callsite.Proofs.Afresh

set_option autoImplicit false

/-! The tree of a trace without memory. Starting at a definition, a node is followed if it stands above
the depth bound, is no placeholder, and no node on the path to it is the same function; the functions
found by a fresh search become its children. A trace builds this very tree, whatever its session
remembers on the way. -/

namespace Callsite

/-- A visit of the recursion: the node, whether its edges were looked for, and the further visits that
were made of the nodes found. -/
structure Visit where
  node : CallNode
  followed : Bool
  further : List Visit

namespace Visit

mutual

def tree (edge : Edge) : Visit → CallNode
  | ⟨node, _, further⟩ => Workspace.attach node (trees edge further) edge

def trees (edge : Edge) : List Visit → List CallNode
  | [] => []
  | visit :: rest => tree edge visit :: trees edge rest

end

theorem trees_eq_map (edge : Edge) (visits : List Visit) :
    trees edge visits = visits.map (tree edge) := by
  induction visits with
  | nil => rfl
  | cons visit rest ih => rw [trees, ih, List.map_cons]

mutual

def expansions : Visit → Nat
  | ⟨_, followed, further⟩ => followed.toNat + expansionsOf further

def expansionsOf : List Visit → Nat
  | [] => 0
  | visit :: rest => expansions visit + expansionsOf rest

end

end Visit

def CallNode.along (node : CallNode) : Edge → List CallNode
  | .caller => node.callers
  | .callee => node.callees

def CallNode.Bare (node : CallNode) : Prop :=
  node.callers = [] ∧ node.callees = []

theorem CallNode.Bare.along {node : CallNode} (bare : node.Bare) (edge : Edge) :
    node.along edge = [] := by
  cases edge with
  | caller => exact bare.1
  | callee => exact bare.2

/-- The depth at which the nodes of a trace are leaves: none is followed once the time is spent. -/
def TraceOptions.reach (options : TraceOptions) : Nat :=
  if options.timeoutMs = 0 then 0 else options.maxDepth

theorem TraceOptions.reach_le (options : TraceOptions) : options.reach ≤ options.maxDepth := by
  rw [reach]
  split <;> omega

namespace Workspace

/-- The visit of `node` when everything is looked up afresh; `path` holds the functions on the path to
it, and nodes at depth `limit` are leaves. -/
def visit (workspace : Workspace) (options : TraceOptions) (root : Path) (limit : Nat) (edge : Edge)
    (path : List FunctionKey) (node : CallNode) : Except Failure Visit :=
  if node.depth < limit ∧ ¬node.isExternal ∧ node.key ∉ path then do
    let found ← workspace.neighboursAfresh options root node edge
    let further ← found.mapM fun child =>
      workspace.visit options root limit edge (node.key :: path) (child.atDepth (node.depth + 1))
    .ok ⟨node, true, further⟩
  else .ok ⟨node, false, []⟩
termination_by limit - node.depth
decreasing_by
  simp only [CallNode.atDepth]
  omega

def visitFrom (workspace : Workspace) (options : TraceOptions) (root : Path) (limit : Nat)
    (start : CallNode) (edge : Edge) : Except Failure Visit :=
  if edge ∈ options.direction.edges then workspace.visit options root limit edge [] start
  else .ok ⟨start, false, []⟩

end Workspace

/-- What there is around a definition: a visit of it along each kind of edge. -/
structure Survey where
  start : CallNode
  callers : Visit
  callees : Visit

namespace Survey

def along (survey : Survey) : Edge → Visit
  | .caller => survey.callers
  | .callee => survey.callees

def tree (survey : Survey) : CallNode :=
  { survey.start with
    callers := Visit.trees .caller survey.callers.further
    callees := Visit.trees .callee survey.callees.further }

def expansions (survey : Survey) : Nat :=
  survey.callers.expansions + survey.callees.expansions

end Survey

theorem Visit.tree_along (edge : Edge) (visit : Visit) :
    (visit.tree edge).along edge = visit.further.map (tree edge) := by
  rcases visit with ⟨node, followed, further⟩
  rw [← trees_eq_map]
  cases edge <;> rfl

theorem Survey.along_tree (survey : Survey) (edge : Edge) :
    survey.tree.along edge = (survey.along edge).further.map (Visit.tree edge) := by
  rw [← Visit.trees_eq_map]
  cases edge <;> rfl

namespace Workspace

def surveyOf (workspace : Workspace) (options : TraceOptions) (root : Path) (limit : Nat)
    (start : CallNode) : Except Failure Survey := do
  let callers ← workspace.visitFrom options root limit start .caller
  let callees ← workspace.visitFrom options root limit start .callee
  .ok ⟨start, callers, callees⟩

def survey? (workspace : Workspace) (options : TraceOptions) (root : Path) (limit : Nat)
    (name : String) : Except Failure (Option Survey) := do
  match ← workspace.definitionAfresh? name root with
  | none => .ok none
  | some definition =>
      let survey ← workspace.surveyOf options root limit (definition.atDepth 0)
      .ok (some survey)

/-- The tree around the first definition of `name`, when everything is looked up afresh. -/
def callTree? (workspace : Workspace) (options : TraceOptions) (root : Path) (limit : Nat)
    (name : String) : Except Failure (Option CallNode) :=
  (workspace.survey? options root limit name).map (Option.map Survey.tree)

theorem exists_survey_of_callTree? {workspace : Workspace} {options : TraceOptions} {root : Path}
    {limit : Nat} {name : String} {tree : CallNode}
    (found : workspace.callTree? options root limit name = .ok (some tree)) :
    ∃ survey, workspace.survey? options root limit name = .ok (some survey) ∧ tree = survey.tree := by
  rw [callTree?] at found
  cases surveyed : workspace.survey? options root limit name with
  | error failure =>
      rw [surveyed] at found
      cases found
  | ok result =>
      rw [surveyed] at found
      obtain ⟨survey, rfl, same⟩ := Option.map_eq_some_iff.mp (Except.ok.inj found)
      exact ⟨survey, rfl, same.symm⟩

theorem exists_of_survey? {workspace : Workspace} {options : TraceOptions} {root : Path}
    {limit : Nat} {name : String} {survey : Survey}
    (surveyed : workspace.survey? options root limit name = .ok (some survey)) :
    ∃ definition, workspace.definitionAfresh? name root = .ok (some definition) ∧
      survey.start = definition.atDepth 0 ∧
      ∀ edge, workspace.visitFrom options root limit survey.start edge = .ok (survey.along edge) := by
  obtain ⟨found, defined, surveyed⟩ := bind_eq_ok_iff.mp surveyed
  cases found with
  | none => cases Except.ok.inj surveyed
  | some definition =>
      obtain ⟨around, visited, same⟩ := bind_eq_ok_iff.mp surveyed
      cases Except.ok.inj same
      obtain ⟨callers, upward, visited⟩ := bind_eq_ok_iff.mp visited
      obtain ⟨callees, downward, same⟩ := bind_eq_ok_iff.mp visited
      cases Except.ok.inj same
      refine ⟨definition, defined, rfl, fun edge => ?_⟩
      cases edge with
      | caller => exact upward
      | callee => exact downward

theorem exists_definition_of_survey? {workspace : Workspace} {options : TraceOptions} {root : Path}
    {limit : Nat} {name : String} {survey : Survey}
    (surveyed : workspace.survey? options root limit name = .ok (some survey)) :
    ∃ definition, workspace.definitionAfresh? name root = .ok (some definition) ∧
      survey.start = definition.atDepth 0 := by
  obtain ⟨definition, defined, start, _⟩ := exists_of_survey? surveyed
  exact ⟨definition, defined, start⟩

theorem attach_along (node : CallNode) (edge : Edge) (leaf : node.along edge = []) :
    attach node [] edge = node := by
  cases node
  cases edge <;> simp_all [CallNode.along, attach]

theorem neighboursAfresh_attach (workspace : Workspace) (options : TraceOptions) (root : Path)
    (node : CallNode) (found : List CallNode) (edge other : Edge) :
    workspace.neighboursAfresh options root (attach node found other) edge =
      workspace.neighboursAfresh options root node edge := by
  cases edge <;> cases other <;> rfl

private theorem map_bind {ε α β γ : Type} (result : Except ε α) (next : α → Except ε β)
    (change : β → γ) :
    (result >>= next).map change = result >>= fun value => (next value).map change := by
  cases result <;> rfl

private theorem map_map {ε α β γ : Type} (result : Except ε α) (first : α → β) (second : β → γ) :
    (result.map first).map second = result.map (second ∘ first) := by
  cases result <;> rfl

theorem visit_attach (workspace : Workspace) (options : TraceOptions) (root : Path) (limit : Nat)
    (node : CallNode) (found : List CallNode) (edge other : Edge) (path : List FunctionKey) :
    workspace.visit options root limit edge path (attach node found other) =
      (workspace.visit options root limit edge path node).map fun visit =>
        { visit with node := attach node found other } := by
  have sameDepth : (attach node found other).depth = node.depth := by cases other <;> rfl
  have sameKey : (attach node found other).key = node.key := by cases other <;> rfl
  have sameKind : (attach node found other).isExternal = node.isExternal := by cases other <;> rfl
  conv_lhs => rw [visit, sameDepth, sameKey, sameKind, neighboursAfresh_attach]
  conv_rhs => rw [visit]
  split
  · rw [map_bind]
    refine bind_congr fun neighbours => ?_
    rw [map_bind]
    rfl
  · rfl

theorem visit_node {workspace : Workspace} {options : TraceOptions} {root : Path} {limit : Nat}
    {edge : Edge} {path : List FunctionKey} {node : CallNode} {visit : Visit}
    (visited : workspace.visit options root limit edge path node = .ok visit) :
    visit.node = node := by
  rw [Workspace.visit] at visited
  split at visited
  · obtain ⟨found, _, visited⟩ := bind_eq_ok_iff.mp visited
    obtain ⟨further, _, same⟩ := bind_eq_ok_iff.mp visited
    cases Except.ok.inj same
    rfl
  · cases Except.ok.inj visited
    rfl

theorem visit_eq_follow {workspace : Workspace} {options : TraceOptions} {root : Path} {limit : Nat}
    {edge : Edge} {path : List FunctionKey} {node : CallNode}
    (follows : node.depth < limit ∧ ¬node.isExternal ∧ node.key ∉ path) :
    workspace.visit options root limit edge path node = (do
      let found ← workspace.neighboursAfresh options root node edge
      let further ← found.mapM fun child =>
        workspace.visit options root limit edge (node.key :: path) (child.atDepth (node.depth + 1))
      .ok ⟨node, true, further⟩) := by
  rw [visit, if_pos follows]

theorem visit_eq_leaf {workspace : Workspace} {options : TraceOptions} {root : Path} {limit : Nat}
    {edge : Edge} {path : List FunctionKey} {node : CallNode}
    (stays : ¬(node.depth < limit ∧ ¬node.isExternal ∧ node.key ∉ path)) :
    workspace.visit options root limit edge path node = .ok ⟨node, false, []⟩ := by
  rw [visit, if_neg stays]

theorem visit_congr {workspace : Workspace} {options other : TraceOptions} {root : Path} {limit : Nat}
    {edge : Edge}
    (alike : ∀ node, workspace.neighboursAfresh options root node edge =
      workspace.neighboursAfresh other root node edge) (path : List FunctionKey) (node : CallNode) :
    workspace.visit options root limit edge path node =
      workspace.visit other root limit edge path node := by
  induction path, node using visit.induct limit with
  | case1 path node follows ih =>
      rw [visit_eq_follow follows, visit_eq_follow follows, alike]
      refine bind_congr_of_ok fun found _ => ?_
      rw [mapM_congr_of_mem fun child _ => ih child]
  | case2 path node stays => rw [visit_eq_leaf stays, visit_eq_leaf stays]

theorem exists_visit_of_visitFrom {workspace : Workspace} {options : TraceOptions} {root : Path}
    {limit : Nat} {start : CallNode} {edge : Edge} {visit : Visit}
    (visited : workspace.visitFrom options root limit start edge = .ok visit) :
    ∃ reached ≤ limit, workspace.visit options root reached edge [] start = .ok visit := by
  rw [visitFrom] at visited
  split at visited
  · exact ⟨limit, Nat.le_refl limit, visited⟩
  · refine ⟨0, Nat.zero_le limit, ?_⟩
    rw [visit_eq_leaf (fun follows => Nat.not_lt_zero _ follows.1)]
    exact visited

theorem exists_visit_of_survey? {workspace : Workspace} {options : TraceOptions} {root : Path}
    {limit : Nat} {name : String} {survey : Survey}
    (surveyed : workspace.survey? options root limit name = .ok (some survey)) (edge : Edge) :
    ∃ reached ≤ limit,
      workspace.visit options root reached edge [] survey.start = .ok (survey.along edge) := by
  obtain ⟨_, _, _, visited⟩ := exists_of_survey? surveyed
  exact exists_visit_of_visitFrom (visited edge)

end Workspace

section

variable {workspace : Workspace} {options : TraceOptions} {root : Path} {limit : Nat} {edge : Edge}

open Workspace

/-- A property of visits holds of them all if it holds of leaves, and of a node that is followed if it
holds of the visits of its neighbours. -/
theorem visit_induction (holds : List FunctionKey → Visit → Prop)
    (leaf : ∀ path node, ¬(node.depth < limit ∧ ¬node.isExternal ∧ node.key ∉ path) →
      holds path ⟨node, false, []⟩)
    (follow : ∀ path node further, node.depth < limit → node.isExternal = false →
      node.key ∉ path →
      workspace.neighboursAfresh options root node edge = .ok (further.map Visit.node) →
      (∀ child ∈ further, child.node.depth = node.depth + 1 ∧ child.node.Bare ∧
        holds (node.key :: path) child) →
      holds path ⟨node, true, further⟩) (path : List FunctionKey) (node : CallNode) :
    ∀ {visit : Visit}, workspace.visit options root limit edge path node = .ok visit →
      holds path visit := by
  induction path, node using visit.induct limit with
  | case1 path node follows ih =>
      intro result visited
      rw [visit_eq_follow follows] at visited
      obtain ⟨found, searched, visited⟩ := bind_eq_ok_iff.mp visited
      obtain ⟨further, visitedAll, same⟩ := bind_eq_ok_iff.mp visited
      cases Except.ok.inj same
      have placed (child : CallNode) (member : child ∈ found) :=
        atDepth_of_mem_neighboursAfresh searched member
      have nodes : further.map Visit.node = found := by
        refine map_eq_of_mapM visitedAll Visit.node fun child member visit visited => ?_
        rw [visit_node visited, placed child member]
      refine follow path node further follows.1 (eq_false_of_ne_true follows.2.1)
        follows.2.2 (nodes.symm ▸ searched) fun child member => ?_
      obtain ⟨start, inFound, visited⟩ := exists_of_mem_mapM visitedAll member
      rw [visit_node visited]
      exact ⟨rfl, ⟨rfl, rfl⟩, ih start visited⟩
  | case2 path node stays =>
      intro result visited
      rw [visit_eq_leaf stays] at visited
      cases Except.ok.inj visited
      exact leaf path node stays

end

/-- Whether `action` comes to `expected` from every state with a sound session: it fails as expected, or
gives the expected value, leaves a sound session and counts the expected number of expansions. -/
def Counts {α : Type} (workspace : Workspace) (action : Tracing α)
    (expected : Except Failure (α × Nat)) : Prop :=
  ∀ state : TraceState, state.session.Sound workspace →
    match expected with
    | .error failure => (outcome action state).1 = .error failure
    | .ok (value, count) => ∃ after : TraceState, after.session.Sound workspace ∧
        after.expansions = state.expansions + count ∧ outcome action state = (.ok value, after)

namespace Counts

variable {α β : Type} {workspace : Workspace}

theorem pure (value : α) : Counts workspace (pure value) (.ok (value, 0)) :=
  fun state sound => ⟨state, sound, rfl, rfl⟩

theorem expansion : Counts workspace
    (modify fun state => { state with expansions := state.expansions + 1 }) (.ok (⟨⟩, 1)) :=
  fun state sound => ⟨{ state with expansions := state.expansions + 1 }, sound, rfl, rfl⟩

theorem truncation : Counts workspace
    (modify fun state => { state with truncated := true }) (.ok (⟨⟩, 0)) :=
  fun state sound => ⟨{ state with truncated := true }, sound, rfl, rfl⟩

theorem bind_ok {action : Tracing α} {next : α → Tracing β} {value : α} {result : β}
    {count more : Nat} (here : Counts workspace action (.ok (value, count)))
    (there : Counts workspace (next value) (.ok (result, more))) :
    Counts workspace (action >>= next) (.ok (result, count + more)) := by
  intro state sound
  obtain ⟨between, soundBetween, counted, came⟩ := here state sound
  obtain ⟨after, soundAfter, countedMore, ended⟩ := there between soundBetween
  exact ⟨after, soundAfter, by omega, by rw [outcome_bind_ok came, ended]⟩

theorem bind_ok_error {action : Tracing α} {next : α → Tracing β} {value : α} {count : Nat}
    {failure : Failure} (here : Counts workspace action (.ok (value, count)))
    (there : Counts workspace (next value) (.error failure)) :
    Counts workspace (action >>= next) (.error failure) := by
  intro state sound
  obtain ⟨between, soundBetween, _, came⟩ := here state sound
  rw [outcome_bind_ok came]
  exact there between soundBetween

theorem then_pure {action : Tracing α} {value : α} {count : Nat}
    (here : Counts workspace action (.ok (value, count))) (change : α → β) :
    Counts workspace (do return change (← action)) (.ok (change value, count)) := by
  rw [← Nat.add_zero count]
  exact here.bind_ok (pure (change value))

theorem bind_error {action : Tracing α} {next : α → Tracing β} {failure : Failure}
    (here : Counts workspace action (.error failure)) :
    Counts workspace (action >>= next) (.error failure) := by
  intro state sound
  rw [outcome_bind_error (Prod.ext (here state sound) rfl)]

theorem lookup {action : Lookup α} {expected : Except Failure α}
    (agrees : Agrees (Session.Sound workspace) action expected) :
    Counts workspace (Tracing.lookup action) (expected.map (·, 0)) := by
  intro state sound
  obtain ⟨found, soundAfter⟩ := agrees state.session sound
  rw [Tracing.outcome_lookup, found]
  cases expected with
  | error failure => rfl
  | ok value =>
      exact ⟨{ state with session := (outcome action state.session).2 }, soundAfter, rfl, rfl⟩

end Counts

def Visit.outcome (edge : Edge) (visit : Visit) : CallNode × Nat :=
  (visit.tree edge, visit.expansions)

namespace Workspace

variable {workspace : Workspace} {options : TraceOptions} {root : Path}

private theorem mapM_counts {edge : Edge} {grow : CallNode → Tracing CallNode}
    {visits : CallNode → Except Failure Visit} (found : List CallNode)
    (grows : ∀ child ∈ found,
      Counts workspace (grow child) ((visits child).map (Visit.outcome edge))) :
    Counts workspace (found.mapM grow) ((found.mapM visits).map fun visits =>
      (Visit.trees edge visits, Visit.expansionsOf visits)) := by
  induction found with
  | nil => exact Counts.pure []
  | cons child rest ih =>
      have first := grows child List.mem_cons_self
      have later := ih fun other member => grows other (List.mem_cons_of_mem child member)
      rw [List.mapM_cons, List.mapM_cons]
      cases here : visits child with
      | error failure =>
          rw [here] at first
          exact Counts.bind_error first
      | ok visit =>
          rw [here] at first
          cases there : rest.mapM visits with
          | error failure =>
              rw [there] at later
              refine Counts.bind_ok_error first ?_
              exact Counts.bind_error later
          | ok further =>
              rw [there] at later
              refine Counts.bind_ok first ?_
              exact Counts.then_pure later _

private theorem leaf_counts (edge : Edge) (node : CallNode) (leaf : node.along edge = []) :
    Counts workspace (pure node) ((Except.ok ⟨node, false, []⟩).map (Visit.outcome edge)) := by
  show Counts workspace (pure node) (.ok (attach node [] edge, 0))
  rw [attach_along node edge leaf]
  exact Counts.pure node

private theorem follow_counts (byPlace : workspace.corpus.ByPlace) (edge : Edge) (node : CallNode)
    {grow : CallNode → Tracing CallNode} {visits : CallNode → Except Failure Visit}
    (grows : ∀ found, workspace.neighboursAfresh options root node edge = .ok found →
      ∀ child ∈ found, Counts workspace (grow child) ((visits child).map (Visit.outcome edge))) :
    Counts workspace
      (do
        modify fun state => { state with expansions := state.expansions + 1 }
        let found ← Tracing.lookup (workspace.neighbours options root node edge)
        let found ← found.mapM grow
        return attach node found edge)
      ((do
        let found ← workspace.neighboursAfresh options root node edge
        let further ← found.mapM visits
        .ok ⟨node, true, further⟩ : Except Failure Visit).map (Visit.outcome edge)) := by
  have searched := Counts.lookup (neighbours_agrees byPlace options root node edge)
  cases neighbours : workspace.neighboursAfresh options root node edge with
  | error failure =>
      rw [neighbours] at searched
      show Counts workspace _ (.error failure)
      refine Counts.bind_ok_error Counts.expansion ?_
      exact Counts.bind_error searched
  | ok found =>
      rw [neighbours] at searched
      have grown := mapM_counts found (grows found neighbours)
      show Counts workspace _
        ((found.mapM visits >>= fun further => Except.ok ⟨node, true, further⟩).map
          (Visit.outcome edge))
      cases visited : found.mapM visits with
      | error failure =>
          rw [visited] at grown
          show Counts workspace _ (.error failure)
          refine Counts.bind_ok_error Counts.expansion ?_
          refine Counts.bind_ok_error searched ?_
          exact Counts.bind_error grown
      | ok further =>
          rw [visited] at grown
          show Counts workspace _ (.ok (attach node (Visit.trees edge further) edge,
            1 + Visit.expansionsOf further))
          refine Counts.bind_ok Counts.expansion ?_
          rw [← Nat.zero_add (Visit.expansionsOf further)]
          refine Counts.bind_ok searched ?_
          exact Counts.then_pure grown _

theorem expand_counts (byPlace : workspace.corpus.ByPlace) (edge : Edge) (levels : Nat) :
    ∀ (path : List FunctionKey) (node : CallNode), node.depth + levels = options.maxDepth →
      node.along edge = [] →
      Counts workspace (workspace.expand options root edge levels path node)
        ((workspace.visit options root options.reach edge path node).map (Visit.outcome edge)) := by
  -- The depth of a node and the levels left below it add up to the depth bound.
  induction levels with
  | zero =>
      intro path node depth leaf
      have reached := options.reach_le
      rw [visit_eq_leaf (fun follows => by omega)]
      exact leaf_counts edge node leaf
  | succ levels ih =>
      intro path node depth leaf
      rw [expand]
      by_cases external : node.isExternal
      · rw [visit_eq_leaf (fun follows => follows.2.1 external), if_pos external]
        exact leaf_counts edge node leaf
      rw [if_neg external]
      by_cases spent : options.timeoutMs = 0
      · have unreached : options.reach = 0 := if_pos spent
        rw [visit_eq_leaf (fun follows => by omega), if_pos spent]
        exact Counts.truncation.bind_ok (leaf_counts edge node leaf)
      have reached : options.reach = options.maxDepth := if_neg spent
      rw [if_neg spent]
      by_cases known : node.key ∈ path
      · rw [visit_eq_leaf (fun follows => follows.2.2 known), if_pos known]
        exact leaf_counts edge node leaf
      rw [if_neg known, visit_eq_follow ⟨by omega, external, known⟩]
      refine follow_counts byPlace edge node fun found searched child member => ?_
      have placed := atDepth_of_mem_neighboursAfresh searched member
      have childDepth : child.depth = node.depth + 1 := congrArg CallNode.depth placed.symm
      have childBare : child.Bare := placed ▸ ⟨rfl, rfl⟩
      rw [placed]
      exact ih (node.key :: path) child (by omega) (childBare.along edge)

theorem expandAlong_counts (byPlace : workspace.corpus.ByPlace) (definition : CallNode) :
    Counts workspace
      (workspace.expandAlong options root options.direction.edges (definition.atDepth 0))
      ((workspace.surveyOf options root options.reach (definition.atDepth 0)).map fun survey =>
        (survey.tree, survey.expansions)) := by
  have grown (edge : Edge) (node : CallNode) (top : node.depth = 0) (leaf : node.along edge = []) :
      Counts workspace (workspace.expand options root edge options.maxDepth [] node)
        ((workspace.visit options root options.reach edge [] node).map (Visit.outcome edge)) :=
    expand_counts byPlace edge options.maxDepth [] node (by omega) leaf
  have callers := grown .caller (definition.atDepth 0) rfl rfl
  have callees := grown .callee (definition.atDepth 0) rfl rfl
  rw [surveyOf, visitFrom, visitFrom]
  cases direction : options.direction with
  | callers =>
      cases visited : workspace.visit options root options.reach .caller [] (definition.atDepth 0) with
      | error failure =>
          rw [visited] at callers
          exact callers.bind_error
      | ok visit =>
          rw [visited] at callers
          rcases visit with ⟨node, followed, further⟩
          cases visit_node visited
          exact callers.then_pure id
  | callees =>
      cases visited : workspace.visit options root options.reach .callee [] (definition.atDepth 0) with
      | error failure =>
          rw [visited] at callees
          exact callees.bind_error
      | ok visit =>
          rw [visited] at callees
          rcases visit with ⟨node, followed, further⟩
          cases visit_node visited
          have alone := callees.then_pure id
          rw [← Nat.zero_add (Visit.expansions _)] at alone
          exact alone
  | both =>
      cases visited : workspace.visit options root options.reach .caller [] (definition.atDepth 0) with
      | error failure =>
          rw [visited] at callers
          exact callers.bind_error
      | ok upward =>
          rw [visited] at callers
          rcases upward with ⟨node, followed, further⟩
          cases visit_node visited
          -- The second search starts at the node that already has its callers.
          have callees := grown .callee
            (attach (definition.atDepth 0) (Visit.trees .caller further) .caller) rfl rfl
          rw [visit_attach] at callees
          cases visited : workspace.visit options root options.reach .callee [] (definition.atDepth 0)
            with
          | error failure =>
              rw [visited] at callees
              exact callers.bind_ok_error callees.bind_error
          | ok downward =>
              rw [visited] at callees
              rcases downward with ⟨node, followed, further⟩
              cases visit_node visited
              exact callers.bind_ok (callees.then_pure id)

theorem trace_eq_survey (byPlace : workspace.corpus.ByPlace) (options : TraceOptions) (root : Path)
    (name : String) :
    (outcome (workspace.trace options root name) {}).1.map (fun output =>
        (output.root, output.expansions)) =
      (workspace.survey? options root options.reach name).map fun found =>
        (found.map Survey.tree, (found.map Survey.expansions).getD 0) := by
  have looked := Counts.lookup (definition?_agrees byPlace name root)
  rw [survey?, trace]
  cases defined : workspace.definitionAfresh? name root with
  | error failure =>
      rw [defined] at looked
      rw [outcome_bind_error (Prod.ext (looked {} (Session.sound_empty workspace)) rfl)]
      rfl
  | ok found =>
      rw [defined] at looked
      obtain ⟨state, sound, counted, came⟩ := looked {} (Session.sound_empty workspace)
      rw [outcome_bind_ok came]
      have fresh : state.expansions = 0 := counted
      cases found with
      | none =>
          show Except.ok (none, state.expansions) = Except.ok (none, 0)
          rw [fresh]
      | some definition =>
          have grown : Counts workspace (workspace.expandAlong options root _ _) _ :=
            expandAlong_counts byPlace definition
          have came := grown state sound
          show _ = Except.map _ (workspace.surveyOf options root options.reach (definition.atDepth 0)
            >>= fun survey => Except.ok (some survey))
          cases around : workspace.surveyOf options root options.reach (definition.atDepth 0) with
          | error failure =>
              rw [around] at came
              dsimp only
              rw [outcome_bind_error (Prod.ext came rfl)]
              rfl
          | ok survey =>
              rw [around] at came
              obtain ⟨after, _, countedMore, ended⟩ := came
              dsimp only
              rw [outcome_bind_ok ended]
              show Except.ok (some survey.tree, after.expansions) =
                Except.ok (some survey.tree, survey.expansions)
              rw [countedMore, fresh, Nat.zero_add]

theorem root_eq (byPlace : workspace.corpus.ByPlace) (options : TraceOptions) (root : Path)
    (name : String) :
    (outcome (workspace.trace options root name) {}).1.map TraceOutput.root =
      workspace.callTree? options root options.reach name := by
  have both := congrArg (Except.map Prod.fst) (trace_eq_survey byPlace options root name)
  rw [map_map, map_map] at both
  exact both

end Workspace

/-- A trace through a corpus in memory returns exactly the tree that is found without memory. -/
theorem MemoryCorpus.trace_root_eq_callTree? (corpus : MemoryCorpus) (registry : Registry)
    (filter : LanguageFilter) (options : TraceOptions) (root : Path) (name : String)
    (unspent : 0 < options.timeoutMs) :
    (outcome (Workspace.trace ⟨corpus.toCorpus, registry, filter⟩ options root name) {}).1.map
        TraceOutput.root =
      Workspace.callTree? ⟨corpus.toCorpus, registry, filter⟩ options root options.maxDepth name := by
  have reached : options.reach = options.maxDepth := if_neg (Nat.ne_of_gt unspent)
  rw [← reached]
  exact Workspace.root_eq corpus.toCorpus_byPlace options root name

/-! ### Two functions that call each other -/

namespace Duet

/-- A language in which a name that opens a line is declared there. -/
def table : LanguageTable where
  name := "duet"
  declarations := [⟨"^(\x7bname\x7d)", .declaration, 1⟩]
  calls := [⟨" (\x7bname\x7d)[(]", .call, 1⟩]

theorem table_compiles : (Language.ofTable table).toOption.isSome = true := by
  decide +kernel

def registry : Registry where
  generic := (Language.ofTable table).toOption.get table_compiles

def corpus : MemoryCorpus where
  files := [⟨⟨"a"⟩, "duet", some "f g()"⟩, ⟨⟨"b"⟩, "duet", some "g f()"⟩]

def outline (tree : Except Failure (Option CallNode)) : Option (List (String × Nat × Nat)) :=
  (tree.toOption.bind id).map fun root =>
    root.walk.map fun node => (node.functionName, node.line, node.depth)

end Duet

theorem callTree?_duet :
    0 < ({} : TraceOptions).timeoutMs ∧
      Duet.outline (Workspace.callTree? ⟨Duet.corpus.toCorpus, Duet.registry, .any⟩ {} ⟨""⟩ 5 "f") =
        some [("f", 1, 0), ("g", 1, 1), ("f", 1, 2), ("g", 1, 1), ("f", 1, 2)] := by
  refine ⟨by decide, ?_⟩
  have traced := MemoryCorpus.trace_root_eq_callTree? Duet.corpus Duet.registry .any {} ⟨""⟩ "f"
    (by decide)
  rw [show (5 : Nat) = ({} : TraceOptions).maxDepth from rfl, ← traced]
  decide +kernel

end Callsite

import Callsite.Proofs.Ending
import Callsite.Proofs.Shape

set_option autoImplicit false

/-! Trees with parts removed. A lower depth bound cuts a tree off at that depth, and a search that leaves
library functions out gives the tree without them and without what is below them. What is looked up in the
removed parts changes nothing elsewhere. -/

namespace Callsite

/-! ### Nodes without their edges -/

namespace CallNode

def alone (node : CallNode) : CallNode :=
  node.atDepth node.depth

theorem Bare.alone_eq {node : CallNode} (bare : node.Bare) : node.alone = node := by
  rcases node with ⟨name, path, line, signature, language, isAbstract, depth, callers, callees⟩
  obtain ⟨noCallers, noCallees⟩ := bare
  change callers = [] at noCallers
  change callees = [] at noCallees
  rw [noCallers, noCallees]
  rfl

theorem eq_of_alone_of_along {node other : CallNode} (alone : node.alone = other.alone)
    (along : ∀ edge, node.along edge = other.along edge) : node = other := by
  rcases node with ⟨name, path, line, signature, language, isAbstract, depth, callers, callees⟩
  rcases other with ⟨name', path', line', signature', language', isAbstract', depth', callers', callees'⟩
  have above : callers = callers' := along .caller
  have below : callees = callees' := along .callee
  simp only [CallNode.alone, atDepth, CallNode.mk.injEq] at alone
  obtain ⟨rfl, rfl, rfl, rfl, rfl, rfl, rfl, _⟩ := alone
  rw [above, below]

/-! ### Pruning -/

mutual

/-- The tree in which a node keeps, along each kind of edge, only those next to it that `keep` lets stay.
What `keep` is asked about are the two nodes without their edges. -/
def prune (keep : Edge → CallNode → CallNode → Bool) : CallNode → CallNode
  | ⟨name, path, line, signature, language, isAbstract, depth, callers, callees⟩ =>
      let own : CallNode := ⟨name, path, line, signature, language, isAbstract, depth, [], []⟩
      { own with
        callers := prunes keep (keep .caller own) callers
        callees := prunes keep (keep .callee own) callees }

def prunes (keep : Edge → CallNode → CallNode → Bool) (stays : CallNode → Bool) :
    List CallNode → List CallNode
  | [] => []
  | node :: rest =>
      if stays node.alone then prune keep node :: prunes keep stays rest else prunes keep stays rest

end

/-- The tree without the callers and callees of the nodes at depth `bound`. -/
def cutAt (bound : Nat) : CallNode → CallNode :=
  prune fun _ node _ => node.depth ≠ bound

/-- The tree without the callees that are library functions of the language of the calling node. -/
def withoutBuiltins (registry : Registry) : CallNode → CallNode :=
  prune fun edge node next =>
    edge = .caller || !(registry.language node.language).isBuiltin next.functionName

section

variable (keep : Edge → CallNode → CallNode → Bool)

theorem prunes_eq (stays : CallNode → Bool) (nodes : List CallNode) :
    prunes keep stays nodes = (nodes.filter fun node => stays node.alone).map (prune keep) := by
  induction nodes with
  | nil => rfl
  | cons node rest ih =>
      rw [prunes]
      by_cases test : stays node.alone
      · rw [if_pos test, List.filter_cons_of_pos (by exact test), List.map_cons, ih]
      · rw [if_neg test, List.filter_cons_of_neg (by exact test), ih]

theorem prune_alone (node : CallNode) : (node.prune keep).alone = node.alone := by
  rcases node with ⟨name, path, line, signature, language, isAbstract, depth, callers, callees⟩
  rfl

theorem prune_along (node : CallNode) (edge : Edge) :
    (node.prune keep).along edge =
      ((node.along edge).filter fun next => keep edge node.alone next.alone).map (prune keep) := by
  rcases node with ⟨name, path, line, signature, language, isAbstract, depth, callers, callees⟩
  rw [← prunes_eq]
  cases edge <;> rfl

end

end CallNode

theorem Visit.tree_alone (edge : Edge) (visit : Visit) :
    (visit.tree edge).alone = visit.node.alone := by
  rcases visit with ⟨node, followed, further⟩
  cases edge <;> rfl

theorem Survey.along_tree_eq (survey : Survey) (edge : Edge) :
    survey.tree.along edge = ((survey.along edge).tree edge).along edge := by
  rw [Visit.tree_along, survey.along_tree]

theorem Survey.tree_eq_prune {keep : Edge → CallNode → CallNode → Bool} {part whole : Survey}
    (start : part.start = whole.start) (nodes : ∀ edge, (whole.along edge).node = whole.start)
    (trees : ∀ edge, (part.along edge).tree edge = ((whole.along edge).tree edge).prune keep) :
    part.tree = whole.tree.prune keep := by
  refine CallNode.eq_of_alone_of_along ?_ fun edge => ?_
  · rw [CallNode.prune_alone]
    show part.start.alone = whole.start.alone
    rw [start]
  · have top : ((whole.along edge).tree edge).alone = whole.tree.alone := by
      rw [Visit.tree_alone, nodes]
      rfl
    rw [CallNode.prune_along, along_tree_eq, along_tree_eq, trees, CallNode.prune_along, top]

namespace Visit

variable {edge : Edge} {keep : Edge → CallNode → CallNode → Bool} {visit : Visit}

theorem prune_tree_along (bare : visit.node.Bare) (other : Edge) :
    ((visit.tree edge).prune keep).along other =
      if other = edge then
        (visit.further.filter fun child => keep edge visit.node child.node.alone).map
          fun child => (child.tree edge).prune keep
      else [] := by
  rw [CallNode.prune_along, tree_alone, bare.alone_eq]
  by_cases same : other = edge
  · rw [if_pos same, same, tree_along, List.filter_map, List.map_map]
    have test : (fun next : CallNode => keep edge visit.node next.alone) ∘ tree edge =
        fun child => keep edge visit.node child.node.alone := by
      funext child
      rw [Function.comp_apply, tree_alone]
    rw [test]
    rfl
  · rw [if_neg same, tree_along_of_ne same, bare.along other]
    rfl

theorem prune_tree_eq_node (bare : visit.node.Bare)
    (nothing : ∀ child ∈ visit.further, keep edge visit.node child.node.alone = false) :
    (visit.tree edge).prune keep = visit.node := by
  refine CallNode.eq_of_alone_of_along ?_ fun other => ?_
  · rw [CallNode.prune_alone, tree_alone]
  · have none : (visit.further.filter fun child => keep edge visit.node child.node.alone) = [] :=
      List.filter_eq_nil_iff.mpr fun child member => ne_true_of_eq_false (nothing child member)
    rw [prune_tree_along bare, none, bare.along other]
    exact ite_self []

end Visit

namespace Workspace

variable {workspace : Workspace} {options fewer : TraceOptions} {root : Path} {limit deeper : Nat}
  {edge : Edge} {keep : Edge → CallNode → CallNode → Bool}

/-- What one search leaves out of another: above depth `limit` it finds just those next to a node that are
to stay, and at that depth, if the other search goes on there, none is to stay. -/
structure Omits (workspace : Workspace) (options fewer : TraceOptions) (root : Path)
    (limit deeper : Nat) (keep : Edge → CallNode → CallNode → Bool) : Prop where
  shallower : limit ≤ deeper
  above : ∀ edge node found, node.depth < limit →
    workspace.neighboursAfresh options root node edge = .ok found →
      workspace.neighboursAfresh fewer root node edge = .ok (found.filter (keep edge node))
  beyond : limit < deeper → ∀ edge node next, node.depth = limit → keep edge node next = false

def Keeps (workspace : Workspace) (fewer : TraceOptions) (root : Path) (limit : Nat) (edge : Edge)
    (keep : Edge → CallNode → CallNode → Bool) (path : List FunctionKey) (whole : Visit) : Prop :=
  ∃ part, workspace.visit fewer root limit edge path whole.node = .ok part ∧
    part.tree edge = (whole.tree edge).prune keep

theorem keeps_of_leaf {path : List FunctionKey} {whole : Visit} (bare : whole.node.Bare)
    (nothing : ∀ child ∈ whole.further, keep edge whole.node child.node.alone = false)
    (stays : ¬(whole.node.depth < limit ∧ ¬whole.node.isExternal ∧ whole.node.key ∉ path)) :
    workspace.Keeps fewer root limit edge keep path whole := by
  refine ⟨⟨whole.node, false, []⟩, visit_eq_leaf stays, ?_⟩
  rw [Visit.prune_tree_eq_node bare nothing]
  exact attach_along whole.node edge (bare.along edge)

theorem keeps_of_follow {path : List FunctionKey} {whole : Visit} (bare : whole.node.Bare)
    (follows : whole.node.depth < limit ∧ ¬whole.node.isExternal ∧ whole.node.key ∉ path)
    (searched : workspace.neighboursAfresh fewer root whole.node edge =
      .ok ((whole.further.map Visit.node).filter (keep edge whole.node)))
    (each : ∀ child ∈ whole.further, child.node.depth = whole.node.depth + 1 ∧ child.node.Bare ∧
      workspace.Keeps fewer root limit edge keep (whole.node.key :: path) child) :
    workspace.Keeps fewer root limit edge keep path whole := by
  have kept (child : Visit) (member : child ∈ whole.further) :
      (child.node.atDepth (whole.node.depth + 1)) = child.node ∧ child.node.alone = child.node := by
    obtain ⟨depth, childBare, _⟩ := each child member
    rw [← depth]
    exact ⟨childBare.alone_eq, childBare.alone_eq⟩
  let remaining := whole.further.filter fun child => keep edge whole.node child.node
  obtain ⟨parts, visited, trees⟩ : ∃ parts,
      remaining.mapM (fun child => workspace.visit fewer root limit edge (whole.node.key :: path)
        (child.node.atDepth (whole.node.depth + 1))) = .ok parts ∧
      parts.map (Visit.tree edge) = remaining.map fun child => (child.tree edge).prune keep := by
    refine exists_mapM_of_map fun child member => ?_
    have inFurther := List.mem_of_mem_filter member
    rw [(kept child inFurther).1]
    exact (each child inFurther).2.2
  refine ⟨⟨whole.node, true, parts⟩, ?_, ?_⟩
  · rw [visit_eq_follow follows, searched, List.filter_map]
    refine bind_eq_ok_iff.mpr ⟨_, rfl, bind_eq_ok_iff.mpr ⟨parts, ?_, rfl⟩⟩
    rw [List.mapM_map]
    exact visited
  · refine CallNode.eq_of_alone_of_along ?_ fun other => ?_
    · rw [CallNode.prune_alone, Visit.tree_alone, Visit.tree_alone]
    · have same : (whole.further.filter fun child => keep edge whole.node child.node.alone) =
          remaining := by
        refine List.filter_congr fun child member => ?_
        rw [(kept child member).2]
      rw [Visit.prune_tree_along bare, same]
      by_cases along : other = edge
      · rw [if_pos along, along, Visit.tree_along, ← trees]
      · rw [if_neg along, Visit.tree_along_of_ne along]
        exact bare.along other

theorem Omits.keeps (omits : workspace.Omits options fewer root limit deeper keep)
    {path : List FunctionKey} {node : CallNode} {whole : Visit} (bare : node.Bare)
    (within : node.depth ≤ limit)
    (visited : workspace.visit options root deeper edge path node = .ok whole) :
    workspace.Keeps fewer root limit edge keep path whole := by
  have shallower := omits.shallower
  let holds (path : List FunctionKey) (whole : Visit) : Prop :=
    whole.node.Bare → whole.node.depth ≤ limit → workspace.Keeps fewer root limit edge keep path whole
  have all : holds path whole := by
    refine visit_induction holds ?_ ?_ path node visited
    · intro path node stays bare _
      refine keeps_of_leaf bare nofun fun follows => stays ⟨?_, follows.2⟩
      exact Nat.lt_of_lt_of_le follows.1 shallower
    · intro path node further above own fresh searched each bare within
      rcases Nat.eq_or_lt_of_le within with reached | higher
      · -- The smaller search ends here, and nothing is to stay.
        have lower : limit < deeper := reached ▸ above
        refine keeps_of_leaf bare (fun child _ => omits.beyond lower edge node _ reached) fun follows => ?_
        exact Nat.ne_of_lt follows.1 reached
      · refine keeps_of_follow bare ⟨higher, ne_true_of_eq_false own, fresh⟩
          (omits.above edge node _ higher searched) fun child member => ?_
        obtain ⟨depth, childBare, held⟩ := each child member
        exact ⟨depth, childBare, held childBare (depth ▸ higher)⟩
  have top : whole.node = node := visit_node visited
  exact all (top ▸ bare) (top ▸ within)

/-! ### Pruned trees -/

theorem Omits.exists_visitFrom (omits : workspace.Omits options fewer root limit deeper keep)
    (direction : fewer.direction = options.direction) {start : CallNode} {whole : Visit}
    (bare : start.Bare) (top : start.depth = 0)
    (visited : workspace.visitFrom options root deeper start edge = .ok whole) :
    ∃ part, workspace.visitFrom fewer root limit start edge = .ok part ∧
      part.tree edge = (whole.tree edge).prune keep := by
  rw [visitFrom] at visited
  rw [visitFrom, direction]
  by_cases asked : edge ∈ options.direction.edges
  · rw [if_pos asked] at visited
    rw [if_pos asked, ← visit_node visited]
    exact omits.keeps bare (top ▸ Nat.zero_le limit) visited
  · rw [if_neg asked] at visited
    rw [if_neg asked]
    cases Except.ok.inj visited
    have leaf : ((Visit.mk start false []).tree edge).prune keep = start :=
      Visit.prune_tree_eq_node bare fun child none => by contradiction
    exact ⟨⟨start, false, []⟩, rfl, leaf.symm ▸ attach_along start edge (bare.along edge)⟩

theorem visitFrom_node {start : CallNode} {visit : Visit}
    (visited : workspace.visitFrom options root limit start edge = .ok visit) : visit.node = start := by
  obtain ⟨_, _, visited⟩ := exists_visit_of_visitFrom visited
  exact visit_node visited

theorem Omits.exists_surveyOf (omits : workspace.Omits options fewer root limit deeper keep)
    (direction : fewer.direction = options.direction) {start : CallNode} {whole : Survey}
    (bare : start.Bare) (top : start.depth = 0)
    (surveyed : workspace.surveyOf options root deeper start = .ok whole) :
    ∃ part, workspace.surveyOf fewer root limit start = .ok part ∧
      part.tree = whole.tree.prune keep := by
  obtain ⟨callers, upward, surveyed⟩ := bind_eq_ok_iff.mp surveyed
  obtain ⟨callees, downward, same⟩ := bind_eq_ok_iff.mp surveyed
  cases Except.ok.inj same
  obtain ⟨fewerCallers, upwardToo, callersTree⟩ := omits.exists_visitFrom direction bare top upward
  obtain ⟨fewerCallees, downwardToo, calleesTree⟩ := omits.exists_visitFrom direction bare top downward
  refine ⟨⟨start, fewerCallers, fewerCallees⟩, ?_, ?_⟩
  · exact bind_eq_ok_iff.mpr ⟨fewerCallers, upwardToo,
      bind_eq_ok_iff.mpr ⟨fewerCallees, downwardToo, rfl⟩⟩
  · refine Survey.tree_eq_prune rfl (fun edge => ?_) fun edge => ?_
    · cases edge with
      | caller => exact visitFrom_node upward
      | callee => exact visitFrom_node downward
    · cases edge with
      | caller => exact callersTree
      | callee => exact calleesTree

theorem Omits.exists_survey? (omits : workspace.Omits options fewer root limit deeper keep)
    (direction : fewer.direction = options.direction) {name : String} {whole : Option Survey}
    (surveyed : workspace.survey? options root deeper name = .ok whole) :
    ∃ part, workspace.survey? fewer root limit name = .ok part ∧
      part.map Survey.tree = (whole.map Survey.tree).map (CallNode.prune keep) := by
  obtain ⟨found, defined, surveyed⟩ := bind_eq_ok_iff.mp surveyed
  cases found with
  | none =>
      cases Except.ok.inj surveyed
      exact ⟨none, bind_eq_ok_iff.mpr ⟨none, defined, rfl⟩, rfl⟩
  | some definition =>
      obtain ⟨survey, around, same⟩ := bind_eq_ok_iff.mp surveyed
      cases Except.ok.inj same
      obtain ⟨part, aroundToo, tree⟩ := omits.exists_surveyOf direction
        (show (definition.atDepth 0).Bare from ⟨rfl, rfl⟩) rfl around
      refine ⟨some part, ?_, congrArg some tree⟩
      exact bind_eq_ok_iff.mpr
        ⟨some definition, defined, bind_eq_ok_iff.mpr ⟨part, aroundToo, rfl⟩⟩

theorem Omits.callTree?_eq (omits : workspace.Omits options fewer root limit deeper keep)
    (regular : workspace.registry.Regular) (direction : fewer.direction = options.direction)
    (name : String) :
    workspace.callTree? fewer root limit name =
      (workspace.callTree? options root deeper name).map (Option.map (CallNode.prune keep)) := by
  cases listed : workspace.filesAfresh root with
  | error failure =>
      have undefined : workspace.definitionAfresh? name root = .error failure := by
        rw [definitionAfresh?, listed]
        rfl
      rw [Workspace.callTree?, Workspace.callTree?, survey?, survey?, undefined]
      rfl
  | ok files =>
      obtain ⟨whole, surveyed⟩ : ∃ whole, workspace.survey? options root deeper name = .ok whole :=
        Workspace.exists_survey? regular listed deeper name
      obtain ⟨part, surveyedToo, trees⟩ := omits.exists_survey? direction surveyed
      rw [Workspace.callTree?, Workspace.callTree?, surveyed, surveyedToo]
      exact congrArg Except.ok trees

/-- A search within a lower depth bound ends at that depth, where a spent search has not begun. -/
theorem omits_cut (options : TraceOptions) (root : Path) {shallow deep : Nat}
    (order : shallow ≤ deep) :
    workspace.Omits { options with maxDepth := deep } { options with maxDepth := shallow } root
      { options with maxDepth := shallow }.reach { options with maxDepth := deep }.reach
      fun _ node _ => node.depth ≠ shallow where
  shallower := by
    rw [TraceOptions.reach, TraceOptions.reach]
    split
    · exact Nat.le_refl 0
    · exact order
  above := by
    intro edge node found above searched
    have within : { options with maxDepth := shallow }.reach ≤ shallow := TraceOptions.reach_le _
    have stay : (found.filter fun _ => decide (node.depth ≠ shallow)) = found :=
      List.filter_eq_self.mpr fun _ _ => decide_eq_true (by omega)
    rw [stay, ← searched]
    cases edge <;> rfl
  beyond := by
    intro lower edge node _ reached
    rw [TraceOptions.reach, TraceOptions.reach] at lower
    rw [TraceOptions.reach] at reached
    by_cases spent : options.timeoutMs = 0
    · rw [if_pos spent, if_pos spent] at lower
      exact absurd lower (Nat.lt_irrefl 0)
    · rw [if_neg spent] at reached
      exact decide_eq_false (not_not.mpr reached)

end Workspace

/-- The tree that a trace finds within a lower depth bound is that of a higher one, cut off there. -/
theorem MemoryCorpus.trace_root_eq_cutAt (corpus : MemoryCorpus) (extensions : Dictionary String)
    (filter : LanguageFilter) (options : TraceOptions) (root : Path) (name : String)
    {shallow deep : Nat} (order : shallow ≤ deep) :
    let run depth := (outcome ((corpus.workspace extensions filter).trace
      { options with maxDepth := depth } root name) {}).1.map TraceOutput.root
    run shallow = (run deep).map (Option.map (CallNode.cutAt shallow)) := by
  intro run
  have regular : (corpus.workspace extensions filter).registry.Regular :=
    Shipped.registry_regular.withExtensions extensions
  have tree (depth : Nat) : run depth = (corpus.workspace extensions filter).callTree?
      { options with maxDepth := depth } root { options with maxDepth := depth }.reach name :=
    Workspace.root_eq corpus.toCorpus_byPlace { options with maxDepth := depth } root name
  rw [tree, tree]
  exact (Workspace.omits_cut options root order).callTree?_eq regular rfl name

namespace Scripts

def outline (tree : CallNode) : List (String × Nat) :=
  tree.walk.map fun node => (node.functionName, node.depth)

theorem outline_cutAt :
    ((outcome ((corpus.workspace {} .any).trace { maxDepth := 5 } ⟨""⟩ "f") {}).1.map
      TraceOutput.root).toOption.map (Option.map fun tree => (outline tree, outline (tree.cutAt 1))) =
      some (some ([("f", 0), ("g", 1), ("f", 2), ("g", 1), ("f", 2), ("h", 1)],
        [("f", 0), ("g", 1), ("g", 1), ("h", 1)])) := by
  decide +kernel

end Scripts

theorem Scripts.trace_within_one :
    1 ≤ 5 ∧ ∃ tree,
      (outcome ((corpus.workspace {} .any).trace { maxDepth := 5 } ⟨""⟩ "f") {}).1.map
        TraceOutput.root = .ok (some tree) ∧
      (outcome ((corpus.workspace {} .any).trace { maxDepth := 1 } ⟨""⟩ "f") {}).1.map
        TraceOutput.root = .ok (some (tree.cutAt 1)) ∧
      outline tree = [("f", 0), ("g", 1), ("f", 2), ("g", 1), ("f", 2), ("h", 1)] ∧
      outline (tree.cutAt 1) = [("f", 0), ("g", 1), ("g", 1), ("h", 1)] := by
  have order : 1 ≤ 5 := by decide
  have cut := MemoryCorpus.trace_root_eq_cutAt corpus {} .any {} ⟨""⟩ "f" order
  obtain ⟨tree, traced, outlines⟩ := exists_of_outline outline_cutAt
  obtain ⟨whole, part⟩ := Prod.mk.inj outlines
  have tracedCut := congrArg (Except.map (Option.map (CallNode.cutAt 1))) traced
  exact ⟨order, tree, traced, cut.trans tracedCut, whole, part⟩

/-! ### Library functions -/

namespace Workspace

variable {workspace : Workspace} {options : TraceOptions} {root : Path}

theorem calleesAfresh_without_builtins {node : CallNode} {found : List CallNode}
    (searched : workspace.calleesAfresh { options with includeExternal := true } root node =
      .ok found) :
    workspace.calleesAfresh { options with includeExternal := false } root node =
      .ok (found.filter fun callee =>
        !(workspace.registry.language node.language).isBuiltin callee.functionName) := by
  rw [calleesAfresh] at searched ⊢
  split at searched
  · rename_i declaration
    cases Except.ok.inj searched
    rw [if_pos declaration]
    rfl
  · rename_i body
    rw [if_neg body]
    split at searched
    · cases Except.ok.inj searched
      rfl
    · split at searched
      · cases Except.ok.inj searched
        rfl
      · obtain ⟨rules, compiled, resolved⟩ := bind_eq_ok_iff.mp searched
        refine bind_eq_ok_iff.mpr ⟨rules, compiled, ?_⟩
        dsimp only
        rw [Language.callsIn_false]
        refine mapM_filter_eq_ok resolved fun name _ callee resolvedOne => ?_
        rw [functionName_of_calleeAfresh resolvedOne]

theorem omits_builtins (options : TraceOptions) (root : Path) (limit : Nat) :
    workspace.Omits { options with includeExternal := true } { options with includeExternal := false }
      root limit limit fun edge node next =>
        edge = .caller || !(workspace.registry.language node.language).isBuiltin next.functionName where
  shallower := Nat.le_refl limit
  above := by
    intro edge node found _ searched
    cases edge with
    | caller =>
        have stay : (found.filter fun _ => true) = found := List.filter_true found
        exact stay.symm ▸ searched
    | callee => exact calleesAfresh_without_builtins searched
  beyond lower := absurd lower (Nat.lt_irrefl limit)

theorem callers_eq_of_survey? {options other : TraceOptions} {limit : Nat} {name : String}
    {survey further : Survey}
    (surveyed : workspace.survey? options root limit name = .ok (some survey))
    (surveyedToo : workspace.survey? other root limit name = .ok (some further))
    (direction : options.direction = other.direction) : survey.tree.callers = further.tree.callers := by
  have alike (node : CallNode) : workspace.neighboursAfresh options root node .caller =
      workspace.neighboursAfresh other root node .caller := rfl
  obtain ⟨definition, defined, start, visited⟩ := exists_of_survey? surveyed
  obtain ⟨definitionToo, definedToo, startToo, visitedToo⟩ := exists_of_survey? surveyedToo
  cases Except.ok.inj (defined.symm.trans definedToo)
  have upward := visited .caller
  have upwardToo := visitedToo .caller
  rw [visitFrom, start, visit_congr alike, direction] at upward
  rw [visitFrom, startToo] at upwardToo
  have same := Except.ok.inj (upward.symm.trans upwardToo)
  exact congrArg (fun visit : Visit => Visit.trees .caller visit.further) same

end Workspace

/-- The tree that a trace finds without library functions is the one with them, less the callees that are
library functions and what is below these; the callers are the same. -/
theorem MemoryCorpus.trace_root_eq_withoutBuiltins (corpus : MemoryCorpus)
    (extensions : Dictionary String) (filter : LanguageFilter) (options : TraceOptions) (root : Path)
    (name : String) :
    let workspace := corpus.workspace extensions filter
    let run external := (outcome (workspace.trace
      { options with includeExternal := external } root name) {}).1.map TraceOutput.root
    run false = (run true).map (Option.map (CallNode.withoutBuiltins workspace.registry)) ∧
      (run false).map (Option.map CallNode.callers) = (run true).map (Option.map CallNode.callers) := by
  intro workspace run
  have regular : workspace.registry.Regular := Shipped.registry_regular.withExtensions extensions
  have tree (external : Bool) : run external = workspace.callTree?
      { options with includeExternal := external } root options.reach name :=
    Workspace.root_eq corpus.toCorpus_byPlace { options with includeExternal := external } root name
  have pruned : run false = (run true).map (Option.map (CallNode.withoutBuiltins workspace.registry)) := by
    rw [tree, tree]
    exact (Workspace.omits_builtins options root _).callTree?_eq regular rfl name
  refine ⟨pruned, ?_⟩
  cases came : run true with
  | error failure =>
      rw [came] at pruned
      rw [pruned]
      rfl
  | ok found =>
      rw [came] at pruned
      rw [pruned]
      cases found with
      | none => rfl
      | some whole =>
          rw [tree] at came pruned
          obtain ⟨survey, surveyed, rfl⟩ := Workspace.exists_survey_of_callTree? came
          obtain ⟨part, surveyedToo, same⟩ := Workspace.exists_survey_of_callTree? pruned
          have callers := Workspace.callers_eq_of_survey? surveyedToo surveyed rfl
          rw [← same] at callers
          exact congrArg (fun callers => Except.ok (some callers)) callers

example :
    Scripts.outline (CallNode.withoutBuiltins Shipped.registry {
      functionName := "f", filePath := ⟨"a.py"⟩, line := 1, signature := "def f():", language := "python"
      callees := [.placeholder "print" 1, .placeholder "g" 1] }) = [("f", 0), ("g", 1)] := by
  decide +kernel

end Callsite

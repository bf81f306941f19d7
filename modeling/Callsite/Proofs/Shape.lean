import Callsite.Proofs.Language.Calls
import Callsite.Proofs.Paths

set_option autoImplicit false

/-! The shape of a tree. Depths count the edges from the root and stay within the depth bound. Below the
root there are edges of one kind only, a declaration without a body has no callees, and what stands next to
a node along one kind of edge is there once. -/

namespace Callsite

/-! ### What a search finds is distinct -/

theorem notMem_of_mem_distinctBy {α κ : Type} [DecidableEq κ] {key : α → κ} {item : α} {items : List α} :
    ∀ {seen : List κ}, item ∈ distinctBy key seen items → key item ∉ seen := by
  induction items with
  | nil => intro seen member; contradiction
  | cons head rest ih =>
      intro seen member
      rw [distinctBy] at member
      split at member
      · exact ih member
      · rename_i fresh
        rcases List.mem_cons.mp member with rfl | later
        · exact fresh
        · exact fun known => ih later (List.mem_cons_of_mem (key head) known)

theorem nodup_map_distinctBy {α κ : Type} [DecidableEq κ] (key : α → κ) (items : List α) :
    ∀ seen : List κ, ((distinctBy key seen items).map key).Nodup := by
  induction items with
  | nil => intro seen; exact List.nodup_nil
  | cons head rest ih =>
      intro seen
      rw [distinctBy]
      split
      · exact ih seen
      · rw [List.map_cons, List.nodup_cons]
        refine ⟨fun again => ?_, ih _⟩
        obtain ⟨item, member, same⟩ := List.mem_map.mp again
        have different := notMem_of_mem_distinctBy member
        rw [same] at different
        exact different List.mem_cons_self

namespace Workspace

variable {workspace : Workspace} {options : TraceOptions} {root : Path} {limit : Nat}

theorem functionName_of_definitionAfresh? {name : String} {definition : CallNode}
    (found : workspace.definitionAfresh? name root = .ok (some definition)) :
    definition.functionName = name := by
  obtain ⟨files, _, searched⟩ := bind_eq_ok_iff.mp found
  obtain ⟨_, _, _, _, _, _, declared⟩ := exists_of_definitionAmong? searched
  obtain ⟨_, _, _, _, _, _, rfl⟩ := exists_of_definitionIn? declared
  rfl

theorem functionName_of_calleeAfresh {depth : Nat} {name : String} {callee : CallNode}
    (resolved : workspace.calleeAfresh root depth name = .ok callee) : callee.functionName = name := by
  obtain ⟨found, searched, same⟩ := bind_eq_ok_iff.mp resolved
  cases Except.ok.inj same
  cases found with
  | none => rfl
  | some definition =>
      show definition.functionName = name
      exact functionName_of_definitionAfresh? searched

theorem nodup_keys_of_callersAfresh {node : CallNode} {found : List CallNode}
    (searched : workspace.callersAfresh root node = .ok found) : (found.map CallNode.key).Nodup := by
  obtain ⟨_, _, searched⟩ := bind_eq_ok_iff.mp searched
  obtain ⟨callers, _, same⟩ := bind_eq_ok_iff.mp searched
  cases Except.ok.inj same
  exact nodup_map_distinctBy CallNode.key callers []

theorem nodup_names_of_calleesAfresh {node : CallNode} {found : List CallNode}
    (searched : workspace.calleesAfresh options root node = .ok found) :
    (found.map CallNode.functionName).Nodup := by
  rw [calleesAfresh] at searched
  split at searched
  · cases Except.ok.inj searched
    exact List.nodup_nil
  · split at searched
    · cases Except.ok.inj searched
      exact List.nodup_nil
    · split at searched
      · cases Except.ok.inj searched
        exact List.nodup_nil
      · obtain ⟨_, _, resolved⟩ := bind_eq_ok_iff.mp searched
        have names := map_eq_of_mapM resolved CallNode.functionName fun name _ callee resolvedOne =>
          functionName_of_calleeAfresh resolvedOne
        rw [names]
        exact Language.nodup_callsIn _ _ _

theorem calleesAfresh_of_abstract {node : CallNode} (declaration : node.abstractDeclaration = true) :
    workspace.calleesAfresh options root node = .ok [] := by
  rw [calleesAfresh, if_pos declaration]

end Workspace

/-! ### Nodes and their visits -/

theorem Visit.tree_functionName (edge : Edge) (visit : Visit) :
    (visit.tree edge).functionName = visit.node.functionName :=
  congrArg Prod.snd (visit.tree_key edge)

theorem Visit.tree_abstractDeclaration (edge : Edge) (visit : Visit) :
    (visit.tree edge).abstractDeclaration = visit.node.abstractDeclaration := by
  rcases visit with ⟨node, followed, further⟩
  cases edge <;> rfl

theorem Visit.tree_along_of_ne {edge other : Edge} (different : other ≠ edge) (visit : Visit) :
    (visit.tree edge).along other = visit.node.along other := by
  rcases visit with ⟨node, followed, further⟩
  cases edge with
  | caller =>
      cases other with
      | caller => contradiction
      | callee => rfl
  | callee =>
      cases other with
      | caller => rfl
      | callee => contradiction

namespace Workspace

variable {workspace : Workspace} {options : TraceOptions} {root : Path} {limit : Nat} {edge : Edge}

/-- A visit that found nothing, or everything next to a node above the depth bound. -/
structure Settles (workspace : Workspace) (options : TraceOptions) (root : Path) (limit : Nat)
    (edge : Edge) (visit : Visit) : Prop where
  bare : visit.node.Bare
  within : visit.node.depth ≤ limit
  found : visit.further = [] ∨ visit.node.depth < limit ∧
    workspace.neighboursAfresh options root visit.node edge = .ok (visit.further.map Visit.node)

theorem exists_settles_of_mem_walk {path : List FunctionKey} {node : CallNode} {visit : Visit}
    (visited : workspace.visit options root limit edge path node = .ok visit) (bare : node.Bare)
    (within : node.depth ≤ limit) {inner : CallNode} (member : inner ∈ (visit.tree edge).walk) :
    ∃ own : Visit, workspace.Settles options root limit edge own ∧ inner = own.tree edge := by
  let holds (visit : Visit) : Prop := visit.node.Bare → visit.node.depth ≤ limit →
    ∀ inner ∈ (visit.tree edge).walk,
      ∃ own : Visit, workspace.Settles options root limit edge own ∧ inner = own.tree edge
  have all : holds visit := by
    refine visit_induction (fun _ => holds) ?_ ?_ path node visited
    · intro path node _ bare within inner member
      rcases (mem_walk_tree bare).mp member with rfl | ⟨child, none, _⟩
      · exact ⟨_, ⟨bare, within, Or.inl rfl⟩, rfl⟩
      · contradiction
    · intro path node further above _ _ searched each bare within inner member
      rcases (mem_walk_tree bare).mp member with rfl | ⟨child, inFurther, inChild⟩
      · exact ⟨_, ⟨bare, within, Or.inr ⟨above, searched⟩⟩, rfl⟩
      · obtain ⟨deeper, childBare, held⟩ := each child inFurther
        have childWithin : child.node.depth ≤ limit := by omega
        exact held childBare childWithin inner inChild
  have top : visit.node = node := visit_node visited
  exact all (top ▸ bare) (top ▸ within) inner member

end Workspace

/-! ### The shape of the nodes -/

/-- What there is next to a node along one kind of edge. -/
structure CallNode.ShapedAlong (edge : Edge) (node : CallNode) : Prop where
  depths : ∀ next ∈ node.along edge, next.depth = node.depth + 1
  bodiless : edge = .callee → node.abstractDeclaration = true → node.along edge = []
  keys : edge = .caller → ((node.along edge).map CallNode.key).Nodup
  names : edge = .callee → ((node.along edge).map CallNode.functionName).Nodup

theorem CallNode.ShapedAlong.of_same {edge : Edge} {node other : CallNode}
    (shaped : node.ShapedAlong edge) (depth : node.depth = other.depth)
    (declared : node.abstractDeclaration = other.abstractDeclaration)
    (along : node.along edge = other.along edge) : other.ShapedAlong edge := by
  constructor
  · rw [← along, ← depth]
    exact shaped.depths
  · rw [← along, ← declared]
    exact shaped.bodiless
  · rw [← along]
    exact shaped.keys
  · rw [← along]
    exact shaped.names

theorem CallNode.ShapedAlong.of_leaf {edge : Edge} {node : CallNode} (leaf : node.along edge = []) :
    node.ShapedAlong edge := by
  constructor
  · rw [leaf]
    exact nofun
  · exact fun _ _ => leaf
  · rw [leaf]
    exact fun _ => List.nodup_nil
  · rw [leaf]
    exact fun _ => List.nodup_nil

/-- What there is next to a node of a tree, and how deep it stands. -/
structure CallNode.Shaped (limit : Nat) (node : CallNode) : Prop where
  within : node.depth ≤ limit
  callerDepths : ∀ caller ∈ node.callers, caller.depth = node.depth + 1
  calleeDepths : ∀ callee ∈ node.callees, callee.depth = node.depth + 1
  bodiless : node.abstractDeclaration = true → node.callees = []
  callerKeys : (node.callers.map CallNode.key).Nodup
  calleeNames : (node.callees.map CallNode.functionName).Nodup

theorem CallNode.shaped_of_along {limit : Nat} {node : CallNode} (within : node.depth ≤ limit)
    (along : ∀ edge, node.ShapedAlong edge) : node.Shaped limit where
  within := within
  callerDepths := (along .caller).depths
  calleeDepths := (along .callee).depths
  bodiless := (along .callee).bodiless rfl
  callerKeys := (along .caller).keys rfl
  calleeNames := (along .callee).names rfl

theorem CallNode.Shaped.weaken {limit deeper : Nat} {node : CallNode} (shaped : node.Shaped limit)
    (wider : limit ≤ deeper) : node.Shaped deeper :=
  { shaped with within := Nat.le_trans shaped.within wider }

namespace Workspace

variable {workspace : Workspace} {options : TraceOptions} {root : Path} {limit : Nat} {edge : Edge}

theorem Settles.shapedAlong {visit : Visit} (settled : workspace.Settles options root limit edge visit) :
    (visit.tree edge).ShapedAlong edge := by
  have next := visit.tree_along edge
  rcases settled.found with none | ⟨_, searched⟩
  · rw [none] at next
    exact .of_leaf next
  · constructor
    · rw [next]
      intro child member
      obtain ⟨further, inFurther, rfl⟩ := List.mem_map.mp member
      rw [Visit.tree_depth, Visit.tree_depth]
      have placed := atDepth_of_mem_neighboursAfresh searched (List.mem_map_of_mem inFurther)
      exact congrArg CallNode.depth placed.symm
    · rintro rfl declaration
      rw [Visit.tree_abstractDeclaration] at declaration
      have nothing : workspace.neighboursAfresh options root visit.node .callee = .ok [] :=
        calleesAfresh_of_abstract declaration
      have none := List.map_eq_nil_iff.mp (Except.ok.inj (searched.symm.trans nothing))
      rw [next, none, List.map_nil]
    · rintro rfl
      have distinct := nodup_keys_of_callersAfresh searched
      rw [List.map_map] at distinct
      rw [next, List.map_map]
      rw [show CallNode.key ∘ Visit.tree .caller = CallNode.key ∘ Visit.node from
        funext (Visit.tree_key .caller)]
      exact distinct
    · rintro rfl
      have distinct := nodup_names_of_calleesAfresh searched
      rw [List.map_map] at distinct
      rw [next, List.map_map]
      rw [show CallNode.functionName ∘ Visit.tree .callee = CallNode.functionName ∘ Visit.node from
        funext (Visit.tree_functionName .callee)]
      exact distinct

theorem Settles.along_of_ne {visit : Visit} (settled : workspace.Settles options root limit edge visit)
    {other : Edge} (different : other ≠ edge) : (visit.tree edge).along other = [] := by
  rw [Visit.tree_along_of_ne different]
  exact settled.bare.along other

theorem Settles.shaped {visit : Visit} (settled : workspace.Settles options root limit edge visit) :
    (visit.tree edge).Shaped limit := by
  refine CallNode.shaped_of_along ?_ fun other => ?_
  · rw [Visit.tree_depth]
    exact settled.within
  · by_cases same : other = edge
    · rw [same]
      exact settled.shapedAlong
    · exact .of_leaf (settled.along_of_ne same)

end Workspace

/-! ### The shape of a tree -/

theorem Survey.shapedAlong_tree {survey : Survey} {edge : Edge} (top : (survey.along edge).node = survey.start)
    (shaped : ((survey.along edge).tree edge).ShapedAlong edge) : survey.tree.ShapedAlong edge := by
  refine shaped.of_same ?_ ?_ ?_
  · rw [Visit.tree_depth, top]
    rfl
  · rw [Visit.tree_abstractDeclaration, top]
    rfl
  · rw [Visit.tree_along, survey.along_tree]

namespace Workspace

variable {workspace : Workspace} {options : TraceOptions} {root : Path} {limit : Nat} {name : String}

theorem along_tree_of_notMem {survey : Survey}
    (surveyed : workspace.survey? options root limit name = .ok (some survey)) {edge : Edge}
    (unasked : edge ∉ options.direction.edges) : survey.tree.along edge = [] := by
  obtain ⟨_, _, _, visited⟩ := exists_of_survey? surveyed
  have here := visited edge
  rw [visitFrom, if_neg unasked] at here
  rw [survey.along_tree, ← Except.ok.inj here, List.map_nil]

theorem exists_settles_of_survey? {survey : Survey}
    (surveyed : workspace.survey? options root limit name = .ok (some survey)) (edge : Edge)
    {inner : CallNode} (member : inner ∈ ((survey.along edge).tree edge).walk) :
    ∃ reached ≤ limit, ∃ own : Visit,
      workspace.Settles options root reached edge own ∧ inner = own.tree edge := by
  obtain ⟨definition, _, start⟩ := exists_definition_of_survey? surveyed
  obtain ⟨reached, reachable, visited⟩ := exists_visit_of_survey? surveyed edge
  have bare : survey.start.Bare := start ▸ ⟨rfl, rfl⟩
  have zero : survey.start.depth = 0 := start ▸ rfl
  have settled := exists_settles_of_mem_walk visited bare (by omega) member
  exact ⟨reached, reachable, settled⟩

theorem mem_walk_along {survey : Survey}
    (surveyed : workspace.survey? options root limit name = .ok (some survey)) (edge : Edge)
    {child inner : CallNode} (member : child ∈ survey.tree.along edge) (within : inner ∈ child.walk) :
    inner ∈ ((survey.along edge).tree edge).walk := by
  obtain ⟨definition, _, start⟩ := exists_definition_of_survey? surveyed
  obtain ⟨reached, _, visited⟩ := exists_visit_of_survey? surveyed edge
  have bare : survey.start.Bare := start ▸ ⟨rfl, rfl⟩
  have top : (survey.along edge).node = survey.start := visit_node visited
  rw [survey.along_tree] at member
  obtain ⟨visit, inFurther, rfl⟩ := List.mem_map.mp member
  exact (mem_walk_tree (top ▸ bare)).mpr (Or.inr ⟨visit, inFurther, within⟩)

theorem shaped_of_mem_walk_along {survey : Survey}
    (surveyed : workspace.survey? options root limit name = .ok (some survey)) (edge : Edge)
    {child inner : CallNode} (member : child ∈ survey.tree.along edge) (within : inner ∈ child.walk) :
    inner.Shaped limit ∧ ∀ other, other ≠ edge → inner.along other = [] := by
  obtain ⟨reached, reachable, own, settled, rfl⟩ :=
    exists_settles_of_survey? surveyed edge (mem_walk_along surveyed edge member within)
  exact ⟨settled.shaped.weaken reachable, fun other different => settled.along_of_ne different⟩

theorem shaped_root {survey : Survey}
    (surveyed : workspace.survey? options root limit name = .ok (some survey)) :
    survey.tree.depth = 0 ∧ survey.tree.Shaped limit := by
  obtain ⟨definition, _, start⟩ := exists_definition_of_survey? surveyed
  have zero : survey.start.depth = 0 := start ▸ rfl
  refine ⟨zero, CallNode.shaped_of_along (zero ▸ Nat.zero_le limit) fun edge => ?_⟩
  obtain ⟨_, _, visited⟩ := exists_visit_of_survey? surveyed edge
  have itself : (survey.along edge).tree edge ∈ ((survey.along edge).tree edge).walk :=
    CallNode.mem_walk.mpr (Or.inl rfl)
  obtain ⟨_, _, own, settled, same⟩ := exists_settles_of_survey? surveyed edge itself
  exact Survey.shapedAlong_tree (visit_node visited) (same ▸ settled.shapedAlong)

end Workspace

/-- Each node of a tree that a trace returns is shaped by the depth bound. Depths start with zero at the
root. Callers and what is above them have no callees, callees and what is below them have no callers, and
the root has no edges that were not asked for. -/
theorem MemoryCorpus.shaped_of_trace (corpus : MemoryCorpus) (registry : Registry)
    (filter : LanguageFilter) (options : TraceOptions) (root : Path) (name : String) {tree : CallNode}
    (traced : (outcome (Workspace.trace ⟨corpus.toCorpus, registry, filter⟩ options root name) {}).1.map
      TraceOutput.root = .ok (some tree)) :
    tree.depth = 0 ∧
      (∀ node ∈ tree.walk, node.Shaped options.maxDepth) ∧
      (∀ caller ∈ tree.callers, ∀ node ∈ caller.walk, node.callees = []) ∧
      (∀ callee ∈ tree.callees, ∀ node ∈ callee.walk, node.callers = []) ∧
      (options.direction = .callees → tree.callers = []) ∧
      (options.direction = .callers → tree.callees = []) := by
  rw [Workspace.root_eq corpus.toCorpus_byPlace] at traced
  obtain ⟨survey, surveyed, rfl⟩ := Workspace.exists_survey_of_callTree? traced
  obtain ⟨zero, top⟩ := Workspace.shaped_root surveyed
  refine ⟨zero, fun node member => ?_, ?_, ?_, ?_, ?_⟩
  · refine CallNode.Shaped.weaken ?_ options.reach_le
    rcases CallNode.mem_walk.mp member with rfl | ⟨child, inChildren, within⟩
    · exact top
    · rcases List.mem_append.mp inChildren with isCaller | isCallee
      · exact (Workspace.shaped_of_mem_walk_along surveyed .caller isCaller within).1
      · exact (Workspace.shaped_of_mem_walk_along surveyed .callee isCallee within).1
  · intro caller isCaller node within
    have alone := Workspace.shaped_of_mem_walk_along surveyed .caller isCaller within
    exact alone.2 .callee nofun
  · intro callee isCallee node within
    have alone := Workspace.shaped_of_mem_walk_along surveyed .callee isCallee within
    exact alone.2 .caller nofun
  · intro direction
    have unasked : Edge.caller ∉ options.direction.edges := by
      rw [direction]
      decide
    exact Workspace.along_tree_of_notMem surveyed unasked
  · intro direction
    have unasked : Edge.callee ∉ options.direction.edges := by
      rw [direction]
      decide
    exact Workspace.along_tree_of_notMem surveyed unasked

theorem exists_of_outline {α : Type} {result : Except Failure (Option CallNode)} {view : CallNode → α}
    {expected : α} (outlined : result.toOption.map (Option.map view) = some (some expected)) :
    ∃ tree, result = .ok (some tree) ∧ view tree = expected := by
  cases result with
  | error failure => contradiction
  | ok found =>
      obtain ⟨tree, rfl, outline⟩ := Option.map_eq_some_iff.mp (Option.some.inj outlined)
      exact ⟨tree, rfl, outline⟩

theorem Scripts.shaped_tree :
    ∃ tree, (outcome ((corpus.workspace {} .any).trace {} ⟨""⟩ "f") {}).1.map TraceOutput.root =
        .ok (some tree) ∧
      tree.walk.map (fun node => (node.functionName, node.line)) =
        [("f", 1), ("g", 1), ("f", 1), ("g", 1), ("f", 1), ("h", 0)] ∧
      tree.depth = 0 ∧ (∀ node ∈ tree.walk, node.Shaped 5) ∧
      (∀ caller ∈ tree.callers, ∀ node ∈ caller.walk, node.callees = []) ∧
      (∀ callee ∈ tree.callees, ∀ node ∈ callee.walk, node.callers = []) := by
  obtain ⟨tree, traced, outline⟩ := exists_of_outline trace_outline
  obtain ⟨zero, shaped, above, below, _⟩ :=
    MemoryCorpus.shaped_of_trace corpus _ .any {} ⟨""⟩ "f" traced
  exact ⟨tree, traced, outline, zero, shaped, above, below⟩

end Callsite

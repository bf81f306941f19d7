import Mathlib.Order.Bounds.Basic
import Callsite.Proofs.Reports

set_option autoImplicit false

/-! Measures of call trees. The size of a tree counts the nodes of its walk, and its greatest depth is the
greatest among theirs, whatever depths the nodes bear. In a tree that a trace returns, the depth of a node is
the number of edges to the root, so that the greatest depth is the length of the longest path. -/

namespace Callsite

namespace CallNode

/-! ### The greatest depth -/

mutual

theorem foldl_max_walk (node : CallNode) (least : Nat) :
    (node.walk.map depth).foldl max least = max least node.deepest := by
  match node with
  | ⟨name, path, line, signature, language, isAbstract, depth, callers, callees⟩ =>
      rw [walk, deepest, List.map_cons, List.foldl_cons, List.map_append, List.foldl_append,
        foldl_max_walks callers, foldl_max_walks callees, Nat.max_assoc, Nat.max_assoc]

theorem foldl_max_walks (nodes : List CallNode) (least : Nat) :
    ((walks nodes).map depth).foldl max least = max least (deepestOf nodes) := by
  match nodes with
  | [] => exact (Nat.max_zero least).symm
  | node :: rest =>
      rw [walks, deepestOf, List.map_append, List.foldl_append, foldl_max_walk node,
        foldl_max_walks rest, Nat.max_assoc]

end

theorem max?_depths_walk (node : CallNode) : (node.walk.map depth).max? = some node.deepest := by
  have folded := foldl_max_walk node 0
  rw [walk_eq, List.map_cons, List.foldl_cons, Nat.zero_max] at folded
  rw [walk_eq, List.map_cons, List.max?_cons', folded, Nat.zero_max]

/-! ### Depths as numbers of edges -/

def adjacent (node : CallNode) : List CallNode :=
  node.callers ++ node.callees

/-- A tree in which a node stands one deeper than the node next to which it is. -/
def Tiered (node : CallNode) : Prop :=
  ∀ inner ∈ node.walk, ∀ child ∈ inner.adjacent, child.depth = inner.depth + 1

theorem tiered_iff {node : CallNode} :
    node.Tiered ↔ ∀ child ∈ node.adjacent, child.depth = node.depth + 1 ∧ child.Tiered := by
  constructor
  · intro tiered child member
    refine ⟨tiered node (mem_walk.mpr (.inl rfl)) child member, fun inner within => ?_⟩
    exact tiered inner (mem_walk.mpr (.inr ⟨child, member, within⟩))
  · intro each inner within
    rcases mem_walk.mp within with rfl | ⟨child, member, below⟩
    · exact fun child member => (each child member).1
    · exact (each child member).2 inner below

theorem Bare.tiered {node : CallNode} (bare : node.Bare) : node.Tiered := by
  rw [tiered_iff, adjacent, bare.1, bare.2]
  exact nofun

theorem mem_walk_of_descends {node : CallNode} {path : List CallNode} (descends : Descends adjacent node path) :
    ∀ inner ∈ path, inner ∈ node.walk := by
  induction descends with
  | here node => exact List.forall_mem_singleton.mpr (mem_walk.mpr (.inl rfl))
  | @on node child path member _ ih =>
      refine List.forall_mem_cons.mpr ⟨mem_walk.mpr (.inl rfl), fun inner inPath => ?_⟩
      exact mem_walk.mpr (.inr ⟨child, member, ih inner inPath⟩)

def Reaches (node inner : CallNode) : Prop :=
  ∃ path, Descends adjacent node path ∧ path.getLast? = some inner

theorem Reaches.above {node child inner : CallNode} (member : child ∈ node.adjacent)
    (reaches : child.Reaches inner) : node.Reaches inner := by
  obtain ⟨path, descends, last⟩ := reaches
  refine ⟨node :: path, .on member descends, ?_⟩
  rw [List.getLast?_cons, last, Option.getD_some]

mutual

theorem reaches_of_mem_walk (node : CallNode) {inner : CallNode} (within : inner ∈ node.walk) :
    node.Reaches inner := by
  match node with
  | ⟨name, path, line, signature, language, isAbstract, depth, callers, callees⟩ =>
      rw [walk, List.mem_cons, List.mem_append] at within
      rcases within with rfl | above | below
      · exact ⟨[_], .here _, rfl⟩
      · obtain ⟨child, member, reaches⟩ := exists_reaches_of_mem_walks callers above
        exact reaches.above (List.mem_append_left _ member)
      · obtain ⟨child, member, reaches⟩ := exists_reaches_of_mem_walks callees below
        exact reaches.above (List.mem_append_right _ member)

theorem exists_reaches_of_mem_walks (nodes : List CallNode) {inner : CallNode}
    (within : inner ∈ walks nodes) : ∃ child ∈ nodes, child.Reaches inner := by
  match nodes with
  | [] => contradiction
  | node :: rest =>
      rw [walks, List.mem_append] at within
      rcases within with here | later
      · exact ⟨node, List.mem_cons_self, reaches_of_mem_walk node here⟩
      · obtain ⟨child, member, reaches⟩ := exists_reaches_of_mem_walks rest later
        exact ⟨child, List.mem_cons_of_mem node member, reaches⟩

end

theorem Tiered.depth_of_descends {node : CallNode} {path : List CallNode}
    (descends : Descends adjacent node path) (tiered : node.Tiered) {inner : CallNode}
    (last : path.getLast? = some inner) : inner.depth + 1 = node.depth + path.length := by
  induction descends with
  | here node =>
      cases last
      rfl
  | @on node child path member rest ih =>
      obtain ⟨deeper, below⟩ := tiered_iff.mp tiered child member
      have reached := ih below (by cases rest <;> exact last)
      rw [reached, deeper, List.length_cons]
      omega

def pathLengths (node : CallNode) : Set Nat :=
  { edges | ∃ path, Descends adjacent node path ∧ path.length = edges + 1 }

theorem Tiered.isGreatest_deepest {tree : CallNode} (tiered : tree.Tiered) (top : tree.depth = 0) :
    IsGreatest tree.pathLengths tree.deepest := by
  obtain ⟨deep, least⟩ := List.max?_eq_some_iff.mp (max?_depths_walk tree)
  constructor
  · -- A path leads to a node of that depth.
    obtain ⟨inner, within, depth⟩ := List.mem_map.mp deep
    obtain ⟨path, descends, last⟩ := reaches_of_mem_walk tree within
    have grown := tiered.depth_of_descends descends last
    exact ⟨path, descends, by omega⟩
  · -- Each path ends in a node of the walk, as deep as the path is long.
    rintro edges ⟨path, descends, length⟩
    have filled : path ≠ [] := by
      rintro rfl
      contradiction
    have last := List.getLast?_eq_some_getLast filled
    have within := mem_walk_of_descends descends _ (List.mem_of_getLast? last)
    have grown := tiered.depth_of_descends descends last
    have bounded := least _ (List.mem_map_of_mem within)
    omega

end CallNode

/-! ### The trees of traces -/

namespace Workspace

variable (workspace : Workspace) (options : TraceOptions) (root : Path)

/-- A node that a search has placed at a depth, without edges of its own. -/
def PlacedAt (depth : Nat) (node : CallNode) : Prop :=
  node.depth = depth ∧ node.Bare

theorem callersAmong_placed (name : String) (depth : Nat) (files : List SourceFile) :
    Yields (workspace.callersAmong name depth files) fun found => ∀ child ∈ found, PlacedAt depth child := by
  induction files with
  | nil => exact Yields.pure (List.forall_mem_nil _)
  | cons file rest ih =>
      rw [callersAmong]
      refine Yields.bind_any fun lines => ?_
      cases lines with
      | none => exact ih
      | some lines =>
          refine Yields.bind_any fun rules => ?_
          refine Yields.bind ih fun further placed => ?_
          refine Yields.pure (List.forall_mem_append.mpr ⟨fun child member => ?_, placed⟩)
          obtain ⟨scope, _, rfl⟩ := List.mem_map.mp member
          exact ⟨rfl, rfl, rfl⟩

theorem calleesNamed_placed (depth : Nat) (names : List String) :
    Yields (workspace.calleesNamed root depth names) fun found => ∀ child ∈ found, PlacedAt depth child := by
  induction names with
  | nil => exact Yields.pure (List.forall_mem_nil _)
  | cons name rest ih =>
      rw [calleesNamed]
      refine Yields.bind_any fun found => ?_
      refine Yields.bind ih fun further placed => ?_
      refine Yields.pure (List.forall_mem_cons.mpr ⟨?_, placed⟩)
      cases found with
      | none => exact ⟨rfl, rfl, rfl⟩
      | some definition => exact ⟨rfl, rfl, rfl⟩

theorem neighbours_placed (node : CallNode) (edge : Edge) :
    Yields (workspace.neighbours options root node edge) fun found =>
      ∀ child ∈ found, PlacedAt (node.depth + 1) child := by
  cases edge with
  | caller =>
      refine Yields.bind_any fun files => ?_
      refine Yields.bind (workspace.callersAmong_placed _ _ files) fun callers placed => ?_
      exact Yields.pure fun child member => placed child (mem_distinctBy member)
  | callee =>
      rw [neighbours, callees]
      split
      · exact Yields.pure (List.forall_mem_nil _)
      refine Yields.bind_any fun lines => ?_
      cases lines with
      | none => exact Yields.pure (List.forall_mem_nil _)
      | some lines =>
          dsimp only
          split
          · exact Yields.pure (List.forall_mem_nil _)
          · refine Yields.bind_any fun rules => ?_
            exact workspace.calleesNamed_placed root _ _

/-- A tree grown around a node: it stands where the node stands, and is tiered if the node was. -/
def TieredAs (node tree : CallNode) : Prop :=
  tree.depth = node.depth ∧ (node.Tiered → tree.Tiered)

theorem tieredAs_attach {node : CallNode} {found : List CallNode}
    (grown : ∀ child ∈ found, child.depth = node.depth + 1 ∧ child.Tiered) (edge : Edge) :
    TieredAs node (attach node found edge) := by
  have same : (attach node found edge).depth = node.depth := by cases edge <;> rfl
  refine ⟨same, fun tiered => CallNode.tiered_iff.mpr fun child member => ?_⟩
  rw [same]
  have known := CallNode.tiered_iff.mp tiered child
  cases edge with
  | caller =>
      rcases List.mem_append.mp member with above | below
      · exact grown child above
      · exact known (List.mem_append_right _ below)
  | callee =>
      rcases List.mem_append.mp member with above | below
      · exact known (List.mem_append_left _ above)
      · exact grown child below

theorem expand_tiered (edge : Edge) (levels : Nat) :
    ∀ (ancestors : List FunctionKey) (node : CallNode),
      Yields (workspace.expand options root edge levels ancestors node) (TieredAs node) := by
  have alone (node : CallNode) : Yields (pure node : Tracing CallNode) (TieredAs node) := Yields.pure ⟨rfl, id⟩
  induction levels with
  | zero => exact fun _ => alone
  | succ levels ih =>
      intro ancestors node
      rw [expand]
      split
      · exact alone node
      split
      · exact Yields.bind_any fun _ => alone node
      split
      · exact alone node
      refine Yields.bind_any fun _ => ?_
      refine Yields.bind (workspace.neighbours_placed options root node edge).lookup fun found placed => ?_
      -- The neighbours stand one deeper than the node, and what grows around them stays there.
      have grown : Yields (found.mapM (workspace.expand options root edge levels (node.key :: ancestors)))
          fun trees => ∀ tree ∈ trees, tree.depth = node.depth + 1 ∧ tree.Tiered := by
        refine Yields.mapM fun child member => (ih _ child).imp ?_
        rintro tree ⟨same, tiered⟩
        obtain ⟨depth, bare⟩ := placed child member
        exact ⟨same.trans depth, tiered bare.tiered⟩
      exact Yields.bind grown fun trees tiered => Yields.pure (tieredAs_attach tiered edge)

theorem expandAlong_tiered (edges : List Edge) :
    ∀ node : CallNode, Yields (workspace.expandAlong options root edges node) (TieredAs node) := by
  induction edges with
  | nil => exact fun _ => Yields.pure ⟨rfl, id⟩
  | cons edge rest ih =>
      intro node
      rw [expandAlong]
      refine Yields.bind (workspace.expand_tiered options root edge options.maxDepth [] node) ?_
      rintro grown ⟨same, tiered⟩
      refine (ih grown).imp ?_
      rintro tree ⟨sameToo, tieredToo⟩
      exact ⟨sameToo.trans same, fun start => tieredToo (tiered start)⟩

/-- The root of a trace stands at depth zero, in a tiered tree. -/
theorem trace_tiered (name : String) :
    Yields (workspace.trace options root name) fun output =>
      ∀ tree, output.root = some tree → tree.depth = 0 ∧ tree.Tiered := by
  rw [trace]
  refine Yields.bind_any fun found => ?_
  have ended (tree : Option CallNode) (known : ∀ node, tree = some node → node.depth = 0 ∧ node.Tiered) :
      Yields (do let state ← get; return ⟨tree, state.truncated, state.expansions⟩ : Tracing TraceOutput)
        fun output => ∀ node, output.root = some node → node.depth = 0 ∧ node.Tiered :=
    Yields.bind_any fun state => Yields.pure known
  cases found with
  | none =>
      refine ended none fun node found => ?_
      cases found
  | some definition =>
      refine Yields.bind (workspace.expandAlong_tiered options root _ (definition.atDepth 0)) ?_
      rintro tree ⟨same, tiered⟩
      refine ended (some tree) fun node found => ?_
      cases found
      have bare : (definition.atDepth 0).Bare := ⟨rfl, rfl⟩
      exact ⟨same, tiered bare.tiered⟩

end Workspace

/-- In a walk each node stands before the walks of its callers, and these before the walks of its callees. The
size of a tree is the number of nodes of its walk, and its greatest depth the greatest among theirs; in a tree
that a trace returns that is the number of edges on the longest path from the root. -/
theorem CallNode.measured_by_walk :
    (∀ node : CallNode,
      node.walk = node :: (node.callers.flatMap walk ++ node.callees.flatMap walk) ∧
      node.walk.length = node.size ∧
      (node.walk.map depth).max? = some node.deepest) ∧
    ∀ (workspace : Workspace) (options : TraceOptions) (root : Path) (name : String) (state : TraceState)
      (output : TraceOutput), (outcome (workspace.trace options root name) state).1 = .ok output →
      ∀ tree, output.root = some tree → IsGreatest tree.pathLengths tree.deepest := by
  constructor
  · exact fun node => ⟨node.walk_eq, node.length_walk, node.max?_depths_walk⟩
  · intro workspace options root name state output came tree rooted
    obtain ⟨top, tiered⟩ := workspace.trace_tiered options root name state trivial output came tree rooted
    exact tiered.isGreatest_deepest top

/-- The tree around a function that calls another one and is called back by it. -/
theorem Scripts.tree_measures :
    ∃ output tree, (outcome ((corpus.workspace {} .any).trace {} ⟨""⟩ "f") {}).1 = .ok output ∧
      output.root = some tree ∧
      tree.walk.map (fun node => (node.functionName, node.line)) =
        [("f", 1), ("g", 1), ("f", 1), ("g", 1), ("f", 1), ("h", 0)] ∧
      tree.size = 6 ∧ IsGreatest tree.pathLengths tree.deepest := by
  obtain ⟨tree, traced, outline⟩ := exists_of_outline trace_outline
  cases came : (outcome ((corpus.workspace {} .any).trace {} ⟨""⟩ "f") {}).1 with
  | error failure =>
      rw [came] at traced
      contradiction
  | ok output =>
      rw [came] at traced
      have rooted : output.root = some tree := Except.ok.inj traced
      obtain ⟨measures, paths⟩ := CallNode.measured_by_walk
      have longest := paths _ _ _ _ {} output came tree rooted
      have counted := congrArg List.length outline
      rw [List.length_map, (measures tree).2.1] at counted
      exact ⟨output, tree, rfl, rooted, outline, counted, longest⟩

end Callsite

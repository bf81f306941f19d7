import Callsite.Proofs.CallTree
import Callsite.Proofs.Language.Scopes
import Callsite.Proofs.Language.ShippedRegistry

set_option autoImplicit false

/-! Where the nodes of a tree come from. A definition stands on the line that declares it, a caller on the
line that opens the scope of the call, each in a readable file below the root. A placeholder stands for a
name that no such file declares. -/

namespace Callsite

/-- The node, whatever its edges, is the function of its name on `line` of `file`. -/
structure CallNode.StandsOn (node : CallNode) (language : Language) (file : SourceFile)
    (lines : List String) (line : String) : Prop where
  filePath : node.filePath = file.path
  languageName : node.language = file.language
  positive : 1 ≤ node.line
  bounded : node.line ≤ lines.length
  atLine : lines[node.line - 1]? = some line
  text : language.isComment line = false
  signature : node.signature = Text.trim line
  named : node.functionName.toList <:+: line.toList

namespace Workspace

/-- Some line of a readable file below `root` is where the node stands. -/
def Locates (workspace : Workspace) (root : Path) (node : CallNode) : Prop :=
  ∃ files, workspace.filesAfresh root = .ok files ∧ ∃ file ∈ files, ∃ lines,
    workspace.linesAfresh? file.path = some lines ∧ ∃ line,
      node.StandsOn (workspace.registry.language file.language) file lines line

/-- No line of a readable file below `root`, comments apart, declares the name. -/
def Lacks (workspace : Workspace) (root : Path) (name : String) : Prop :=
  ∃ files, workspace.filesAfresh root = .ok files ∧ ∀ file ∈ files, ∀ lines,
    workspace.linesAfresh? file.path = some lines →
      ∃ rules, workspace.rulesAfresh file.language name = .ok rules ∧ ∀ line ∈ lines,
        (workspace.registry.language file.language).isComment line = false →
          rules.declaration? line = none

def Sourced (workspace : Workspace) (root : Path) (node : CallNode) : Prop :=
  workspace.Locates root node ∨
    node = .placeholder node.functionName node.depth ∧ workspace.Lacks root node.functionName

section

variable {workspace : Workspace} {root : Path} {node : CallNode}

theorem Locates.isExternal_eq_false (located : workspace.Locates root node) :
    node.isExternal = false := by
  obtain ⟨_, _, _, _, _, _, _, stands⟩ := located
  have positive : node.line ≠ 0 := Nat.ne_of_gt stands.positive
  rw [CallNode.isExternal, decide_eq_false positive]
  rfl

theorem Locates.of_same {other : CallNode} (located : workspace.Locates root node)
    (same : node.atDepth 0 = other.atDepth 0) : workspace.Locates root other := by
  obtain ⟨files, listed, file, member, lines, read, line, stands⟩ := located
  rcases node with ⟨name, path, number, signature, language, isAbstract, depth, callers, callees⟩
  rcases other with ⟨name', path', number', signature', language', isAbstract', depth', more, further⟩
  simp only [CallNode.atDepth, CallNode.mk.injEq] at same
  obtain ⟨rfl, rfl, rfl, rfl, rfl, _⟩ := same
  refine ⟨files, listed, file, member, lines, read, line, ?_⟩
  exact ⟨stands.filePath, stands.languageName, stands.positive, stands.bounded, stands.atLine,
    stands.text, stands.signature, stands.named⟩

theorem Sourced.located (sourced : workspace.Sourced root node) (own : node.isExternal = false) :
    workspace.Locates root node := by
  rcases sourced with located | ⟨same, _⟩
  · exact located
  · rw [same, CallNode.isExternal_placeholder] at own
    contradiction

end

section

variable {workspace : Workspace} (regular : workspace.registry.Regular)

include regular

theorem locates_of_definitionAfresh? {name : String} {root : Path} {node : CallNode}
    (found : workspace.definitionAfresh? name root = .ok (some node)) :
    workspace.Locates root node ∧ node.functionName = name := by
  obtain ⟨files, listed, searched⟩ := bind_eq_ok_iff.mp found
  obtain ⟨file, member, lines, rules, read, compiled, declared⟩ := exists_of_definitionAmong? searched
  obtain ⟨index, line, hit, inside, text, hits, rfl⟩ := exists_of_definitionIn? declared
  have short : index < lines.length := (List.getElem?_eq_some_iff.mp inside).1
  have compiled : (workspace.registry.language file.language).rulesFor name = .ok rules :=
    rulesAfresh_eq_ok_iff.mp compiled
  refine ⟨⟨files, listed, file, member, lines, read, line, ?_⟩, rfl⟩
  constructor
  · rfl
  · rfl
  · show 1 ≤ 1 + index
    omega
  · show 1 + index ≤ lines.length
    omega
  · rw [Nat.add_sub_cancel_left]
    exact inside
  · exact text
  · rfl
  · exact (regular.language file.language).isInfix_of_declaration? compiled hits

omit regular in
theorem lacks_of_definitionAfresh? {name : String} {root : Path}
    (found : workspace.definitionAfresh? name root = .ok none) : workspace.Lacks root name := by
  obtain ⟨files, listed, searched⟩ := bind_eq_ok_iff.mp found
  exact ⟨files, listed, not_declared_of_definitionAmong? searched⟩

theorem locates_of_mem_callersAfresh {root : Path} {node : CallNode} {found : List CallNode}
    (searched : workspace.callersAfresh root node = .ok found) {caller : CallNode}
    (member : caller ∈ found) :
    workspace.Locates root caller ∧ Pattern.isIdentifier caller.functionName.toList = true := by
  obtain ⟨files, listed, file, inFiles, lines, rules, read, _, inFile⟩ :=
    exists_of_mem_callersAfresh searched member
  obtain ⟨scope, inScopes, rfl⟩ := List.mem_map.mp inFile
  obtain ⟨positive, line, inside, text, identifies, named⟩ :=
    (regular.language file.language).exists_line_of_mem_callerScopes inScopes
  have short : scope.line - 1 < lines.length := (List.getElem?_eq_some_iff.mp inside).1
  refine ⟨⟨files, listed, file, inFiles, lines, read, line, ?_⟩, identifies⟩
  constructor
  · rfl
  · rfl
  · exact positive
  · show scope.line ≤ lines.length
    omega
  · exact inside
  · exact text
  · show Text.trim (lines[scope.line - 1]?.getD "") = Text.trim line
    rw [inside]
    rfl
  · exact named

theorem sourced_of_mem_calleesAfresh {options : TraceOptions} {root : Path} {node : CallNode}
    {found : List CallNode} (searched : workspace.calleesAfresh options root node = .ok found)
    {callee : CallNode} (member : callee ∈ found) :
    workspace.Sourced root callee ∧ Pattern.isIdentifier callee.functionName.toList = true := by
  obtain ⟨lines, first, rules, name, definition, _, _, _, called, resolved, rfl⟩ :=
    exists_of_mem_calleesAfresh searched member
  have identifies := (regular.language node.language).isIdentifier_of_mem_callsIn called
  cases definition with
  | none => exact ⟨Or.inr ⟨rfl, lacks_of_definitionAfresh? resolved⟩, identifies⟩
  | some definition =>
      obtain ⟨located, same⟩ := locates_of_definitionAfresh? regular resolved
      refine ⟨Or.inl (located.of_same rfl), ?_⟩
      show Pattern.isIdentifier definition.functionName.toList = true
      rw [same]
      exact identifies

theorem sourced_of_mem_neighboursAfresh {options : TraceOptions} {root : Path} {node : CallNode}
    {edge : Edge} {found : List CallNode}
    (searched : workspace.neighboursAfresh options root node edge = .ok found) {child : CallNode}
    (member : child ∈ found) :
    workspace.Sourced root child ∧ Pattern.isIdentifier child.functionName.toList = true ∧
      (edge = .caller → child.isExternal = false) := by
  cases edge with
  | caller =>
      obtain ⟨located, identifies⟩ := locates_of_mem_callersAfresh regular searched member
      exact ⟨Or.inl located, identifies, fun _ => located.isExternal_eq_false⟩
  | callee =>
      obtain ⟨sourced, identifies⟩ := sourced_of_mem_calleesAfresh regular searched member
      exact ⟨sourced, identifies, nofun⟩

end

end Workspace

/-! ### The nodes of a tree -/

theorem CallNode.walks_eq_flatMap (nodes : List CallNode) : walks nodes = nodes.flatMap walk := by
  induction nodes with
  | nil => rfl
  | cons node rest ih => rw [walks, ih, List.flatMap_cons]

theorem CallNode.walk_eq (node : CallNode) :
    node.walk = node :: (node.callers.flatMap walk ++ node.callees.flatMap walk) := by
  rcases node with ⟨name, path, line, signature, language, isAbstract, depth, callers, callees⟩
  rw [walk, walks_eq_flatMap, walks_eq_flatMap]

theorem CallNode.mem_walk {inner node : CallNode} :
    inner ∈ node.walk ↔ inner = node ∨ ∃ child ∈ node.callers ++ node.callees, inner ∈ child.walk := by
  rw [walk_eq, List.mem_cons, ← List.flatMap_append, List.mem_flatMap]

theorem Workspace.attach_isExternal (node : CallNode) (found : List CallNode) (edge : Edge) :
    (attach node found edge).isExternal = node.isExternal := by
  cases edge <;> rfl

theorem Visit.tree_isExternal (edge : Edge) (visit : Visit) :
    (visit.tree edge).isExternal = visit.node.isExternal := by
  rcases visit with ⟨node, followed, further⟩
  exact Workspace.attach_isExternal node _ edge

/-- What is known of every node of a tree: its source, and that its callers are no placeholders. -/
structure Workspace.Accounts (workspace : Workspace) (root : Path) (node : CallNode) : Prop where
  sourced : workspace.Sourced root node
  callers : ∀ caller ∈ node.callers, caller.isExternal = false

namespace Workspace

variable {workspace : Workspace} {options : TraceOptions} {root : Path} {limit : Nat}

theorem edges_attach {node : CallNode} (bare : node.Bare) (found : List CallNode) (edge : Edge) :
    (attach node found edge).callers ++ (attach node found edge).callees = found := by
  cases edge with
  | caller =>
      show found ++ node.callees = found
      rw [bare.2, List.append_nil]
  | callee =>
      show node.callers ++ found = found
      rw [bare.1, List.nil_append]

theorem mem_callers_attach {node : CallNode} (bare : node.Bare) {found : List CallNode} {edge : Edge}
    {caller : CallNode} (member : caller ∈ (attach node found edge).callers) :
    edge = .caller ∧ caller ∈ found := by
  cases edge with
  | caller => exact ⟨rfl, member⟩
  | callee =>
      change caller ∈ node.callers at member
      rw [bare.1] at member
      contradiction

theorem Locates.attach {node : CallNode} (located : workspace.Locates root node)
    (found : List CallNode) (edge : Edge) : workspace.Locates root (attach node found edge) :=
  located.of_same (by cases edge <;> rfl)

theorem mem_walk_tree {visit : Visit} (bare : visit.node.Bare) {edge : Edge} {inner : CallNode} :
    inner ∈ (visit.tree edge).walk ↔
      inner = visit.tree edge ∨ ∃ child ∈ visit.further, inner ∈ (child.tree edge).walk := by
  rcases visit with ⟨node, followed, further⟩
  rw [CallNode.mem_walk, Visit.tree, edges_attach bare, Visit.trees_eq_map]
  simp only [List.mem_map, exists_exists_and_eq_and]

/-- All nodes of a visit are accounted for, if the visited one has a source and no edges yet. -/
def AccountsFor (workspace : Workspace) (root : Path) (edge : Edge) (visit : Visit) : Prop :=
  visit.node.Bare → workspace.Sourced root visit.node →
    ∀ inner ∈ (visit.tree edge).walk, workspace.Accounts root inner

theorem accountsFor_leaf {edge : Edge} (node : CallNode) :
    workspace.AccountsFor root edge ⟨node, false, []⟩ := by
  intro bare sourced inner member
  rcases (mem_walk_tree bare).mp member with rfl | ⟨child, none, _⟩
  · have leaf : (Visit.mk node false []).tree edge = node :=
      attach_along node edge (bare.along edge)
    have noCallers : node.callers = [] := bare.1
    rw [leaf]
    refine ⟨sourced, fun caller isCaller => ?_⟩
    rw [noCallers] at isCaller
    contradiction
  · contradiction

theorem accountsFor_of_visit (regular : workspace.registry.Regular) {edge : Edge}
    {path : List FunctionKey} {node : CallNode} {visit : Visit}
    (visited : workspace.visit options root limit edge path node = .ok visit) :
    workspace.AccountsFor root edge visit := by
  refine visit_induction (fun _ visit => workspace.AccountsFor root edge visit) ?_ ?_ path node visited
  · intro path node _
    exact accountsFor_leaf node
  · intro path node further _ own _ searched each bare sourced inner member
    have known (child : Visit) (inFurther : child ∈ further) :=
      sourced_of_mem_neighboursAfresh regular searched (List.mem_map_of_mem inFurther)
    rcases (mem_walk_tree bare).mp member with rfl | ⟨child, inFurther, within⟩
    · refine ⟨Or.inl ((sourced.located own).attach _ edge), fun caller isCaller => ?_⟩
      obtain ⟨upwards, inTrees⟩ := mem_callers_attach bare isCaller
      rw [Visit.trees_eq_map] at inTrees
      obtain ⟨child, inFurther, rfl⟩ := List.mem_map.mp inTrees
      rw [Visit.tree_isExternal]
      exact (known child inFurther).2.2 upwards
    · obtain ⟨_, childBare, held⟩ := each child inFurther
      exact held childBare (known child inFurther).1 inner within

theorem accounts_of_callTree? (regular : workspace.registry.Regular) {name : String} {tree : CallNode}
    (found : workspace.callTree? options root limit name = .ok (some tree)) :
    tree.isExternal = false ∧ ∀ inner ∈ tree.walk, workspace.Accounts root inner := by
  obtain ⟨survey, surveyed, rfl⟩ := exists_survey_of_callTree? found
  obtain ⟨definition, defined, start⟩ := exists_definition_of_survey? surveyed
  have located : workspace.Locates root survey.start := by
    rw [start]
    exact (locates_of_definitionAfresh? regular defined).1.of_same rfl
  have bare : survey.start.Bare := by
    rw [start]
    exact ⟨rfl, rfl⟩
  have visits (edge : Edge) : (survey.along edge).node.Bare ∧
      ∀ inner ∈ ((survey.along edge).tree edge).walk, workspace.Accounts root inner := by
    obtain ⟨_, _, visited⟩ := exists_visit_of_survey? surveyed edge
    have accounted := accountsFor_of_visit regular visited
    rw [AccountsFor, visit_node visited] at accounted
    rw [visit_node visited]
    exact ⟨bare, accounted bare (Or.inl located)⟩
  have below (edge : Edge) (child : CallNode) (member : child ∈ survey.tree.along edge) :
      ∀ inner ∈ child.walk, workspace.Accounts root inner := by
    obtain ⟨bareVisit, accounted⟩ := visits edge
    rw [survey.along_tree] at member
    obtain ⟨visit, inFurther, rfl⟩ := List.mem_map.mp member
    intro inner within
    exact accounted inner ((mem_walk_tree bareVisit).mpr (Or.inr ⟨visit, inFurther, within⟩))
  have whole : workspace.Locates root survey.tree := located.of_same rfl
  refine ⟨whole.isExternal_eq_false, fun inner member => ?_⟩
  rcases CallNode.mem_walk.mp member with rfl | ⟨child, inChildren, within⟩
  · obtain ⟨bareVisit, accounted⟩ := visits .caller
    have top := accounted _ ((mem_walk_tree bareVisit).mpr (Or.inl rfl))
    refine ⟨Or.inl whole, fun caller isCaller => top.callers caller ?_⟩
    change caller ∈ ((survey.along .caller).tree .caller).along .caller
    rw [Visit.tree_along, ← survey.along_tree]
    exact isCaller
  · rcases List.mem_append.mp inChildren with isCaller | isCallee
    · exact below .caller child isCaller inner within
    · exact below .callee child isCallee inner within

end Workspace

/-- A search through a corpus in memory with the shipped languages. -/
def MemoryCorpus.workspace (corpus : MemoryCorpus) (extensions : Dictionary String)
    (filter : LanguageFilter) : Workspace where
  corpus := corpus.toCorpus
  registry := Shipped.registry.withExtensions extensions
  filter := filter

/-- Every node that a trace returns is located in a readable file, or stands for a name that no such file
declares. The latter kind has no edges and is found among callees only. -/
theorem MemoryCorpus.provenance_of_mem_walk (corpus : MemoryCorpus) (extensions : Dictionary String)
    (filter : LanguageFilter) (options : TraceOptions) (root : Path) (name : String) {tree : CallNode}
    (traced : (outcome ((corpus.workspace extensions filter).trace options root name) {}).1.map
      TraceOutput.root = .ok (some tree)) :
    tree.isExternal = false ∧ ∀ node ∈ tree.walk,
      (node.isExternal = false → (corpus.workspace extensions filter).Locates root node) ∧
      (node.isExternal = true → node = .placeholder node.functionName node.depth ∧
        (corpus.workspace extensions filter).Lacks root node.functionName) ∧
      ∀ caller ∈ node.callers, caller.isExternal = false := by
  have regular : (corpus.workspace extensions filter).registry.Regular :=
    Shipped.registry_regular.withExtensions extensions
  rw [Workspace.root_eq corpus.toCorpus_byPlace] at traced
  obtain ⟨own, accounted⟩ := Workspace.accounts_of_callTree? regular traced
  refine ⟨own, fun node member => ?_⟩
  obtain ⟨sourced, callers⟩ := accounted node member
  refine ⟨sourced.located, fun external => ?_, callers⟩
  rcases sourced with located | lacking
  · rw [located.isExternal_eq_false] at external
    contradiction
  · exact lacking

/-! ### A pair of scripts -/

namespace Scripts

def corpus : MemoryCorpus where
  files := [
    ⟨⟨"a.py"⟩, "python", some "def f():\n    g()\n    h()"⟩,
    ⟨⟨"b.py"⟩, "python", some "def g():\n    f()"⟩]

theorem trace_outline :
    ((outcome ((corpus.workspace {} .any).trace {} ⟨""⟩ "f") {}).1.map TraceOutput.root).toOption.map
      (Option.map fun tree => tree.walk.map fun node => (node.functionName, node.line)) =
      some (some [("f", 1), ("g", 1), ("f", 1), ("g", 1), ("f", 1), ("h", 0)]) := by
  decide +kernel

end Scripts

theorem Scripts.provenance :
    ∃ tree, (outcome ((corpus.workspace {} .any).trace {} ⟨""⟩ "f") {}).1.map TraceOutput.root =
        .ok (some tree) ∧
      tree.walk.map (fun node => (node.functionName, node.line)) =
        [("f", 1), ("g", 1), ("f", 1), ("g", 1), ("f", 1), ("h", 0)] ∧
      ∀ node ∈ tree.walk,
        (node.isExternal = false → (corpus.workspace {} .any).Locates ⟨""⟩ node) ∧
        (node.isExternal = true → node = .placeholder node.functionName node.depth ∧
          (corpus.workspace {} .any).Lacks ⟨""⟩ node.functionName) := by
  have outlined := trace_outline
  cases traced : (outcome ((corpus.workspace {} .any).trace {} ⟨""⟩ "f") {}).1.map TraceOutput.root with
  | error failure =>
      rw [traced] at outlined
      contradiction
  | ok found =>
      rw [traced] at outlined
      obtain ⟨tree, rfl, outline⟩ := Option.map_eq_some_iff.mp (Option.some.inj outlined)
      have known := (MemoryCorpus.provenance_of_mem_walk corpus {} .any {} ⟨""⟩ "f" traced).2
      refine ⟨tree, rfl, outline, fun node member => ?_⟩
      exact ⟨(known node member).1, (known node member).2.1⟩

end Callsite

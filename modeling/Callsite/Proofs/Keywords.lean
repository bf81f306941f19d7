import Callsite.Proofs.Shape

set_option autoImplicit false

/-! Keywords among the names of a tree. A caller opens a scope, which no keyword of its own language does. A
callee is called by a name that is no keyword in the language of the call; in the language of its definition
the same name may be one. -/

namespace Callsite

namespace Language

variable {language : Language}

theorem not_isKeyword_of_mem_callerScopes {rules : TargetRules} {lines : List String} {scope : Scope}
    (member : scope ∈ language.callerScopes rules lines 0 (Thunk.pure none)) :
    language.isKeyword scope.name = false := by
  obtain ⟨_, _, _, _, _, _, opened⟩ := exists_line_of_mem_callerScopes member
  obtain ⟨_, _, _, hit, hits, same⟩ := exists_hit_of_scopeOpenedBy? opened
  obtain ⟨_, _, _, plain, _⟩ := exists_rule_of_openerHit? hits
  rw [same]
  exact plain

end Language

theorem Visit.tree_language (edge : Edge) (visit : Visit) :
    (visit.tree edge).language = visit.node.language := by
  rcases visit with ⟨node, followed, further⟩
  cases edge <;> rfl

namespace Workspace

variable {workspace : Workspace} {options : TraceOptions} {root : Path} {limit : Nat} {name : String}

/-- Whether the name of a node next to another is no keyword where it was found: at the declaration of a
caller, and at the call of a callee. -/
def PlainlyNamed (workspace : Workspace) : Edge → CallNode → CallNode → Prop
  | .caller, _, caller => (workspace.registry.language caller.language).isKeyword caller.functionName = false
  | .callee, node, callee => (workspace.registry.language node.language).isKeyword callee.functionName = false

theorem PlainlyNamed.of_same {edge : Edge} {node other next further : CallNode}
    (plain : workspace.PlainlyNamed edge node next) (language : node.language = other.language)
    (languageToo : next.language = further.language)
    (functionName : next.functionName = further.functionName) :
    workspace.PlainlyNamed edge other further := by
  cases edge with
  | caller =>
      rw [PlainlyNamed, ← languageToo, ← functionName]
      exact plain
  | callee =>
      rw [PlainlyNamed, ← language, ← functionName]
      exact plain

theorem plainlyNamed_of_mem_neighboursAfresh {edge : Edge} {node : CallNode} {found : List CallNode}
    (searched : workspace.neighboursAfresh options root node edge = .ok found) {next : CallNode}
    (member : next ∈ found) : workspace.PlainlyNamed edge node next := by
  cases edge with
  | caller =>
      obtain ⟨_, _, file, _, _, _, _, _, inFile⟩ := exists_of_mem_callersAfresh searched member
      obtain ⟨scope, inScopes, rfl⟩ := List.mem_map.mp inFile
      exact Language.not_isKeyword_of_mem_callerScopes inScopes
  | callee =>
      obtain ⟨_, _, _, called, definition, _, _, _, inBody, resolved, rfl⟩ :=
        exists_of_mem_calleesAfresh searched member
      have plain := (Language.exists_hit_of_mem_callsIn inBody).1
      cases definition with
      | none => exact plain
      | some definition =>
          have same := functionName_of_definitionAfresh? resolved
          show (workspace.registry.language node.language).isKeyword definition.functionName = false
          rw [same]
          exact plain

theorem Settles.plainlyNamed {edge : Edge} {visit : Visit}
    (settled : workspace.Settles options root limit edge visit) {other : Edge} {next : CallNode}
    (member : next ∈ (visit.tree edge).along other) :
    workspace.PlainlyNamed other (visit.tree edge) next := by
  by_cases same : other = edge
  · subst same
    rw [Visit.tree_along] at member
    obtain ⟨child, inFurther, rfl⟩ := List.mem_map.mp member
    rcases settled.found with none | ⟨_, searched⟩
    · rw [none] at inFurther
      contradiction
    · have plain := plainlyNamed_of_mem_neighboursAfresh searched (List.mem_map_of_mem inFurther)
      exact plain.of_same (visit.tree_language other).symm (child.tree_language other).symm
        (child.tree_functionName other).symm
  · rw [settled.along_of_ne same] at member
    contradiction

theorem plainlyNamed_of_survey? {survey : Survey}
    (surveyed : workspace.survey? options root limit name = .ok (some survey)) {node : CallNode}
    (member : node ∈ survey.tree.walk) {edge : Edge} {next : CallNode}
    (along : next ∈ node.along edge) : workspace.PlainlyNamed edge node next := by
  have below (other : Edge) {child : CallNode} (isChild : child ∈ survey.tree.along other)
      (within : node ∈ child.walk) : workspace.PlainlyNamed edge node next := by
    obtain ⟨_, _, own, settled, rfl⟩ :=
      exists_settles_of_survey? surveyed other (mem_walk_along surveyed other isChild within)
    exact settled.plainlyNamed along
  rcases CallNode.mem_walk.mp member with rfl | ⟨child, inChildren, within⟩
  · -- The root has the children of both visits, so each kind of edge is looked up in its own.
    obtain ⟨_, _, visited⟩ := exists_visit_of_survey? surveyed edge
    have top : (survey.along edge).node = survey.start := visit_node visited
    have itself : (survey.along edge).tree edge ∈ ((survey.along edge).tree edge).walk :=
      CallNode.mem_walk.mpr (Or.inl rfl)
    obtain ⟨_, _, own, settled, same⟩ := exists_settles_of_survey? surveyed edge itself
    rw [survey.along_tree, ← Visit.tree_along, same] at along
    have plain := settled.plainlyNamed along
    rw [← same] at plain
    refine plain.of_same ?_ rfl rfl
    rw [Visit.tree_language, top]
    rfl
  · rcases List.mem_append.mp inChildren with isCaller | isCallee
    · exact below .caller isCaller within
    · exact below .callee isCallee within

end Workspace

/-- In a tree that a trace returns, no caller is named by a keyword of its own language, and no callee by a
keyword of the language of the function that calls it. -/
theorem MemoryCorpus.not_isKeyword_of_mem_walk (corpus : MemoryCorpus) (registry : Registry)
    (filter : LanguageFilter) (options : TraceOptions) (root : Path) (name : String) {tree : CallNode}
    (traced : (outcome (Workspace.trace ⟨corpus.toCorpus, registry, filter⟩ options root name) {}).1.map
      TraceOutput.root = .ok (some tree)) :
    ∀ node ∈ tree.walk,
      (∀ caller ∈ node.callers,
        (registry.language caller.language).isKeyword caller.functionName = false) ∧
      ∀ callee ∈ node.callees,
        (registry.language node.language).isKeyword callee.functionName = false := by
  rw [Workspace.root_eq corpus.toCorpus_byPlace] at traced
  obtain ⟨survey, surveyed, rfl⟩ := Workspace.exists_survey_of_callTree? traced
  intro node member
  constructor
  · intro caller isCaller
    have along : caller ∈ node.along .caller := isCaller
    exact Workspace.plainlyNamed_of_survey? surveyed member along
  · intro callee isCallee
    have along : callee ∈ node.along .callee := isCallee
    exact Workspace.plainlyNamed_of_survey? surveyed member along

theorem Scripts.not_isKeyword :
    ∃ tree, (outcome ((corpus.workspace {} .any).trace {} ⟨""⟩ "f") {}).1.map TraceOutput.root =
        .ok (some tree) ∧
      tree.walk.map (fun node => (node.functionName, node.line)) =
        [("f", 1), ("g", 1), ("f", 1), ("g", 1), ("f", 1), ("h", 0)] ∧
      ∀ node ∈ tree.walk, ∀ callee ∈ node.callees,
        ((Shipped.registry.withExtensions {}).language node.language).isKeyword callee.functionName =
          false := by
  obtain ⟨tree, traced, outline⟩ := exists_of_outline trace_outline
  have plain := MemoryCorpus.not_isKeyword_of_mem_walk corpus (Shipped.registry.withExtensions {}) .any {}
    ⟨""⟩ "f" traced
  exact ⟨tree, traced, outline, fun node member => (plain node member).2⟩

/-! ### A word that is a keyword elsewhere -/

namespace Switch

def corpus : MemoryCorpus where
  files := [
    ⟨⟨"/repo/a.py"⟩, "python", some "def f():\n    switch(1)\n"⟩,
    ⟨⟨"/repo/b.js"⟩, "javascript", some "switch (x) \x7b\n\x7d\n"⟩]

theorem callees_outline :
    ((outcome ((corpus.workspace {} .any).trace { direction := .callees } ⟨"/repo"⟩ "f") {}).1.map
      TraceOutput.root).toOption.map (Option.map fun tree => tree.callees.map fun callee =>
        (callee.functionName, callee.language, callee.isExternal)) =
      some (some [("switch", "javascript", false)]) := by
  decide +kernel

/-- The statement in one file is found as the definition of the function that is called in the other. -/
theorem callee_isKeyword :
    ∃ tree, (outcome ((corpus.workspace {} .any).trace { direction := .callees } ⟨"/repo"⟩ "f") {}).1.map
        TraceOutput.root = .ok (some tree) ∧
      ∃ callee ∈ tree.callees, callee.isExternal = false ∧
        ((Shipped.registry.withExtensions {}).language callee.language).isKeyword callee.functionName =
          true := by
  obtain ⟨tree, traced, outline⟩ := exists_of_outline callees_outline
  refine ⟨tree, traced, ?_⟩
  cases found : tree.callees with
  | nil =>
      rw [found] at outline
      cases outline
  | cons callee rest =>
      rw [found, List.map_cons, List.cons.injEq, Prod.mk.injEq, Prod.mk.injEq] at outline
      obtain ⟨⟨name, language, own⟩, _⟩ := outline
      refine ⟨callee, List.mem_cons_self, own, ?_⟩
      rw [name, language]
      decide +kernel

end Switch

end Callsite

import Callsite.Engine
import Callsite.Proofs.Afresh
import Callsite.Proofs.Directions

set_option autoImplicit false

/-! Reports on the same function. A trace grows its tree around the definition that a plain search for the
function reports, and reports as many nodes as a walk of the tree meets. -/

namespace Callsite

namespace CallNode

mutual

theorem length_walk (node : CallNode) : node.walk.length = node.size := by
  match node with
  | ⟨name, path, line, signature, language, isAbstract, depth, callers, callees⟩ =>
      rw [walk, size, List.length_cons, List.length_append, length_walks callers, length_walks callees]
      omega

theorem length_walks (nodes : List CallNode) : (walks nodes).length = sizes nodes := by
  match nodes with
  | [] => rfl
  | node :: rest => rw [walks, sizes, List.length_append, length_walk node, length_walks rest]

end

theorem size_pos (node : CallNode) : 0 < node.size := by
  rw [size_eq]
  omega

end CallNode

namespace Workspace

variable (workspace : Workspace) (name : String) (root : Path)

theorem firstDefinition?_bare (files : List SourceFile) :
    Yields (workspace.firstDefinition? name files) fun found =>
      ∀ node, found = some node → node.atDepth 0 = node := by
  induction files with
  | nil => exact Yields.pure nofun
  | cons file rest ih =>
      rw [firstDefinition?]
      refine Yields.bind_any fun lines => ?_
      cases lines with
      | none => exact ih
      | some lines =>
          refine Yields.bind_any fun rules => ?_
          cases declared : definitionIn? (workspace.registry.language file.language) rules name file 1
            lines with
          | none => exact ih
          | some definition =>
              refine Yields.pure fun node same => ?_
              obtain ⟨_, _, _, _, _, _, rfl⟩ := exists_of_definitionIn? declared
              cases same
              rfl

theorem definition?_bare {node : CallNode}
    (found : (outcome (workspace.definition? name root) {}).1 = .ok (some node)) :
    node.atDepth 0 = node := by
  have searched : Yields (workspace.searchDefinition? name root) fun found =>
      ∀ node, found = some node → node.atDepth 0 = node :=
    Yields.bind_any (firstDefinition?_bare workspace name)
  have unknown : ({} : Session).definitions.get? name root = none := rfl
  rw [outcome_definition?, unknown] at found
  rcases came : outcome (workspace.searchDefinition? name root) {} with ⟨failure | result, after⟩ <;>
    rw [came] at found
  · cases found
  · exact searched {} trivial result (congrArg Prod.fst came) node (Except.ok.inj found)

theorem definition?_of_trace {options : TraceOptions} {output : TraceOutput}
    (traced : (outcome (workspace.trace options root name) {}).1 = .ok output) :
    (outcome (workspace.definition? name root) {}).1 =
      .ok (output.root.map fun tree => { tree with callers := [], callees := [] }) := by
  have looked := Tracing.outcome_lookup (workspace.definition? name root) {}
  rw [trace] at traced
  cases found : (outcome (workspace.definition? name root) {}).1 with
  | error failure =>
      rw [found] at looked
      rw [outcome_bind_error looked] at traced
      cases traced
  | ok definition =>
      rw [found] at looked
      rw [outcome_bind_ok looked] at traced
      cases definition with
      | none =>
          cases traced
          rfl
      | some definition =>
          have bare := definition?_bare workspace name root found
          have grows := expandAlong_growsAround workspace options root options.direction.edges definition
          dsimp only at traced
          rw [bare, outcome_bind] at traced
          rcases grown : outcome (workspace.expandAlong options root options.direction.edges definition)
            { session := (outcome (workspace.definition? name root) {}).2 } with ⟨failure | tree, after⟩
          · rw [grown] at traced
            cases traced
          · rw [grown] at traced
            cases traced
            have around := grows _ trivial tree (congrArg Prod.fst grown)
            have leaf : { definition with callers := [], callees := [] } = definition := by
              rw [← bare]
              rfl
            rw [Option.map_some, around, leaf]

end Workspace

namespace Engine

variable (engine : Engine) {now : Timestamp}

theorem exists_output_of_trace {request : TraceRequest} {report : TraceReport}
    (traced : engine.trace now request = .ok report) :
    ∃ name options output, checkedName request.functionName = .ok name ∧
      (outcome ((engine.workspace request.languages).trace options request.path name) {}).1 = .ok output ∧
      report.root = output.root ∧ report.totalNodes = output.root.elim 0 CallNode.size := by
  obtain ⟨name, checked, traced⟩ := bind_eq_ok_iff.mp traced
  obtain ⟨_, _, traced⟩ := bind_eq_ok_iff.mp traced
  obtain ⟨options, _, traced⟩ := bind_eq_ok_iff.mp traced
  obtain ⟨output, came, same⟩ := bind_eq_ok_iff.mp traced
  cases same
  exact ⟨name, options, output, checked, came, rfl, rfl⟩

theorem exists_definition_of_find {request : FindRequest} {report : FindReport}
    (found : engine.find now request = .ok report) :
    ∃ name, checkedName request.functionName = .ok name ∧
      (outcome ((engine.workspace request.languages).definition? name request.path) {}).1 =
        .ok report.definition := by
  obtain ⟨name, checked, found⟩ := bind_eq_ok_iff.mp found
  obtain ⟨_, _, found⟩ := bind_eq_ok_iff.mp found
  obtain ⟨definition, came, same⟩ := bind_eq_ok_iff.mp found
  cases same
  exact ⟨name, checked, came⟩

/-- A trace and a search for the same name, path and languages agree. The trace finds nothing exactly if the
search does; otherwise the root of its tree is the definition that the search finds, edges aside. The number
of nodes that it reports is that of the tree, and zero only if there is none. -/
theorem trace_agrees_with_find (request : TraceRequest) {later : Timestamp} {report : TraceReport}
    {found : FindReport} (traced : engine.trace now request = .ok report)
    (searched : engine.find later ⟨request.functionName, request.path, request.languages⟩ = .ok found) :
    (report.root = none ↔ found.definition = none) ∧
      (∀ tree, report.root = some tree →
        found.definition = some { tree with callers := [], callees := [] }) ∧
      (report.totalNodes = 0 ↔ report.root = none) ∧
      ∀ tree, report.root = some tree → report.totalNodes = tree.walk.length := by
  obtain ⟨name, options, output, checked, came, root, total⟩ := engine.exists_output_of_trace traced
  obtain ⟨nameToo, checkedToo, cameToo⟩ := engine.exists_definition_of_find searched
  cases Except.ok.inj (checked.symm.trans checkedToo)
  have same := Except.ok.inj (cameToo.symm.trans (Workspace.definition?_of_trace _ name _ came))
  rw [root, same, total]
  cases output.root with
  | none =>
      refine ⟨⟨fun _ => rfl, fun _ => rfl⟩, nofun, ⟨fun _ => rfl, fun _ => rfl⟩, nofun⟩
  | some tree =>
      have nodes : tree.size ≠ 0 := Nat.ne_of_gt tree.size_pos
      refine ⟨⟨nofun, nofun⟩, ?_, ⟨fun none => absurd none nodes, nofun⟩, ?_⟩
      · rintro _ ⟨⟩
        rfl
      · rintro _ ⟨⟩
        exact tree.length_walk.symm

end Engine

namespace Scripts

def engine : Engine where
  settings := {}
  registry := Shipped.registry
  corpus := corpus.toCorpus
  has path := path.same ⟨""⟩

def request : TraceRequest where
  functionName := " f "
  path := ⟨""⟩
  maxDepth := some 1

theorem report_outline :
    (engine.trace ⟨0, 0⟩ request).toOption.map (fun report =>
        (report.totalNodes, report.root.map fun tree => (tree.functionName, tree.callees.length))) =
      some (4, some ("f", 2)) ∧
    (engine.find ⟨1, 0⟩ ⟨" f ", ⟨""⟩, []⟩).toOption.map (fun report =>
        report.definition.map fun node => (node.functionName, node.callees.length)) =
      some (some ("f", 0)) := by
  decide +kernel

theorem trace_agrees_with_search :
    ∃ report found tree, engine.trace ⟨0, 0⟩ request = .ok report ∧
      engine.find ⟨1, 0⟩ ⟨" f ", ⟨""⟩, []⟩ = .ok found ∧
      report.root = some tree ∧ tree.callees.length = 2 ∧
      found.definition = some { tree with callers := [], callees := [] } ∧
      report.totalNodes = 4 ∧ tree.walk.length = 4 := by
  obtain ⟨outlined, outlinedToo⟩ := report_outline
  obtain ⟨report, traced, outline⟩ := Option.map_eq_some_iff.mp outlined
  obtain ⟨found, searched, _⟩ := Option.map_eq_some_iff.mp outlinedToo
  obtain ⟨total, root⟩ := Prod.mk.inj outline
  obtain ⟨tree, rooted, shape⟩ := Option.map_eq_some_iff.mp root
  have reported := eq_ok_of_toOption traced
  have reportedToo := eq_ok_of_toOption searched
  obtain ⟨_, definition, _, nodes⟩ := engine.trace_agrees_with_find request reported reportedToo
  exact ⟨report, found, tree, reported, reportedToo, rooted, congrArg Prod.snd shape,
    definition tree rooted, total, (nodes tree rooted).symm.trans total⟩

end Scripts

end Callsite

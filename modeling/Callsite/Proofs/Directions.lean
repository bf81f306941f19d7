import Callsite.Proofs.Shape
import Callsite.Proofs.Ending

set_option autoImplicit false

/-! Traces in both directions. A trace goes up from a function first and down from it afterwards, in one
session; it finds what two traces find that go one way each. -/

namespace Callsite

theorem CallNode.size_eq (node : CallNode) :
    node.size = 1 + sizes node.callers + sizes node.callees := by
  rcases node with ⟨name, path, line, signature, language, isAbstract, depth, callers, callees⟩
  rw [size]

namespace Workspace

variable {workspace : Workspace} {options : TraceOptions} {root : Path} {limit : Nat} {name : String}

/-! ### Surveys in one direction and in both -/

theorem visitFrom_asked {direction : Direction} {start : CallNode} {edge : Edge} {visit : Visit}
    (visited : workspace.visit options root limit edge [] start = .ok visit)
    (asked : edge ∈ direction.edges) :
    workspace.visitFrom { options with direction := direction } root limit start edge = .ok visit := by
  have alike (node : CallNode) : workspace.neighboursAfresh { options with direction := direction } root
      node edge = workspace.neighboursAfresh options root node edge := by
    cases edge <;> rfl
  rw [visitFrom, if_pos asked, visit_congr alike, visited]

theorem visitFrom_unasked {direction : Direction} {edge : Edge} (unasked : edge ∉ direction.edges)
    (start : CallNode) :
    workspace.visitFrom { options with direction := direction } root limit start edge =
      .ok ⟨start, false, []⟩ := by
  rw [visitFrom, if_neg unasked]

theorem surveyOf_eq_ok {start : CallNode} {callers callees : Visit}
    (upward : workspace.visitFrom options root limit start .caller = .ok callers)
    (downward : workspace.visitFrom options root limit start .callee = .ok callees) :
    workspace.surveyOf options root limit start = .ok ⟨start, callers, callees⟩ :=
  bind_eq_ok_iff.mpr ⟨callers, upward, bind_eq_ok_iff.mpr ⟨callees, downward, rfl⟩⟩

theorem exists_surveys (regular : workspace.registry.Regular) {files : List SourceFile}
    (listed : workspace.filesAfresh root = .ok files) (options : TraceOptions) (limit : Nat)
    (start : CallNode) :
    ∃ callers callees : Visit,
      workspace.surveyOf { options with direction := .both } root limit start =
        .ok ⟨start, callers, callees⟩ ∧
      workspace.surveyOf { options with direction := .callers } root limit start =
        .ok ⟨start, callers, ⟨start, false, []⟩⟩ ∧
      workspace.surveyOf { options with direction := .callees } root limit start =
        .ok ⟨start, ⟨start, false, []⟩, callees⟩ := by
  obtain ⟨callers, upward⟩ : ∃ visit, workspace.visit options root limit .caller [] start = .ok visit :=
    exists_visit regular listed limit .caller [] start
  obtain ⟨callees, downward⟩ : ∃ visit, workspace.visit options root limit .callee [] start = .ok visit :=
    exists_visit regular listed limit .callee [] start
  refine ⟨callers, callees, ?_, ?_, ?_⟩
  · exact surveyOf_eq_ok (visitFrom_asked upward (by decide)) (visitFrom_asked downward (by decide))
  · exact surveyOf_eq_ok (visitFrom_asked upward (by decide)) (visitFrom_unasked (by decide) start)
  · exact surveyOf_eq_ok (visitFrom_unasked (by decide) start) (visitFrom_asked downward (by decide))

theorem survey?_of_definition {definition : CallNode} {survey : Survey}
    (defined : workspace.definitionAfresh? name root = .ok (some definition))
    (around : workspace.surveyOf options root limit (definition.atDepth 0) = .ok survey) :
    workspace.survey? options root limit name = .ok (some survey) :=
  bind_eq_ok_iff.mpr ⟨some definition, defined, bind_eq_ok_iff.mpr ⟨survey, around, rfl⟩⟩

/-! ### Traces and their surveys -/

theorem trace_eq_error (byPlace : workspace.corpus.ByPlace) {failure : Failure}
    (undefined : workspace.definitionAfresh? name root = .error failure) :
    (outcome (workspace.trace options root name) {}).1 = .error failure := by
  have traced := trace_eq_survey byPlace options root name
  rw [survey?, undefined] at traced
  cases came : (outcome (workspace.trace options root name) {}).1 with
  | error other =>
      rw [came] at traced
      exact congrArg Except.error (Except.error.inj traced)
  | ok output =>
      rw [came] at traced
      cases traced

theorem exists_output_of_survey? (byPlace : workspace.corpus.ByPlace) {found : Option Survey}
    (surveyed : workspace.survey? options root options.reach name = .ok found) :
    ∃ output, (outcome (workspace.trace options root name) {}).1 = .ok output ∧
      output.root = found.map Survey.tree ∧
      output.expansions = (found.map Survey.expansions).getD 0 := by
  have traced := (trace_eq_survey byPlace options root name).symm
  obtain ⟨output, came, same⟩ := exists_ok_of_map_eq traced surveyed
  obtain ⟨rooted, counted⟩ := Prod.mk.inj same
  exact ⟨output, came, rooted, counted⟩

theorem exists_survey?_of_output (byPlace : workspace.corpus.ByPlace) {output : TraceOutput}
    (came : (outcome (workspace.trace options root name) {}).1 = .ok output) :
    ∃ found, workspace.survey? options root options.reach name = .ok found ∧
      output.root = found.map Survey.tree ∧
      output.expansions = (found.map Survey.expansions).getD 0 := by
  have traced := trace_eq_survey byPlace options root name
  obtain ⟨found, surveyed, same⟩ := exists_ok_of_map_eq traced came
  obtain ⟨rooted, counted⟩ := Prod.mk.inj same
  exact ⟨found, surveyed, rooted.symm, counted.symm⟩

end Workspace

/-- A trace in both directions fails if the definition cannot be looked up, as one in a single direction
does; finds nothing if there is none; and otherwise finds the callers of the trace upwards and the callees
of the trace downwards, with the expansions of both and all their nodes, the root counted once. -/
theorem MemoryCorpus.trace_both (corpus : MemoryCorpus) (extensions : Dictionary String)
    (filter : LanguageFilter) (options : TraceOptions) (root : Path) (name : String) :
    let workspace := corpus.workspace extensions filter
    let run direction := (outcome (workspace.trace
      { options with direction := direction } root name) {}).1
    let looked := (outcome (workspace.definition? name root) {}).1
    (∀ failure, looked = .error failure → ∀ direction, run direction = .error failure) ∧
      (looked = .ok none → ∀ direction, ∃ output, run direction = .ok output ∧ output.root = none ∧
        output.expansions = 0) ∧
      ∀ definition, looked = .ok (some definition) → ∃ both upward downward tree up down,
        (run .both = .ok both ∧ both.root = some tree) ∧
        (run .callers = .ok upward ∧ upward.root = some up) ∧
        (run .callees = .ok downward ∧ downward.root = some down) ∧
        tree = { definition with depth := 0, callers := up.callers, callees := down.callees } ∧
        both.expansions = upward.expansions + downward.expansions ∧
        tree.size = up.size + down.size - 1 := by
  intro workspace run looked
  have regular : workspace.registry.Regular := Shipped.registry_regular.withExtensions extensions
  have byPlace : workspace.corpus.ByPlace := corpus.toCorpus_byPlace
  have afresh : looked = workspace.definitionAfresh? name root :=
    (Workspace.definition?_agrees byPlace name root {} (Session.sound_empty workspace)).1
  rw [afresh]
  refine ⟨fun failure undefined direction => Workspace.trace_eq_error byPlace undefined, ?_, ?_⟩
  · intro lacking direction
    have surveyed : workspace.survey? { options with direction := direction } root options.reach
        name = .ok none := bind_eq_ok_iff.mpr ⟨none, lacking, rfl⟩
    exact Workspace.exists_output_of_survey? byPlace surveyed
  · intro definition defined
    obtain ⟨files, listed, _⟩ := bind_eq_ok_iff.mp defined
    obtain ⟨callers, callees, around, upwards, downwards⟩ := Workspace.exists_surveys regular listed
      options options.reach (definition.atDepth 0)
    have ran (direction : Direction) {survey : Survey}
        (surveyed : workspace.surveyOf { options with direction := direction } root options.reach
          (definition.atDepth 0) = .ok survey) :
        ∃ output, run direction = .ok output ∧ output.root = some survey.tree ∧
          output.expansions = survey.expansions :=
      Workspace.exists_output_of_survey? byPlace (Workspace.survey?_of_definition defined surveyed)
    obtain ⟨both, ranBoth, tree, counted⟩ := ran .both around
    obtain ⟨upward, ranUp, up, countedUp⟩ := ran .callers upwards
    obtain ⟨downward, ranDown, down, countedDown⟩ := ran .callees downwards
    refine ⟨both, upward, downward, _, _, _, ⟨ranBoth, tree⟩, ⟨ranUp, up⟩, ⟨ranDown, down⟩, rfl, ?_, ?_⟩
    · rw [counted, countedUp, countedDown]
      have leaf : (Visit.mk (definition.atDepth 0) false []).expansions = 0 := rfl
      simp only [Survey.expansions, leaf]
      omega
    · rw [CallNode.size_eq, CallNode.size_eq, CallNode.size_eq]
      simp only [Survey.tree, Visit.trees, CallNode.sizes]
      omega

theorem Scripts.definition_line :
    (outcome ((corpus.workspace {} .any).definition? "g" ⟨""⟩) {}).1.toOption.map
      (Option.map fun node => (node.filePath.text, node.line)) = some (some ("b.py", 1)) := by
  decide +kernel

theorem Scripts.trace_both_ways :
    ∃ definition, (outcome ((corpus.workspace {} .any).definition? "g" ⟨""⟩) {}).1 =
        .ok (some definition) ∧
      (definition.filePath.text, definition.line) = ("b.py", 1) ∧
      let run direction := (outcome ((corpus.workspace {} .any).trace
        { direction := direction } ⟨""⟩ "g") {}).1
      ∃ both upward downward tree up down,
        (run .both = .ok both ∧ both.root = some tree) ∧
        (run .callers = .ok upward ∧ upward.root = some up) ∧
        (run .callees = .ok downward ∧ downward.root = some down) ∧
        tree = { definition with depth := 0, callers := up.callers, callees := down.callees } ∧
        both.expansions = upward.expansions + downward.expansions ∧
        tree.size = up.size + down.size - 1 := by
  obtain ⟨definition, defined, place⟩ := exists_of_outline definition_line
  have sums := (MemoryCorpus.trace_both corpus {} .any {} ⟨""⟩ "g").2.2 definition defined
  exact ⟨definition, defined, place, sums⟩

end Callsite

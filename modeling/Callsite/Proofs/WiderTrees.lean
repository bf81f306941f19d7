import Callsite.Proofs.Coupling
import Callsite.Proofs.FirstTexts
import Callsite.Proofs.Language.WiderBodies
import Callsite.Proofs.Pruning

set_option autoImplicit false

/-! Trees of wider windows. With a wider window a body has further callees behind those of a narrower one. So
the tree of a narrow window is that of a wide one with lists of callees cut off somewhere. -/

namespace Callsite

/-- A tree that is another one with lists of callees cut to prefixes. What stays has its own lists cut in the
same way, and callers stay as they are. -/
inductive CallNode.CutFrom : CallNode → CallNode → Prop
  | cut {node other : CallNode} {kept : List CallNode} (alone : node.alone = other.alone)
      (callers : node.callers = other.callers) (initial : kept <+: other.callees)
      (callees : List.Forall₂ CutFrom node.callees kept) : CutFrom node other

theorem CallNode.CutFrom.of_leaf {node : CallNode} (leaf : node.callees = []) : node.CutFrom node := by
  apply cut rfl rfl (List.nil_prefix)
  rw [leaf]
  exact .nil

theorem exists_mapM_of_isPrefix {ε α β : Type} {compute : α → Except ε β} {first items : List α}
    {results : List β} (computed : items.mapM compute = .ok results) (initial : first <+: items) :
    ∃ kept, first.mapM compute = .ok kept ∧ kept <+: results := by
  have each := List.forall₂_take first.length (mapM_eq_ok_iff.mp computed)
  rw [← List.prefix_iff_eq_take.mp initial] at each
  exact ⟨results.take first.length, mapM_eq_ok_iff.mpr each, List.take_prefix _ _⟩

theorem exists_mapM_forall₂ {ε α β : Type} {compute : α → Except ε β} {related : β → α → Prop}
    {items : List α} (each : ∀ item ∈ items, ∃ result, compute item = .ok result ∧ related result item) :
    ∃ results, items.mapM compute = .ok results ∧ List.Forall₂ related results items := by
  induction items with
  | nil => exact ⟨[], rfl, .nil⟩
  | cons item rest ih =>
      obtain ⟨here, later⟩ := List.forall_mem_cons.mp each
      obtain ⟨first, computed, relates⟩ := here
      obtain ⟨results, computedRest, relatesRest⟩ := ih later
      refine ⟨first :: results, ?_, .cons relates relatesRest⟩
      rw [List.mapM_cons, computed, computedRest]
      rfl

namespace Workspace

variable {workspace : Workspace} {options : TraceOptions} {root : Path} {narrow wide : Nat}
  (endsCalls : workspace.registry.Every Language.EndsCalls) (wider : narrow ≤ wide)

include endsCalls wider

theorem exists_calleesAfresh_isPrefix {node : CallNode} {found : List CallNode}
    (searched : workspace.calleesAfresh { options with bodyScanLimit := wide } root node = .ok found) :
    ∃ kept, workspace.calleesAfresh { options with bodyScanLimit := narrow } root node = .ok kept ∧
      kept <+: found := by
  rw [calleesAfresh] at searched
  simp only [calleesAfresh]
  split at searched
  · rename_i isAbstract
    cases Except.ok.inj searched
    exact ⟨[], if_pos isAbstract, List.nil_prefix⟩
  rename_i isDefined
  rw [if_neg isDefined]
  cases read : workspace.linesAfresh? node.filePath with
  | none => exact ⟨[], rfl, List.nil_prefix⟩
  | some lines =>
      rw [read] at searched
      dsimp only at searched ⊢
      cases declared : lines[node.line - 1]? with
      | none => exact ⟨[], rfl, List.nil_prefix⟩
      | some first =>
          rw [declared] at searched
          dsimp only at searched ⊢
          obtain ⟨rules, compiled, resolved⟩ := bind_eq_ok_iff.mp searched
          have names := (endsCalls.language node.language).callsIn_bodyText_isPrefix rules lines wider
            (node.line - 1) first options.includeExternal
          obtain ⟨kept, resolvedToo, initial⟩ := exists_mapM_of_isPrefix resolved names
          exact ⟨kept, bind_eq_ok_iff.mpr ⟨rules, compiled, resolvedToo⟩, initial⟩

theorem exists_visit_cutFrom {limit : Nat} {path : List FunctionKey} {node : CallNode} {whole : Visit}
    (bare : node.Bare)
    (visited : workspace.visit { options with bodyScanLimit := wide } root limit .callee path node = .ok whole) :
    ∃ part, workspace.visit { options with bodyScanLimit := narrow } root limit .callee path node = .ok part ∧
      (part.tree .callee).CutFrom (whole.tree .callee) := by
  let holds (path : List FunctionKey) (whole : Visit) : Prop :=
    whole.node.Bare → ∃ part,
      workspace.visit { options with bodyScanLimit := narrow } root limit .callee path whole.node = .ok part ∧
        (part.tree .callee).CutFrom (whole.tree .callee)
  have all : holds path whole := by
    refine visit_induction holds ?_ ?_ path node visited
    · intro path node stays bare
      refine ⟨⟨node, false, []⟩, visit_eq_leaf stays, ?_⟩
      exact CallNode.CutFrom.of_leaf rfl
    · intro path node further above own fresh searched each bare
      obtain ⟨kept, searchedToo, initial⟩ := exists_calleesAfresh_isPrefix endsCalls wider searched
      obtain ⟨count, keeps⟩ : ∃ count, kept = (further.take count).map Visit.node := by
        refine ⟨kept.length, ?_⟩
        rw [List.map_take]
        exact List.prefix_iff_eq_take.mp initial
      obtain ⟨parts, visitedAll, cuts⟩ : ∃ parts,
          (further.take count).mapM (fun child =>
            workspace.visit { options with bodyScanLimit := narrow } root limit .callee (node.key :: path)
              (child.node.atDepth (node.depth + 1))) = .ok parts ∧
          List.Forall₂ (fun part child => (part.tree .callee).CutFrom (child.tree .callee)) parts
            (further.take count) := by
        apply exists_mapM_forall₂
        intro child member
        obtain ⟨depth, childBare, held⟩ := each child (List.mem_of_mem_take member)
        have same : child.node.atDepth (node.depth + 1) = child.node := by
          rw [← depth]
          exact childBare.alone_eq
        rw [same]
        exact held childBare
      refine ⟨⟨node, true, parts⟩, ?_, ?_⟩
      · have follows : node.depth < limit ∧ ¬node.isExternal ∧ node.key ∉ path :=
          ⟨above, ne_true_of_eq_false own, fresh⟩
        rw [visit_eq_follow follows]
        refine bind_eq_ok_iff.mpr ⟨kept, searchedToo, bind_eq_ok_iff.mpr ⟨parts, ?_, rfl⟩⟩
        rw [keeps, List.mapM_map]
        exact visitedAll
      · have below (visits : List Visit) : ((Visit.mk node true visits).tree .callee).callees =
            visits.map (Visit.tree .callee) := Visit.tree_along .callee _
        have first : (further.take count).map (Visit.tree .callee) <+:
            ((Visit.mk node true further).tree .callee).callees := by
          rw [below]
          exact (List.take_prefix count further).map _
        have callees : List.Forall₂ CallNode.CutFrom ((Visit.mk node true parts).tree .callee).callees
            ((further.take count).map (Visit.tree .callee)) := by
          rw [below, List.forall₂_map_left_iff, List.forall₂_map_right_iff]
          exact cuts
        exact .cut (by rw [Visit.tree_alone, Visit.tree_alone]) rfl first callees
  have top : whole.node = node := visit_node visited
  rw [← top]
  exact all (top ▸ bare)

theorem exists_surveyOf_cutFrom {limit : Nat} {start : CallNode} {whole : Survey} (bare : start.Bare)
    (surveyed : workspace.surveyOf { options with bodyScanLimit := wide } root limit start = .ok whole) :
    ∃ part, workspace.surveyOf { options with bodyScanLimit := narrow } root limit start = .ok part ∧
      part.tree.CutFrom whole.tree := by
  obtain ⟨callers, upward, surveyed⟩ := bind_eq_ok_iff.mp surveyed
  obtain ⟨callees, downward, same⟩ := bind_eq_ok_iff.mp surveyed
  cases Except.ok.inj same
  have upwardToo : workspace.visitFrom { options with bodyScanLimit := narrow } root limit start .caller =
      .ok callers := by
    have alike (node : CallNode) :
        workspace.neighboursAfresh { options with bodyScanLimit := narrow } root node .caller =
          workspace.neighboursAfresh { options with bodyScanLimit := wide } root node .caller := rfl
    rw [← upward]
    simp only [visitFrom, visit_congr alike]
  obtain ⟨fewer, downwardToo, cut⟩ : ∃ fewer,
      workspace.visitFrom { options with bodyScanLimit := narrow } root limit start .callee = .ok fewer ∧
        (fewer.tree .callee).CutFrom (callees.tree .callee) := by
    rw [visitFrom] at downward
    simp only [visitFrom]
    split at downward
    · rename_i asked
      rw [if_pos asked]
      exact exists_visit_cutFrom endsCalls wider bare downward
    · rename_i unasked
      cases Except.ok.inj downward
      exact ⟨⟨start, false, []⟩, if_neg unasked, .of_leaf rfl⟩
  refine ⟨⟨start, callers, fewer⟩, ?_, ?_⟩
  · exact bind_eq_ok_iff.mpr ⟨callers, upwardToo, bind_eq_ok_iff.mpr ⟨fewer, downwardToo, rfl⟩⟩
  · have below (survey : Survey) : survey.tree.callees = (survey.callees.tree .callee).callees :=
      survey.along_tree_eq .callee
    cases cut with
    | cut _ _ initial further =>
        rw [← below ⟨start, callers, callees⟩] at initial
        rw [← below ⟨start, callers, fewer⟩] at further
        exact .cut rfl rfl initial further

theorem callTree?_cutFrom (regular : workspace.registry.Regular) {files : List SourceFile}
    (listed : workspace.filesAfresh root = .ok files) (limit : Nat) (name : String) :
    ResultsMatch (Option.Rel CallNode.CutFrom)
      (workspace.callTree? { options with bodyScanLimit := narrow } root limit name)
      (workspace.callTree? { options with bodyScanLimit := wide } root limit name) := by
  obtain ⟨found, defined⟩ := exists_definitionAfresh? regular listed name
  rw [callTree?, callTree?, survey?, survey?, defined]
  cases found with
  | none => exact .ok .none
  | some definition =>
      obtain ⟨whole, around⟩ : ∃ whole, workspace.surveyOf { options with bodyScanLimit := wide } root limit
          (definition.atDepth 0) = .ok whole := exists_surveyOf regular listed limit _
      obtain ⟨part, aroundToo, cut⟩ := exists_surveyOf_cutFrom endsCalls wider ⟨rfl, rfl⟩ around
      show ResultsMatch _ (((workspace.surveyOf _ root limit _) >>= fun survey => .ok (some survey)).map _)
        (((workspace.surveyOf _ root limit _) >>= fun survey => .ok (some survey)).map _)
      rw [around, aroundToo]
      exact .ok (.some cut)

end Workspace

/-- The language with bodies marked off in another way. -/
def Language.inStyle (language : Language) (style : BlockStyle) : Language :=
  { language with table := { language.table with blockStyle := style } }

/-- A wider window only adds callees, behind those of a narrower one, and so in the whole tree of a trace.
The spans of bodies need not grow with the window: an indented body can lose blank lines. -/
theorem Shipped.wider_window_extends (extensions : Dictionary String) {narrow wide : Nat}
    (wider : narrow ≤ wide) :
    (∀ (label : String) (style : BlockStyle) (rules : TargetRules) (lines : List String) (start : Nat)
        (first : String) (withBuiltins : Bool),
      let language := ((registry.withExtensions extensions).language label).inStyle style
      language.callsIn (language.bodyText rules lines narrow start first) withBuiltins <+:
        language.callsIn (language.bodyText rules lines wide start first) withBuiltins) ∧
    ∀ (corpus : Corpus) (filter : LanguageFilter) (options : TraceOptions) (root : Path) (name : String),
      let run scanLimit := (outcome (Workspace.trace ⟨corpus, registry.withExtensions extensions, filter⟩
        { options with bodyScanLimit := scanLimit } root name) {}).1.map TraceOutput.root
      ResultsMatch (Option.Rel CallNode.CutFrom) (run narrow) (run wide) := by
  have endsCalls := registry_endsCalls.withExtensions extensions
  constructor
  · intro label style rules lines start first withBuiltins language
    have inStyle : language.EndsCalls := endsCalls.language label
    exact inStyle.callsIn_bodyText_isPrefix rules lines wider start first withBuiltins
  · intro corpus filter options root name run
    cases listing : corpus.list root filter with
    | error failure =>
        have fails (scanLimit : Nat) : run scanLimit = .error failure := Workspace.root_eq_error listing _ name
        rw [fails, fails]
        exact .error failure
    | ok files =>
        have tree (scanLimit : Nat) : run scanLimit =
            Workspace.callTree? ⟨corpus.settled files, registry.withExtensions extensions, filter⟩
              { options with bodyScanLimit := scanLimit } root options.reach name :=
          Workspace.root_eq_settled listing { options with bodyScanLimit := scanLimit } name
        rw [tree, tree]
        exact Workspace.callTree?_cutFrom endsCalls wider (registry_regular.withExtensions extensions)
          (show Workspace.filesAfresh ⟨corpus.settled files, _, filter⟩ root = .ok files from rfl) options.reach name

namespace Scripts

/-- The last line ends the body, and a window that does not reach it adds the blank line to the body. -/
def shrinking : List String :=
  ["def f(): g()", "", "h()"]

def python : Language :=
  ((Shipped.registry.withExtensions {}).language "python").inStyle .indentation

theorem outline_windows :
    ((outcome ((corpus.workspace {} .any).trace { direction := .callees, bodyScanLimit := 2 } ⟨""⟩ "f") {}).1.map
      TraceOutput.root).toOption.map (Option.map outline) = some (some [("f", 0), ("g", 1), ("f", 2)]) ∧
    ((outcome ((corpus.workspace {} .any).trace { direction := .callees, bodyScanLimit := 50 } ⟨""⟩ "f") {}).1.map
      TraceOutput.root).toOption.map (Option.map outline) =
        some (some [("f", 0), ("g", 1), ("f", 2), ("h", 1)]) := by
  decide +kernel

theorem narrow_window_cuts :
    2 ≤ 50 ∧ (Body.isolate .indentation shrinking 50 0).stop < (Body.isolate .indentation shrinking 2 0).stop ∧
    python.callsIn (python.bodyText ⟨[], [], []⟩ shrinking 2 0 "def f(): g()") true <+:
      python.callsIn (python.bodyText ⟨[], [], []⟩ shrinking 50 0 "def f(): g()") true ∧
    ∃ part whole,
      (outcome ((corpus.workspace {} .any).trace { direction := .callees, bodyScanLimit := 2 } ⟨""⟩ "f") {}).1.map
        TraceOutput.root = .ok (some part) ∧
      (outcome ((corpus.workspace {} .any).trace { direction := .callees, bodyScanLimit := 50 } ⟨""⟩ "f") {}).1.map
        TraceOutput.root = .ok (some whole) ∧
      part.CutFrom whole ∧ outline part = [("f", 0), ("g", 1), ("f", 2)] ∧
      outline whole = [("f", 0), ("g", 1), ("f", 2), ("h", 1)] := by
  have wider : 2 ≤ 50 := by decide
  obtain ⟨names, trees⟩ := Shipped.wider_window_extends {} wider
  obtain ⟨part, traced, outlined⟩ := exists_of_outline outline_windows.1
  obtain ⟨whole, tracedWide, outlinedWide⟩ := exists_of_outline outline_windows.2
  have cut := trees corpus.toCorpus .any { direction := .callees } ⟨""⟩ "f"
  change ResultsMatch _
    ((outcome ((corpus.workspace {} .any).trace { direction := .callees, bodyScanLimit := 2 } ⟨""⟩ "f") {}).1.map
      TraceOutput.root)
    ((outcome ((corpus.workspace {} .any).trace { direction := .callees, bodyScanLimit := 50 } ⟨""⟩ "f") {}).1.map
      TraceOutput.root) at cut
  rw [traced, tracedWide] at cut
  cases cut with
  | ok related =>
      cases related with
      | some cut =>
          exact ⟨wider, by decide, names "python" .indentation ⟨[], [], []⟩ shrinking 0 "def f(): g()" true,
            part, whole, traced, tracedWide, cut, outlined, outlinedWide⟩

end Scripts

end Callsite

import Callsite.Proofs.Paths

set_option autoImplicit false

/-! Traces end by themselves. Where the rules of all languages compile, a trace comes to a result as soon
as its root can be listed; and once the depth bound exceeds the number of functions that can be followed,
it makes no difference any more. -/

namespace Callsite

namespace Workspace

variable {workspace : Workspace} {options : TraceOptions} {root : Path}

/-! ### Results -/

section

variable (regular : workspace.registry.Regular)

include regular

theorem exists_rulesAfresh (language name : String) :
    ∃ rules, workspace.rulesAfresh language name = .ok rules := by
  obtain ⟨rules, compiled, _⟩ := (regular.language language).rulesFor name
  exact ⟨rules, rulesAfresh_eq_ok_iff.mpr compiled⟩

theorem exists_definitionAmong? (name : String) (files : List SourceFile) :
    ∃ found, workspace.definitionAmong? name files = .ok found := by
  induction files with
  | nil => exact ⟨none, rfl⟩
  | cons file rest ih =>
      rw [definitionAmong?]
      cases workspace.linesAfresh? file.path with
      | none => exact ih
      | some lines =>
          obtain ⟨rules, compiled⟩ := exists_rulesAfresh regular file.language name
          obtain ⟨further, searched⟩ := ih
          cases here : definitionIn? (workspace.registry.language file.language) rules name file 1
              lines with
          | some node =>
              refine ⟨some node, bind_eq_ok_iff.mpr ⟨rules, compiled, ?_⟩⟩
              rw [here]
          | none =>
              refine ⟨further, bind_eq_ok_iff.mpr ⟨rules, compiled, ?_⟩⟩
              rw [here]
              exact searched

theorem exists_callersAmongAfresh (name : String) (depth : Nat) (files : List SourceFile) :
    ∃ found, workspace.callersAmongAfresh name depth files = .ok found := by
  induction files with
  | nil => exact ⟨[], rfl⟩
  | cons file rest ih =>
      rw [callersAmongAfresh]
      cases workspace.linesAfresh? file.path with
      | none => exact ih
      | some lines =>
          obtain ⟨rules, compiled⟩ := exists_rulesAfresh regular file.language name
          obtain ⟨further, searched⟩ := ih
          exact ⟨_, bind_eq_ok_iff.mpr
            ⟨rules, compiled, bind_eq_ok_iff.mpr ⟨further, searched, rfl⟩⟩⟩

variable {files : List SourceFile} (listed : workspace.filesAfresh root = .ok files)

include listed

theorem exists_definitionAfresh? (name : String) :
    ∃ found, workspace.definitionAfresh? name root = .ok found := by
  obtain ⟨found, searched⟩ := exists_definitionAmong? regular name files
  exact ⟨found, bind_eq_ok_iff.mpr ⟨files, listed, searched⟩⟩

theorem exists_callersAfresh (node : CallNode) :
    ∃ found, workspace.callersAfresh root node = .ok found := by
  obtain ⟨callers, searched⟩ :=
    exists_callersAmongAfresh regular node.functionName (node.depth + 1) files
  exact ⟨_, bind_eq_ok_iff.mpr ⟨files, listed, bind_eq_ok_iff.mpr ⟨callers, searched, rfl⟩⟩⟩

theorem exists_calleeAfresh (depth : Nat) (name : String) :
    ∃ callee, workspace.calleeAfresh root depth name = .ok callee := by
  obtain ⟨definition, found⟩ := exists_definitionAfresh? regular listed name
  exact ⟨_, bind_eq_ok_iff.mpr ⟨definition, found, rfl⟩⟩

theorem exists_calleesAfresh (node : CallNode) :
    ∃ found, workspace.calleesAfresh options root node = .ok found := by
  rw [calleesAfresh]
  split
  · exact ⟨[], rfl⟩
  · split
    · exact ⟨[], rfl⟩
    · rename_i lines _
      split
      · exact ⟨[], rfl⟩
      · rename_i first _
        obtain ⟨rules, compiled⟩ := exists_rulesAfresh regular node.language node.functionName
        let body := (workspace.registry.language node.language).bodyText rules lines
          options.bodyScanLimit (node.line - 1) first
        let names := (workspace.registry.language node.language).callsIn body options.includeExternal
        obtain ⟨callees, resolved⟩ := exists_of_mapM fun name (_ : name ∈ names) =>
          exists_calleeAfresh regular listed (node.depth + 1) name
        exact ⟨callees, bind_eq_ok_iff.mpr ⟨rules, compiled, resolved⟩⟩

theorem exists_neighboursAfresh (node : CallNode) (edge : Edge) :
    ∃ found, workspace.neighboursAfresh options root node edge = .ok found := by
  cases edge with
  | caller => exact exists_callersAfresh regular listed node
  | callee => exact exists_calleesAfresh regular listed node

theorem exists_visit (limit : Nat) (edge : Edge) (path : List FunctionKey) (node : CallNode) :
    ∃ visit, workspace.visit options root limit edge path node = .ok visit := by
  induction path, node using visit.induct limit with
  | case1 path node follows ih =>
      obtain ⟨found, searched⟩ := exists_neighboursAfresh regular listed node edge
      obtain ⟨further, visited⟩ := exists_of_mapM fun child (_ : child ∈ found) => ih child
      refine ⟨⟨node, true, further⟩, ?_⟩
      rw [visit_eq_follow follows]
      exact bind_eq_ok_iff.mpr ⟨found, searched, bind_eq_ok_iff.mpr ⟨further, visited, rfl⟩⟩
  | case2 path node stays => exact ⟨_, visit_eq_leaf stays⟩

theorem exists_visitFrom (limit : Nat) (start : CallNode) (edge : Edge) :
    ∃ visit, workspace.visitFrom options root limit start edge = .ok visit := by
  rw [visitFrom]
  split
  · exact exists_visit regular listed limit edge [] start
  · exact ⟨_, rfl⟩

theorem exists_surveyOf (limit : Nat) (start : CallNode) :
    ∃ survey, workspace.surveyOf options root limit start = .ok survey := by
  obtain ⟨callers, upward⟩ := exists_visitFrom regular listed limit start .caller
  obtain ⟨callees, downward⟩ := exists_visitFrom regular listed limit start .callee
  exact ⟨_, bind_eq_ok_iff.mpr ⟨callers, upward, bind_eq_ok_iff.mpr ⟨callees, downward, rfl⟩⟩⟩

theorem exists_survey? (limit : Nat) (name : String) :
    ∃ found, workspace.survey? options root limit name = .ok found := by
  obtain ⟨found, defined⟩ := exists_definitionAfresh? regular listed name
  cases found with
  | none => exact ⟨none, bind_eq_ok_iff.mpr ⟨none, defined, rfl⟩⟩
  | some definition =>
      obtain ⟨survey, around⟩ := exists_surveyOf regular listed limit (definition.atDepth 0)
      exact ⟨some survey, bind_eq_ok_iff.mpr
        ⟨some definition, defined, bind_eq_ok_iff.mpr ⟨survey, around, rfl⟩⟩⟩

end

/-! ### Depth bounds that make no difference -/

section

variable (regular : workspace.registry.Regular) {files : List SourceFile}
  (listed : workspace.filesAfresh root = .ok files) {name : String}

include listed in
theorem depth_lt_of_fresh {path : List FunctionKey} {node : CallNode}
    (admitted : workspace.Admits root name node) (depth : node.depth = path.length)
    (distinct : path.Nodup) (within : ∀ key ∈ path, key ∈ workspace.keysOf files name)
    (own : node.isExternal = false) (fresh : node.key ∉ path) :
    node.depth < (workspace.keysOf files name).card := by
  have longer : (node.key :: path).Nodup := List.nodup_cons.mpr ⟨fresh, distinct⟩
  have contained : (node.key :: path).toFinset ⊆ workspace.keysOf files name := by
    intro key member
    rcases List.mem_cons.mp (List.mem_toFinset.mp member) with rfl | onPath
    · exact admitted.key_mem listed own
    · exact within key onPath
  have counted := Finset.card_le_card contained
  rw [List.toFinset_card_of_nodup longer, List.length_cons] at counted
  omega

include regular listed in
theorem visit_eq_of_card_le {other : TraceOptions} {edge : Edge} {limit deeper : Nat}
    (alike : ∀ node, workspace.neighboursAfresh options root node edge =
      workspace.neighboursAfresh other root node edge)
    (enough : (workspace.keysOf files name).card ≤ limit)
    (enoughToo : (workspace.keysOf files name).card ≤ deeper) (path : List FunctionKey)
    (node : CallNode) (admitted : workspace.Admits root name node)
    (depth : node.depth = path.length) (distinct : path.Nodup)
    (within : ∀ key ∈ path, key ∈ workspace.keysOf files name) :
    workspace.visit options root limit edge path node =
      workspace.visit other root deeper edge path node := by
  induction path, node using visit.induct limit with
  | case1 path node follows ih =>
      obtain ⟨_, own, fresh⟩ := follows
      have ownToo : node.isExternal = false := eq_false_of_ne_true own
      -- The node stands above both bounds, so both recursions go on.
      have above := depth_lt_of_fresh listed admitted depth distinct within ownToo fresh
      rw [visit_eq_follow ⟨by omega, own, fresh⟩, visit_eq_follow ⟨by omega, own, fresh⟩, alike]
      refine bind_congr_of_ok fun found searched => ?_
      have each (child : CallNode) (member : child ∈ found) :
          workspace.visit options root limit edge (node.key :: path)
              (child.atDepth (node.depth + 1)) =
            workspace.visit other root deeper edge (node.key :: path)
              (child.atDepth (node.depth + 1)) := by
        refine ih child ?_ ?_ (List.nodup_cons.mpr ⟨fresh, distinct⟩) ?_
        · rw [atDepth_of_mem_neighboursAfresh searched member]
          exact admits_of_mem_neighboursAfresh regular searched member
        · rw [List.length_cons, ← depth]
          rfl
        · exact List.forall_mem_cons.mpr ⟨admitted.key_mem listed ownToo, within⟩
      rw [mapM_congr_of_mem each]
  | case2 path node stays =>
      have settled : node.isExternal ∨ node.key ∈ path := by
        by_contra free
        obtain ⟨own, fresh⟩ := not_or.mp free
        have above := depth_lt_of_fresh listed admitted depth distinct within
          (eq_false_of_ne_true own) fresh
        exact stays ⟨by omega, own, fresh⟩
      rw [visit_eq_leaf stays, visit_eq_leaf]
      rintro ⟨_, own, fresh⟩
      exact settled.elim own fresh

include regular listed in
theorem callTree?_eq_of_card_le {maxDepth limit deeper : Nat}
    (enough : (workspace.keysOf files name).card ≤ limit)
    (enoughToo : (workspace.keysOf files name).card ≤ deeper) :
    workspace.callTree? options root limit name =
      workspace.callTree? { options with maxDepth := maxDepth } root deeper name := by
  have around (definition : CallNode)
      (defined : workspace.definitionAfresh? name root = .ok (some definition)) (edge : Edge) :
      workspace.visitFrom options root limit (definition.atDepth 0) edge =
        workspace.visitFrom { options with maxDepth := maxDepth } root deeper (definition.atDepth 0)
          edge := by
    have alike (node : CallNode) : workspace.neighboursAfresh options root node edge =
        workspace.neighboursAfresh { options with maxDepth := maxDepth } root node edge := by
      cases edge <;> rfl
    have same := visit_eq_of_card_le regular listed alike enough enoughToo [] (definition.atDepth 0)
      (admits_of_definitionAfresh? regular defined) rfl List.nodup_nil nofun
    rw [visitFrom, visitFrom, same]
  rw [callTree?, callTree?, survey?, survey?]
  refine congrArg _ (bind_congr_of_ok fun found defined => ?_)
  cases found with
  | none => rfl
  | some definition =>
      have same (edge : Edge) := around definition defined edge
      dsimp only
      rw [surveyOf, surveyOf, same .caller, same .callee]

end

end Workspace

/-- A trace through a corpus in memory ends, with the same tree for all depth bounds that suffice. On a
path of its tree along one kind of edge no function is followed twice, a function that occurs again has no
children, and there are no more nodes than functions to follow and one. -/
theorem MemoryCorpus.paths_of_trace (corpus : MemoryCorpus) (extensions : Dictionary String)
    (filter : LanguageFilter) (options : TraceOptions) (root : Path) (name : String)
    (unspent : 0 < options.timeoutMs) {files : List SourceFile}
    (listed : corpus.list root filter = .ok files) :
    let workspace := corpus.workspace extensions filter
    let bound := files.length * (1 + (identifiersOn (workspace.linesOf files)).card)
    ∃ output, (outcome (workspace.trace options root name) {}).1 = .ok output ∧
      (bound ≤ options.maxDepth → ∀ deeper, bound ≤ deeper →
        (outcome (workspace.trace { options with maxDepth := deeper } root name) {}).1.map
          TraceOutput.root = .ok output.root) ∧
      ∀ tree, output.root = some tree → ∃ survey,
        workspace.survey? options root options.maxDepth name = .ok (some survey) ∧
        survey.tree = tree ∧ survey.expansions = output.expansions ∧
        ∀ edge nodes, Descends (CallNode.along · edge) tree nodes →
          ∃ rest, survey.Traverses edge options.maxDepth bound nodes rest := by
  intro workspace bound
  have regular : workspace.registry.Regular := Shipped.registry_regular.withExtensions extensions
  have byPlace : workspace.corpus.ByPlace := corpus.toCorpus_byPlace
  have reached : options.reach = options.maxDepth := if_neg (Nat.ne_of_gt unspent)
  obtain ⟨found, surveyed⟩ : ∃ found,
      workspace.survey? options root options.maxDepth name = .ok found :=
    Workspace.exists_survey? regular listed options.maxDepth name
  have traced := Workspace.trace_eq_survey byPlace options root name
  rw [reached, surveyed] at traced
  cases came : (outcome (workspace.trace options root name) {}).1 with
  | error failure =>
      rw [came] at traced
      cases traced
  | ok output =>
      rw [came] at traced
      obtain ⟨rooted, counted⟩ := Prod.mk.inj (Except.ok.inj traced)
      refine ⟨output, rfl, ?_, ?_⟩
      · intro enough deeper enoughToo
        have size := workspace.card_keysOf_le files name
        have deepened : { options with maxDepth := deeper }.reach = deeper :=
          if_neg (Nat.ne_of_gt unspent)
        rw [Workspace.root_eq byPlace, deepened, ← Workspace.callTree?_eq_of_card_le regular listed
          (Nat.le_trans size enough) (Nat.le_trans size enoughToo), Workspace.callTree?, surveyed,
          rooted]
        rfl
      · intro tree isRoot
        rw [isRoot] at rooted
        obtain ⟨survey, rfl, rfl⟩ := Option.map_eq_some_iff.mp rooted.symm
        refine ⟨survey, surveyed, rfl, counted.symm, fun edge nodes descends => ?_⟩
        exact Workspace.exists_traverses regular listed surveyed descends

namespace Scripts

def files : List SourceFile :=
  [⟨⟨"a.py"⟩, "python"⟩, ⟨⟨"b.py"⟩, "python"⟩]

theorem list_corpus : corpus.list ⟨""⟩ .any = .ok files :=
  rfl

theorem card_identifiers :
    (identifiersOn ((corpus.workspace {} .any).linesOf files)).card = 8 := by
  decide +kernel

end Scripts

theorem Scripts.paths :
    0 < ({} : TraceOptions).timeoutMs ∧ corpus.list ⟨""⟩ .any = .ok files ∧
    ∃ (tree : CallNode) (survey : Survey),
      (outcome ((corpus.workspace {} .any).trace {} ⟨""⟩ "f") {}).1.map TraceOutput.root =
        .ok (some tree) ∧
      tree.walk.map (fun node => (node.functionName, node.line)) =
        [("f", 1), ("g", 1), ("f", 1), ("g", 1), ("f", 1), ("h", 0)] ∧
      ∀ edge nodes, Descends (CallNode.along · edge) tree nodes →
        ∃ rest, survey.Traverses edge 5 18 nodes rest := by
  obtain ⟨output, traced, _, paths⟩ :=
    MemoryCorpus.paths_of_trace corpus {} .any {} ⟨""⟩ "f" (by decide) list_corpus
  have outlined := trace_outline
  rw [traced] at outlined
  obtain ⟨tree, isRoot, outline⟩ := Option.map_eq_some_iff.mp (Option.some.inj outlined)
  obtain ⟨survey, _, _, _, short⟩ := paths tree isRoot
  rw [card_identifiers] at short
  refine ⟨by decide, list_corpus, tree, survey, ?_, outline, short⟩
  rw [traced]
  exact congrArg Except.ok isRoot

end Callsite

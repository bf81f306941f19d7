import Callsite.Proofs.CallTree

set_option autoImplicit false

/-! How a trace comes to the files that it looks at. A scan goes through the listing and looks at a file only
after all files before it, and a function is only looked into after a scan has come across it. So whatever holds
of sessions that have seen certain files is kept by a whole trace, if a look at the next file of a scan keeps
it. And traces through two corpora run alike, if such looks do. -/

namespace Callsite

abbrev Workspace.over (workspace : Workspace) (other : Corpus) : Workspace :=
  { workspace with corpus := other }

/-- Computations that run alike from all states in which the files under `known` have been seen, as `seen` says
it. After them these files still are, and with a result so are those that it `finds`. -/
def Tandem {σ α : Type} (seen : List Path → σ → Prop) (known : List Path)
    (left right : ExceptT Failure (StateM σ) α) (finds : α → List Path) : Prop :=
  ∀ state, seen known state → outcome left state = outcome right state ∧ seen known (outcome left state).2 ∧
    ∀ value, (outcome left state).1 = .ok value → seen (known ++ finds value) (outcome left state).2

/-- Where some files have been seen, fewer have been. -/
def Weakens {σ : Type} (seen : List Path → σ → Prop) : Prop :=
  ∀ known more state, known ⊆ more → seen more state → seen known state

namespace Tandem

variable {σ α β : Type} {seen : List Path → σ → Prop} {known : List Path}
  {left right : ExceptT Failure (StateM σ) α} {finds : α → List Path} {found : β → List Path}

theorem of_kept (same : ∀ state, seen known state → outcome left state = outcome right state)
    (kept : ∀ state, seen known state → seen known (outcome left state).2) :
    Tandem seen known left right fun _ => [] := by
  intro state before
  refine ⟨same state before, kept state before, ?_⟩
  intro value _
  rw [List.append_nil]
  exact kept state before

theorem modify {change : σ → σ} (keeps : ∀ state, seen known state → seen known (change state)) :
    Tandem seen known (modify change : ExceptT Failure (StateM σ) PUnit)
      (modify change : ExceptT Failure (StateM σ) PUnit) fun _ => [] :=
  of_kept (fun _ _ => rfl) keeps

section

variable (weakens : Weakens seen)

include weakens

theorem pure {value : α} (among : finds value ⊆ known) :
    Tandem seen known (pure value) (pure value) finds := by
  intro state before
  refine ⟨rfl, before, ?_⟩
  intro _ came
  cases came
  exact weakens _ known state (List.append_subset.mpr ⟨List.Subset.refl known, among⟩) before

theorem bind {next further : α → ExceptT Failure (StateM σ) β} (first : Tandem seen known left right finds)
    (second : ∀ value, Tandem seen (known ++ finds value) (next value) (further value) found) :
    Tandem seen known (left >>= next) (right >>= further) found := by
  intro state before
  obtain ⟨same, kept, learned⟩ := first state before
  rw [outcome_bind, outcome_bind, ← same]
  rcases step : outcome left state with ⟨failure | value, between⟩
  · rw [step] at kept
    exact ⟨rfl, kept, nofun⟩
  · rw [step] at learned
    obtain ⟨sameThen, keptThen, more⟩ := second value between (learned value rfl)
    refine ⟨sameThen, weakens _ _ _ (List.subset_append_left _ _) keptThen, ?_⟩
    intro result came
    apply weakens _ _ _ ?_ (more result came)
    rw [List.append_assoc]
    exact List.append_subset.mpr ⟨List.subset_append_left _ _,
      List.Subset.trans (List.subset_append_right _ _) (List.subset_append_right _ _)⟩

theorem imp {fewer : α → List Path} (tandem : Tandem seen known left right finds)
    (among : ∀ value, fewer value ⊆ finds value) : Tandem seen known left right fewer := by
  intro state before
  obtain ⟨same, kept, learned⟩ := tandem state before
  refine ⟨same, kept, ?_⟩
  intro value came
  apply weakens _ _ _ ?_ (learned value came)
  exact List.append_subset.mpr ⟨List.subset_append_left _ _,
    List.subset_append_of_subset_right _ (among value)⟩

theorem mapM {γ : Type} {compute other : γ → ExceptT Failure (StateM σ) β} (items : List γ)
    (each : ∀ item ∈ items, Tandem seen known (compute item) (other item) fun _ => []) :
    Tandem seen known (items.mapM compute) (items.mapM other) fun _ => [] := by
  induction items with
  | nil => exact pure weakens (List.nil_subset known)
  | cons item rest ih =>
      obtain ⟨here, later⟩ := List.forall_mem_cons.mp each
      rw [List.mapM_cons, List.mapM_cons]
      apply here.bind weakens
      intro first
      rw [List.append_nil]
      apply (ih later).bind weakens
      intro further
      exact pure weakens (List.nil_subset _)

end

end Tandem

abbrev duringTrace (seen : List Path → Session → Prop) (known : List Path) (state : TraceState) : Prop :=
  seen known state.session

theorem Tandem.lookup {α : Type} {seen : List Path → Session → Prop} {known : List Path} {left right : Lookup α}
    {finds : α → List Path} (tandem : Tandem seen known left right finds) :
    Tandem (duringTrace seen) known (Tracing.lookup left) (Tracing.lookup right) finds := by
  intro state before
  obtain ⟨same, kept, learned⟩ := tandem state.session before
  rw [Tracing.outcome_lookup, Tracing.outcome_lookup, ← same]
  exact ⟨rfl, kept, learned⟩

/-- What makes a trace through another corpus run alike, with `seen` kept all along: the same files are listed,
and looks at them come to the same, where a scan comes to the next file and where a file is looked at again. -/
structure Scanning (workspace : Workspace) (other : Corpus) (root : Path) (files : List SourceFile)
    (seen : List Path → Session → Prop) : Prop where
  weakens : Weakens seen
  lists : ∀ known, Agrees (seen known) (workspace.files root) (.ok files)
  listsAlike : ∀ known session, seen known session →
    outcome (workspace.files root) session = outcome ((workspace.over other).files root) session
  again : ∀ known path, path ∈ known →
    Tandem seen known (workspace.lines? path) ((workspace.over other).lines? path) fun _ => []
  next : ∀ (known : List Path) (before : List SourceFile) (file : SourceFile) (after : List SourceFile),
    files = before ++ file :: after → before.map SourceFile.path ⊆ known →
      Tandem seen known (workspace.lines? file.path) ((workspace.over other).lines? file.path)
        fun _ => [file.path]
  rules : ∀ known session rules, seen known session → seen known { session with rules := rules }
  recalls : ∀ known session name node, seen known session →
    session.definitions.get? name root = some (some node) → seen (known ++ [node.filePath]) session
  remembers : ∀ known session name found, seen (known ++ found.toList.map CallNode.filePath) session →
    seen (known ++ found.toList.map CallNode.filePath)
      { session with definitions := session.definitions.put name root found }

namespace Workspace

def sourcesOf (nodes : List CallNode) : List Path :=
  (nodes.filter fun node => !node.isExternal).map CallNode.filePath

theorem sourcesOf_subset (nodes : List CallNode) : sourcesOf nodes ⊆ nodes.map CallNode.filePath :=
  List.map_subset _ (List.filter_subset_self nodes)

variable {workspace : Workspace} {other : Corpus} {root : Path} {files : List SourceFile} {known : List Path}
  {seen : List Path → Session → Prop}

theorem mem_of_mem_sourcesOf {node : CallNode} {path : Path} (own : node.isExternal = false → node.filePath ∈ known)
    (member : path ∈ sourcesOf [node]) : path ∈ known := by
  obtain ⟨only, inList, rfl⟩ := List.mem_map.mp member
  obtain ⟨only, inside⟩ := List.mem_filter.mp inList
  cases List.mem_singleton.mp only
  exact own (by simpa using inside)

theorem mem_sourcesOf {node : CallNode} {nodes : List CallNode} (member : node ∈ nodes)
    (inside : node.isExternal = false) : node.filePath ∈ sourcesOf nodes :=
  List.mem_map_of_mem (List.mem_filter.mpr ⟨member, by rw [inside]; rfl⟩)

theorem scanned_next {before : List SourceFile} (file : SourceFile)
    (scanned : before.map SourceFile.path ⊆ known) :
    (before ++ [file]).map SourceFile.path ⊆ known ++ [file.path] := by
  rw [List.map_append]
  exact List.append_subset.mpr ⟨List.subset_append_of_subset_left _ scanned,
    List.subset_append_right _ _⟩

variable (scanning : Scanning workspace other root files seen)

include scanning

/-! ### Lookups -/

theorem files_tandem {β : Type} {next further : List SourceFile → Lookup β} {found : β → List Path}
    (second : Tandem seen known (next files) (further files) found) :
    Tandem seen known (workspace.files root >>= next) ((workspace.over other).files root >>= further) found := by
  intro session before
  obtain ⟨listed, kept⟩ := scanning.lists known session before
  rw [outcome_bind, outcome_bind, ← scanning.listsAlike known session before]
  rcases step : outcome (workspace.files root) session with ⟨result, after⟩
  rw [step] at listed kept
  cases listed
  exact second after kept

theorem rulesFor_tandem (language name : String) :
    Tandem seen known (workspace.rulesFor language name) ((workspace.over other).rulesFor language name)
      fun _ => [] := by
  apply Tandem.of_kept
  · exact fun _ _ => rfl
  intro session before
  rw [outcome_rulesFor]
  cases session.rules.find? (language, name) with
  | some rules => exact before
  | none =>
      cases (workspace.registry.language language).rulesFor name with
      | error fault => exact before
      | ok rules => exact scanning.rules known session _ before

theorem firstDefinition?_tandem (name : String) (rest : List SourceFile) :
    ∀ (before : List SourceFile) (known : List Path), files = before ++ rest →
      before.map SourceFile.path ⊆ known →
      Tandem seen known (workspace.firstDefinition? name rest)
        ((workspace.over other).firstDefinition? name rest) fun found => found.toList.map CallNode.filePath := by
  induction rest with
  | nil => exact fun _ known _ _ => Tandem.pure scanning.weakens (List.nil_subset known)
  | cons file rest ih =>
      intro before known split scanned
      have further : files = (before ++ [file]) ++ rest := split.trans (List.append_cons before file rest)
      have scannedFile := scanned_next file scanned
      apply (scanning.next known before file rest split scanned).bind scanning.weakens
      intro lines
      cases lines with
      | none => exact ih (before ++ [file]) _ further scannedFile
      | some lines =>
          apply (rulesFor_tandem scanning file.language name).bind scanning.weakens
          intro rules
          rw [List.append_nil]
          cases defined : definitionIn? (workspace.registry.language file.language) rules name file 1
            lines with
          | some node =>
              obtain ⟨_, _, _, _, _, _, rfl⟩ := exists_of_definitionIn? defined
              exact Tandem.pure scanning.weakens (List.subset_append_right _ _)
          | none => exact ih (before ++ [file]) _ further scannedFile

theorem definition?_tandem (name : String) :
    Tandem seen known (workspace.definition? name root) ((workspace.over other).definition? name root)
      fun found => found.toList.map CallNode.filePath := by
  intro session before
  rw [outcome_definition?, outcome_definition?]
  cases hit : session.definitions.get? name root with
  | some found =>
      refine ⟨rfl, before, ?_⟩
      intro value came
      cases came
      cases found with
      | none =>
          show seen (known ++ []) session
          rwa [List.append_nil]
      | some node => exact scanning.recalls known session name node before hit
  | none =>
      have searched : Tandem seen known (workspace.searchDefinition? name root)
          ((workspace.over other).searchDefinition? name root) fun found =>
            found.toList.map CallNode.filePath :=
        files_tandem scanning (firstDefinition?_tandem scanning name files [] known rfl (List.nil_subset known))
      obtain ⟨same, kept, learned⟩ := searched session before
      rw [← same]
      rcases step : outcome (workspace.searchDefinition? name root) session with ⟨failure | found, between⟩
      · rw [step] at kept
        exact ⟨rfl, kept, nofun⟩
      · rw [step] at learned
        have after := scanning.remembers known between name found (learned found rfl)
        refine ⟨rfl, scanning.weakens _ _ _ (List.subset_append_left _ _) after, ?_⟩
        intro value came
        cases came
        exact after

theorem callersAmong_tandem (name : String) (depth : Nat) (rest : List SourceFile) :
    ∀ (before : List SourceFile) (known : List Path), files = before ++ rest →
      before.map SourceFile.path ⊆ known →
      Tandem seen known (workspace.callersAmong name depth rest)
        ((workspace.over other).callersAmong name depth rest) fun found => found.map CallNode.filePath := by
  induction rest with
  | nil => exact fun _ known _ _ => Tandem.pure scanning.weakens (List.nil_subset known)
  | cons file rest ih =>
      intro before known split scanned
      have further : files = (before ++ [file]) ++ rest := split.trans (List.append_cons before file rest)
      have scannedFile := scanned_next file scanned
      apply (scanning.next known before file rest split scanned).bind scanning.weakens
      intro lines
      cases lines with
      | none => exact ih (before ++ [file]) _ further scannedFile
      | some lines =>
          apply (rulesFor_tandem scanning file.language name).bind scanning.weakens
          intro rules
          rw [List.append_nil]
          apply (ih (before ++ [file]) _ further scannedFile).bind scanning.weakens
          intro later
          apply Tandem.pure scanning.weakens
          rw [List.map_append]
          refine List.append_subset.mpr ⟨?_, List.subset_append_right _ _⟩
          intro path member
          obtain ⟨caller, inFile, rfl⟩ := List.mem_map.mp member
          obtain ⟨scope, _, rfl⟩ := List.mem_map.mp inFile
          exact List.mem_append_left _ (List.mem_append_right known List.mem_cons_self)

theorem callers_tandem (node : CallNode) :
    Tandem seen known (workspace.callers root node) ((workspace.over other).callers root node) sourcesOf := by
  apply files_tandem scanning
  apply (callersAmong_tandem scanning node.functionName (node.depth + 1) files [] known rfl
    (List.nil_subset known)).bind scanning.weakens
  intro found
  apply Tandem.pure scanning.weakens
  intro path member
  obtain ⟨caller, inList, rfl⟩ := List.mem_map.mp (sourcesOf_subset _ member)
  exact List.mem_append_right known (List.mem_map_of_mem (mem_distinctBy inList))

theorem calleesNamed_tandem (depth : Nat) (names : List String) :
    ∀ known : List Path, Tandem seen known (workspace.calleesNamed root depth names)
      ((workspace.over other).calleesNamed root depth names) sourcesOf := by
  induction names with
  | nil => exact fun known => Tandem.pure scanning.weakens (List.nil_subset known)
  | cons name rest ih =>
      intro known
      apply (definition?_tandem scanning name).bind scanning.weakens
      intro found
      apply (ih _).bind scanning.weakens
      intro further
      apply Tandem.pure scanning.weakens
      intro path member
      obtain ⟨callee, inList, rfl⟩ := List.mem_map.mp member
      obtain ⟨inList, inside⟩ := List.mem_filter.mp inList
      rcases List.mem_cons.mp inList with rfl | later
      · apply List.mem_append_left
        apply List.mem_append_right
        cases found with
        | none =>
            rw [CallNode.isExternal_placeholder] at inside
            contradiction
        | some definition => exact List.mem_cons_self
      · exact List.mem_append_right _ (List.mem_map_of_mem (List.mem_filter.mpr ⟨later, inside⟩))

theorem callees_tandem (options : TraceOptions) {node : CallNode} (member : node.filePath ∈ known) :
    Tandem seen known (workspace.callees options root node) ((workspace.over other).callees options root node)
      sourcesOf := by
  rw [callees, callees]
  cases node.abstractDeclaration with
  | true => exact Tandem.pure scanning.weakens (List.nil_subset known)
  | false =>
      apply (scanning.again known node.filePath member).bind scanning.weakens
      intro lines
      rw [List.append_nil]
      cases lines with
      | none => exact Tandem.pure scanning.weakens (List.nil_subset known)
      | some lines =>
          dsimp only
          cases lines[node.line - 1]? with
          | none => exact Tandem.pure scanning.weakens (List.nil_subset known)
          | some first =>
              apply (rulesFor_tandem scanning node.language node.functionName).bind scanning.weakens
              intro rules
              exact calleesNamed_tandem scanning (node.depth + 1) _ _

theorem neighbours_tandem (options : TraceOptions) {node : CallNode} (member : node.filePath ∈ known)
    (edge : Edge) :
    Tandem seen known (workspace.neighbours options root node edge)
      ((workspace.over other).neighbours options root node edge) sourcesOf := by
  cases edge with
  | caller => exact callers_tandem scanning node
  | callee => exact callees_tandem scanning options member

/-! ### Traces -/

/-- The recursion keeps pace, from any node that is external or whose file has been seen. -/
theorem expand_tandem (options : TraceOptions) (edge : Edge) (levels : Nat) :
    ∀ (known : List Path) (ancestors : List FunctionKey) (node : CallNode),
      (node.isExternal = false → node.filePath ∈ known) →
      Tandem (duringTrace seen) known (workspace.expand options root edge levels ancestors node)
        ((workspace.over other).expand options root edge levels ancestors node) fun tree => sourcesOf [tree] := by
  have weakens : Weakens (duringTrace seen) := fun known more state => scanning.weakens known more state.session
  induction levels with
  | zero => exact fun _ _ _ own => Tandem.pure weakens fun _ => mem_of_mem_sourcesOf own
  | succ levels ih =>
      intro known ancestors node own
      have done : Tandem (duringTrace seen) known (pure node) (pure node) fun tree => sourcesOf [tree] :=
        Tandem.pure weakens fun _ => mem_of_mem_sourcesOf own
      rw [expand, expand]
      cases external : node.isExternal with
      | true => exact done
      | false =>
          rw [if_neg Bool.false_ne_true, if_neg Bool.false_ne_true]
          by_cases spent : options.timeoutMs = 0
          · rw [if_pos spent, if_pos spent]
            apply Tandem.bind weakens (Tandem.modify ?_)
            · intro _
              rw [List.append_nil]
              exact done
            · exact fun _ before => before
          rw [if_neg spent, if_neg spent]
          by_cases repeated : node.key ∈ ancestors
          · rw [if_pos repeated, if_pos repeated]
            exact done
          rw [if_neg repeated, if_neg repeated]
          apply Tandem.bind weakens (Tandem.modify ?_)
          · intro _
            rw [List.append_nil]
            apply (neighbours_tandem scanning options (own external) edge).lookup.bind weakens
            intro found
            apply (Tandem.mapM weakens found ?_).bind weakens
            · intro children
              have same : (attach node children edge).isExternal = false →
                  (attach node children edge).filePath ∈ known := by
                cases edge <;> exact own
              apply Tandem.pure weakens
              intro path member
              rw [List.append_nil]
              exact List.mem_append_left _ (mem_of_mem_sourcesOf same member)
            · intro child member
              apply (ih _ _ child ?_).imp weakens fun _ => List.nil_subset _
              intro inside
              exact List.mem_append_right known (mem_sourcesOf member inside)
          · exact fun _ before => before

theorem expandAlong_tandem (options : TraceOptions) (edges : List Edge) :
    ∀ (known : List Path) (node : CallNode), (node.isExternal = false → node.filePath ∈ known) →
      Tandem (duringTrace seen) known (workspace.expandAlong options root edges node)
        ((workspace.over other).expandAlong options root edges node) fun _ => [] := by
  have weakens : Weakens (duringTrace seen) := fun known more state => scanning.weakens known more state.session
  induction edges with
  | nil => exact fun known _ _ => Tandem.pure weakens (List.nil_subset known)
  | cons edge rest ih =>
      intro known node own
      rw [expandAlong, expandAlong]
      apply (expand_tandem scanning options edge options.maxDepth known [] node own).bind weakens
      intro tree
      apply ih
      intro inside
      exact List.mem_append_right known (mem_sourcesOf (List.mem_singleton_self tree) inside)

theorem trace_tandem (options : TraceOptions) (name : String) :
    Tandem (duringTrace seen) known (workspace.trace options root name)
      ((workspace.over other).trace options root name) fun _ => [] := by
  have weakens : Weakens (duringTrace seen) := fun known more state => scanning.weakens known more state.session
  have finish (known : List Path) (tree : Option CallNode) :
      Tandem (duringTrace seen) known
        (do let state ← get; return ⟨tree, state.truncated, state.expansions⟩ : Tracing TraceOutput)
        (do let state ← get; return ⟨tree, state.truncated, state.expansions⟩) fun _ => [] :=
    Tandem.of_kept (fun _ _ => rfl) fun _ before => before
  rw [trace, trace]
  apply (definition?_tandem scanning name).lookup.bind weakens
  intro found
  cases found with
  | none => exact finish _ none
  | some definition =>
      apply (expandAlong_tandem scanning options options.direction.edges _ _ ?_).bind weakens
      · exact fun tree => finish _ (some tree)
      · exact fun _ => List.mem_append_right known List.mem_cons_self

omit scanning in
theorem trace_unlisted {failure : Failure} (listing : workspace.corpus.list root workspace.filter = .error failure)
    (options : TraceOptions) (name : String) :
    outcome (workspace.trace options root name) {} = (.error failure, { session := { listed := [root] } }) := by
  have listed : outcome (workspace.files root) {} = (.error failure, { listed := [root] }) := by
    rw [outcome_files, listing]
    rfl
  have looked := Tracing.outcome_lookup (workspace.definition? name root) {}
  rw [outcome_definition?, searchDefinition?, outcome_bind_error listed] at looked
  rw [trace, outcome_bind_error looked]
  rfl

end Workspace

end Callsite

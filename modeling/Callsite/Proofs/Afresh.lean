import Callsite.Proofs.Outcome

set_option autoImplicit false

/-! Looking things up afresh. Each lookup has a counterpart that remembers nothing: it lists the corpus,
reads the files and compiles the rules again whenever it needs them. A session is sound if all that it
remembers is what the counterparts find; then lookups in it find the same, and leave it sound. -/

namespace Callsite

/-- Whether a corpus goes by the place that a path leads to, however the path is written. -/
structure Corpus.ByPlace (corpus : Corpus) : Prop where
  list : ∀ left right : Path, left.parts = right.parts → corpus.list left = corpus.list right
  read : ∀ left right : Path, left.parts = right.parts → corpus.read? left = corpus.read? right

theorem MemoryCorpus.toCorpus_byPlace (corpus : MemoryCorpus) : corpus.toCorpus.ByPlace where
  list left right same := by
    funext filter
    simp only [toCorpus, MemoryCorpus.list, Path.same, Path.isUnder, same]
  read left right same := by
    simp only [toCorpus, MemoryCorpus.find?, Path.same, same]

namespace Workspace

def linesAfresh? (workspace : Workspace) (path : Path) : Option (List String) :=
  (workspace.corpus.read? path).map Text.lines

def filesAfresh (workspace : Workspace) (root : Path) : Except Failure (List SourceFile) :=
  workspace.corpus.list root workspace.filter

def rulesAfresh (workspace : Workspace) (language name : String) : Except Failure TargetRules :=
  ((workspace.registry.language language).rulesFor name).mapError .pattern

def definitionAmong? (workspace : Workspace) (name : String) :
    List SourceFile → Except Failure (Option CallNode)
  | [] => .ok none
  | file :: rest =>
      match workspace.linesAfresh? file.path with
      | none => workspace.definitionAmong? name rest
      | some lines => do
          let rules ← workspace.rulesAfresh file.language name
          match definitionIn? (workspace.registry.language file.language) rules name file 1 lines with
          | some node => .ok (some node)
          | none => workspace.definitionAmong? name rest

def definitionAfresh? (workspace : Workspace) (name : String) (root : Path) :
    Except Failure (Option CallNode) := do
  workspace.definitionAmong? name (← workspace.filesAfresh root)

def callersAmongAfresh (workspace : Workspace) (name : String) (depth : Nat) :
    List SourceFile → Except Failure (List CallNode)
  | [] => .ok []
  | file :: rest =>
      match workspace.linesAfresh? file.path with
      | none => workspace.callersAmongAfresh name depth rest
      | some lines => do
          let rules ← workspace.rulesAfresh file.language name
          let language := workspace.registry.language file.language
          let further ← workspace.callersAmongAfresh name depth rest
          .ok (language.callersIn rules file lines depth ++ further)

def callersAfresh (workspace : Workspace) (root : Path) (node : CallNode) :
    Except Failure (List CallNode) := do
  let files ← workspace.filesAfresh root
  let callers ← workspace.callersAmongAfresh node.functionName (node.depth + 1) files
  .ok (distinctBy CallNode.key [] callers)

def calleeNode (name : String) (depth : Nat) : Option CallNode → CallNode
  | some definition => definition.atDepth depth
  | none => .placeholder name depth

def calleeAfresh (workspace : Workspace) (root : Path) (depth : Nat) (name : String) :
    Except Failure CallNode := do
  .ok (calleeNode name depth (← workspace.definitionAfresh? name root))

def calleesAfresh (workspace : Workspace) (options : TraceOptions) (root : Path) (node : CallNode) :
    Except Failure (List CallNode) :=
  if node.abstractDeclaration then .ok []
  else
    match workspace.linesAfresh? node.filePath with
    | none => .ok []
    | some lines =>
        match lines[node.line - 1]? with
        | none => .ok []
        | some first => do
            let language := workspace.registry.language node.language
            let rules ← workspace.rulesAfresh node.language node.functionName
            let body := language.bodyText rules lines options.bodyScanLimit (node.line - 1) first
            (language.callsIn body options.includeExternal).mapM
              (workspace.calleeAfresh root (node.depth + 1))

def neighboursAfresh (workspace : Workspace) (options : TraceOptions) (root : Path)
    (node : CallNode) : Edge → Except Failure (List CallNode)
  | .caller => workspace.callersAfresh root node
  | .callee => workspace.calleesAfresh options root node

end Workspace

/-- Everything that a session remembers is what a fresh lookup finds. -/
structure Session.Sound (workspace : Workspace) (session : Session) : Prop where
  definitions : ∀ (name : String) (root : Path) found,
    session.definitions.get? name root = some found → workspace.definitionAfresh? name root = .ok found
  rules : ∀ (language name : String) found,
    session.rules.find? (language, name) = some found → workspace.rulesAfresh language name = .ok found
  listings : ∀ (root : Path) found,
    session.listings.find? root.parts = some found → workspace.filesAfresh root = .ok found
  sources : ∀ (path : Path) found,
    session.sources.find? path.parts = some found → workspace.linesAfresh? path = found

theorem Session.sound_empty (workspace : Workspace) : ({} : Session).Sound workspace := by
  constructor <;> intros <;> contradiction

theorem Workspace.rulesAfresh_eq_ok_iff {workspace : Workspace} {language name : String}
    {rules : TargetRules} :
    workspace.rulesAfresh language name = .ok rules ↔
      (workspace.registry.language language).rulesFor name = .ok rules := by
  rw [rulesAfresh]
  cases (workspace.registry.language language).rulesFor name with
  | error fault => exact ⟨nofun, nofun⟩
  | ok found =>
      constructor <;> exact fun same => congrArg Except.ok (Except.ok.inj same)

theorem DefinitionCache.get?_put (cache : DefinitionCache) (name other : String) (root place : Path)
    (definition : Option CallNode) :
    (cache.put name root definition).get? other place =
      if (other, place.parts) = (name, root.parts) then some definition
      else cache.get? other place :=
  Memo.find?_insert cache (name, root.parts) (other, place.parts) definition

namespace Workspace

section

variable {workspace : Workspace} (byPlace : workspace.corpus.ByPlace)

include byPlace in
theorem files_agrees (root : Path) :
    Agrees (Session.Sound workspace) (workspace.files root) (workspace.filesAfresh root) := by
  intro session sound
  rw [outcome_files]
  cases hit : session.listings.find? root.parts with
  | some found => exact ⟨(sound.listings root found hit).symm, sound⟩
  | none =>
      cases listed : workspace.corpus.list root workspace.filter with
      | error failure =>
          exact ⟨listed.symm, sound.definitions, sound.rules, sound.listings, sound.sources⟩
      | ok found =>
          refine ⟨listed.symm, sound.definitions, sound.rules, ?_, sound.sources⟩
          intro other files remembered
          rw [Memo.find?_insert] at remembered
          split at remembered
          · rename_i same
            rw [filesAfresh, byPlace.list other root same, listed]
            exact congrArg Except.ok (Option.some.inj remembered)
          · exact sound.listings other files remembered

include byPlace in
theorem lines?_agrees (path : Path) :
    Agrees (Session.Sound workspace) (workspace.lines? path) (.ok (workspace.linesAfresh? path)) := by
  intro session sound
  rw [outcome_lines?]
  cases hit : session.sources.find? path.parts with
  | some found => exact ⟨congrArg Except.ok (sound.sources path found hit).symm, sound⟩
  | none =>
      refine ⟨rfl, sound.definitions, sound.rules, sound.listings, ?_⟩
      intro other found remembered
      simp only [Memo.find?_insert] at remembered
      split at remembered
      · rename_i same
        rw [linesAfresh?, byPlace.read other path same]
        exact Option.some.inj remembered
      · exact sound.sources other found remembered

theorem rulesFor_agrees (language name : String) :
    Agrees (Session.Sound workspace) (workspace.rulesFor language name)
      (workspace.rulesAfresh language name) := by
  intro session sound
  rw [outcome_rulesFor]
  cases hit : session.rules.find? (language, name) with
  | some found => exact ⟨(sound.rules language name found hit).symm, sound⟩
  | none =>
      cases compiled : (workspace.registry.language language).rulesFor name with
      | error fault => exact ⟨by rw [rulesAfresh, compiled]; rfl, sound⟩
      | ok rules =>
          have fresh : workspace.rulesAfresh language name = .ok rules := by
            rw [rulesAfresh, compiled]
            rfl
          refine ⟨fresh.symm, sound.definitions, ?_, sound.listings, sound.sources⟩
          intro otherLanguage otherName found remembered
          simp only [Memo.find?_insert] at remembered
          split at remembered
          · rename_i same
            obtain ⟨rfl, rfl⟩ := Prod.mk.inj same
            rw [fresh]
            exact congrArg Except.ok (Option.some.inj remembered)
          · exact sound.rules otherLanguage otherName found remembered

include byPlace in
theorem firstDefinition?_agrees (name : String) (files : List SourceFile) :
    Agrees (Session.Sound workspace) (workspace.firstDefinition? name files)
      (workspace.definitionAmong? name files) := by
  induction files with
  | nil => exact Agrees.pure none
  | cons file rest ih =>
      refine (lines?_agrees byPlace file.path).bind_ok ?_
      rw [definitionAmong?]
      cases workspace.linesAfresh? file.path with
      | none => exact ih
      | some lines =>
          refine (rulesFor_agrees file.language name).bind fun rules _ => ?_
          cases definitionIn? (workspace.registry.language file.language) rules name file 1 lines with
          | some node => exact Agrees.pure (some node)
          | none => exact ih

include byPlace in
theorem definition?_agrees (name : String) (root : Path) :
    Agrees (Session.Sound workspace) (workspace.definition? name root)
      (workspace.definitionAfresh? name root) := by
  intro session sound
  rw [outcome_definition?]
  cases hit : session.definitions.get? name root with
  | some found => exact ⟨(sound.definitions name root found hit).symm, sound⟩
  | none =>
      have searched : Agrees (Session.Sound workspace) (workspace.searchDefinition? name root)
          (workspace.definitionAfresh? name root) :=
        (files_agrees byPlace root).bind fun files _ => firstDefinition?_agrees byPlace name files
      have found := searched session sound
      rcases step : outcome (workspace.searchDefinition? name root) session with
        ⟨failure | definition, after⟩ <;> rw [step] at found
      · exact found
      · refine ⟨found.1, ?_, found.2.rules, found.2.listings, found.2.sources⟩
        intro otherName otherRoot other remembered
        simp only [DefinitionCache.get?_put] at remembered
        split at remembered
        · rename_i same
          obtain ⟨rfl, place⟩ := Prod.mk.inj same
          rw [definitionAfresh?, filesAfresh, byPlace.list otherRoot root place]
          exact found.1.symm.trans (congrArg Except.ok (Option.some.inj remembered))
        · exact found.2.definitions otherName otherRoot other remembered

include byPlace in
theorem callersAmong_agrees (name : String) (depth : Nat) (files : List SourceFile) :
    Agrees (Session.Sound workspace) (workspace.callersAmong name depth files)
      (workspace.callersAmongAfresh name depth files) := by
  induction files with
  | nil => exact Agrees.pure []
  | cons file rest ih =>
      refine (lines?_agrees byPlace file.path).bind_ok ?_
      rw [callersAmongAfresh]
      cases workspace.linesAfresh? file.path with
      | none => exact ih
      | some lines =>
          refine (rulesFor_agrees file.language name).bind fun rules _ => ?_
          exact ih.bind fun further _ => Agrees.pure _

include byPlace in
theorem callers_agrees (root : Path) (node : CallNode) :
    Agrees (Session.Sound workspace) (workspace.callers root node)
      (workspace.callersAfresh root node) := by
  refine (files_agrees byPlace root).bind fun files _ => ?_
  refine (callersAmong_agrees byPlace node.functionName (node.depth + 1) files).bind fun _ _ => ?_
  exact Agrees.pure _

include byPlace in
theorem calleesNamed_agrees (root : Path) (depth : Nat) (names : List String) :
    Agrees (Session.Sound workspace) (workspace.calleesNamed root depth names)
      (names.mapM (workspace.calleeAfresh root depth)) := by
  induction names with
  | nil => exact Agrees.pure []
  | cons name rest ih =>
      rw [List.mapM_cons]
      rw [calleeAfresh, bind_assoc]
      refine (definition?_agrees byPlace name root).bind fun found _ => ?_
      refine ih.bind fun further _ => ?_
      cases found with
      | some definition => exact Agrees.pure _
      | none => exact Agrees.pure _

include byPlace in
theorem callees_agrees (options : TraceOptions) (root : Path) (node : CallNode) :
    Agrees (Session.Sound workspace) (workspace.callees options root node)
      (workspace.calleesAfresh options root node) := by
  rw [callees, calleesAfresh]
  cases node.abstractDeclaration with
  | true => exact Agrees.pure []
  | false =>
      refine (lines?_agrees byPlace node.filePath).bind_ok ?_
      cases workspace.linesAfresh? node.filePath with
      | none => exact Agrees.pure []
      | some lines =>
          dsimp only
          cases lines[node.line - 1]? with
          | none => exact Agrees.pure []
          | some first =>
              refine (rulesFor_agrees node.language node.functionName).bind fun rules _ => ?_
              exact calleesNamed_agrees byPlace root (node.depth + 1) _

include byPlace in
theorem neighbours_agrees (options : TraceOptions) (root : Path) (node : CallNode) (edge : Edge) :
    Agrees (Session.Sound workspace) (workspace.neighbours options root node edge)
      (workspace.neighboursAfresh options root node edge) := by
  cases edge with
  | caller => exact callers_agrees byPlace root node
  | callee => exact callees_agrees byPlace options root node

end

end Workspace

/-! ### The nodes found -/

theorem mem_distinctBy {α κ : Type} [DecidableEq κ] {key : α → κ} {item : α} {items : List α} :
    ∀ {seen : List κ}, item ∈ distinctBy key seen items → item ∈ items := by
  induction items with
  | nil => intro seen member; exact member
  | cons head rest ih =>
      intro seen member
      rw [distinctBy] at member
      split at member
      · exact List.mem_cons_of_mem head (ih member)
      · rcases List.mem_cons.mp member with rfl | later
        · exact List.mem_cons_self
        · exact List.mem_cons_of_mem head (ih later)

theorem CallNode.isExternal_placeholder (name : String) (depth : Nat) :
    (CallNode.placeholder name depth).isExternal = true := by
  simp [isExternal, placeholder, Path.same]

theorem exists_of_definitionIn? {language : Language} {rules : TargetRules} {name : String}
    {file : SourceFile} {lines : List String} {node : CallNode} :
    ∀ {number : Nat}, definitionIn? language rules name file number lines = some node →
      ∃ index line hit, lines[index]? = some line ∧ language.isComment line = false ∧
        rules.declaration? line = some hit ∧ node = {
          functionName := name
          filePath := file.path
          line := number + index
          signature := Text.trim line
          language := file.language
          abstractDeclaration := hit.kind = .abstractDeclaration } := by
  induction lines with
  | nil => intro number found; contradiction
  | cons line rest ih =>
      intro number found
      rw [definitionIn?] at found
      cases declared : if language.isComment line then none else rules.declaration? line with
      | none =>
          rw [declared] at found
          obtain ⟨index, other, hit, stands, text, hits, rfl⟩ := ih found
          exact ⟨index + 1, other, hit, stands, text, hits, by rw [Nat.add_right_comm, Nat.add_assoc]⟩
      | some hit =>
          rw [declared] at found
          rw [Option.ite_none_left_eq_some, Bool.not_eq_true] at declared
          exact ⟨0, line, hit, rfl, declared.1, declared.2, (Option.some.inj found).symm⟩

theorem not_declared_of_definitionIn? {language : Language} {rules : TargetRules} {name : String}
    {file : SourceFile} {lines : List String} :
    ∀ {number : Nat}, definitionIn? language rules name file number lines = none →
      ∀ line ∈ lines, language.isComment line = false → rules.declaration? line = none := by
  induction lines with
  | nil => intro number _ line member; contradiction
  | cons head rest ih =>
      intro number lacking line member text
      rw [definitionIn?] at lacking
      cases declared : if language.isComment head then none else rules.declaration? head with
      | some hit =>
          rw [declared] at lacking
          contradiction
      | none =>
          rw [declared] at lacking
          rcases List.mem_cons.mp member with rfl | inRest
          · rw [text] at declared
            exact declared
          · exact ih lacking line inRest text

namespace Workspace

variable {workspace : Workspace}

theorem exists_of_definitionAmong? {name : String} {files : List SourceFile} {node : CallNode}
    (searched : workspace.definitionAmong? name files = .ok (some node)) :
    ∃ file ∈ files, ∃ lines rules, workspace.linesAfresh? file.path = some lines ∧
      workspace.rulesAfresh file.language name = .ok rules ∧
      definitionIn? (workspace.registry.language file.language) rules name file 1 lines =
        some node := by
  induction files with
  | nil => cases Except.ok.inj searched
  | cons file rest ih =>
      rw [definitionAmong?] at searched
      cases read : workspace.linesAfresh? file.path with
      | none =>
          rw [read] at searched
          obtain ⟨other, inRest, facts⟩ := ih searched
          exact ⟨other, List.mem_cons_of_mem file inRest, facts⟩
      | some lines =>
          simp only [read] at searched
          obtain ⟨rules, compiled, searched⟩ := bind_eq_ok_iff.mp searched
          cases here : definitionIn? (workspace.registry.language file.language) rules name file 1
              lines with
          | none =>
              rw [here] at searched
              obtain ⟨other, inRest, facts⟩ := ih searched
              exact ⟨other, List.mem_cons_of_mem file inRest, facts⟩
          | some found =>
              rw [here] at searched
              cases Option.some.inj (Except.ok.inj searched)
              exact ⟨file, List.mem_cons_self, lines, rules, read, compiled, here⟩

theorem not_declared_of_definitionAmong? {name : String} {files : List SourceFile}
    (searched : workspace.definitionAmong? name files = .ok none) :
    ∀ file ∈ files, ∀ lines, workspace.linesAfresh? file.path = some lines →
      ∃ rules, workspace.rulesAfresh file.language name = .ok rules ∧
        ∀ line ∈ lines, (workspace.registry.language file.language).isComment line = false →
          rules.declaration? line = none := by
  induction files with
  | nil => intro file member; contradiction
  | cons head rest ih =>
      intro file member lines read
      rw [definitionAmong?] at searched
      cases readHead : workspace.linesAfresh? head.path with
      | none =>
          rw [readHead] at searched
          rcases List.mem_cons.mp member with rfl | inRest
          · rw [readHead] at read
            contradiction
          · exact ih searched file inRest lines read
      | some headLines =>
          simp only [readHead] at searched
          obtain ⟨rules, compiled, searched⟩ := bind_eq_ok_iff.mp searched
          cases here : definitionIn? (workspace.registry.language head.language) rules name head 1
              headLines with
          | some found =>
              rw [here] at searched
              cases Except.ok.inj searched
          | none =>
              rw [here] at searched
              rcases List.mem_cons.mp member with rfl | inRest
              · cases Option.some.inj (readHead.symm.trans read)
                exact ⟨rules, compiled, not_declared_of_definitionIn? here⟩
              · exact ih searched file inRest lines read

theorem exists_of_mem_callersAmongAfresh {name : String} {depth : Nat} {files : List SourceFile}
    {found : List CallNode} (searched : workspace.callersAmongAfresh name depth files = .ok found)
    {caller : CallNode} (member : caller ∈ found) :
    ∃ file ∈ files, ∃ lines rules, workspace.linesAfresh? file.path = some lines ∧
      workspace.rulesAfresh file.language name = .ok rules ∧
      caller ∈ (workspace.registry.language file.language).callersIn rules file lines depth := by
  induction files generalizing found with
  | nil =>
      cases Except.ok.inj searched
      contradiction
  | cons file rest ih =>
      rw [callersAmongAfresh] at searched
      cases read : workspace.linesAfresh? file.path with
      | none =>
          rw [read] at searched
          obtain ⟨other, inRest, facts⟩ := ih searched member
          exact ⟨other, List.mem_cons_of_mem file inRest, facts⟩
      | some lines =>
          simp only [read] at searched
          obtain ⟨rules, compiled, searched⟩ := bind_eq_ok_iff.mp searched
          obtain ⟨further, searchedRest, same⟩ := bind_eq_ok_iff.mp searched
          cases Except.ok.inj same
          rcases List.mem_append.mp member with here | later
          · exact ⟨file, List.mem_cons_self, lines, rules, read, compiled, here⟩
          · obtain ⟨other, inRest, facts⟩ := ih searchedRest later
            exact ⟨other, List.mem_cons_of_mem file inRest, facts⟩

theorem exists_of_mem_callersAfresh {root : Path} {node : CallNode} {found : List CallNode}
    (searched : workspace.callersAfresh root node = .ok found) {caller : CallNode}
    (member : caller ∈ found) :
    ∃ files, workspace.filesAfresh root = .ok files ∧
      ∃ file ∈ files, ∃ lines rules, workspace.linesAfresh? file.path = some lines ∧
        workspace.rulesAfresh file.language node.functionName = .ok rules ∧
        caller ∈ (workspace.registry.language file.language).callersIn rules file lines
          (node.depth + 1) := by
  obtain ⟨files, listed, searched⟩ := bind_eq_ok_iff.mp searched
  obtain ⟨callers, searchedAll, same⟩ := bind_eq_ok_iff.mp searched
  cases Except.ok.inj same
  exact ⟨files, listed, exists_of_mem_callersAmongAfresh searchedAll (mem_distinctBy member)⟩

theorem exists_of_mem_calleesAfresh {options : TraceOptions} {root : Path} {node : CallNode}
    {found : List CallNode} (searched : workspace.calleesAfresh options root node = .ok found)
    {callee : CallNode} (member : callee ∈ found) :
    ∃ lines first rules name definition, workspace.linesAfresh? node.filePath = some lines ∧
      lines[node.line - 1]? = some first ∧
      workspace.rulesAfresh node.language node.functionName = .ok rules ∧
      name ∈ (workspace.registry.language node.language).callsIn
        ((workspace.registry.language node.language).bodyText rules lines options.bodyScanLimit
          (node.line - 1) first) options.includeExternal ∧
      workspace.definitionAfresh? name root = .ok definition ∧
      callee = calleeNode name (node.depth + 1) definition := by
  rw [calleesAfresh] at searched
  split at searched
  · cases Except.ok.inj searched
    contradiction
  · split at searched
    · cases Except.ok.inj searched
      contradiction
    · rename_i lines read
      split at searched
      · cases Except.ok.inj searched
        contradiction
      · rename_i first atLine
        obtain ⟨rules, compiled, searched⟩ := bind_eq_ok_iff.mp searched
        obtain ⟨name, called, resolved⟩ := exists_of_mem_mapM searched member
        obtain ⟨definition, searchedName, same⟩ := bind_eq_ok_iff.mp resolved
        exact ⟨lines, first, rules, name, definition, read, atLine, compiled, called, searchedName,
          (Except.ok.inj same).symm⟩

theorem atDepth_of_mem_neighboursAfresh {options : TraceOptions} {root : Path} {node : CallNode}
    {edge : Edge} {found : List CallNode}
    (searched : workspace.neighboursAfresh options root node edge = .ok found) {child : CallNode}
    (member : child ∈ found) : child.atDepth (node.depth + 1) = child := by
  cases edge with
  | caller =>
      obtain ⟨_, _, _, _, _, _, _, _, inFile⟩ := exists_of_mem_callersAfresh searched member
      obtain ⟨scope, _, rfl⟩ := List.mem_map.mp inFile
      rfl
  | callee =>
      obtain ⟨_, _, _, _, definition, _, _, _, _, _, rfl⟩ := exists_of_mem_calleesAfresh searched member
      cases definition <;> rfl

end Workspace

end Callsite

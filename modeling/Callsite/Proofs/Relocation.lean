import Mathlib.Data.List.Find
import Callsite.Proofs.Mirror
import Callsite.Proofs.PathOrder

set_option autoImplicit false

/-! Corpora moved to another root. When all files below one root are moved to the same places below another
one, searches go the same way: the same files are read in the same order, each at its new path, and the trees
differ in the paths of their functions only. -/

namespace Callsite

/-! ### Nodes at other paths -/

namespace CallNode

variable (move : Path → Path)

mutual

/-- The tree with its functions at other paths. Placeholders have none and stay as they are. -/
def relocate : CallNode → CallNode
  | ⟨name, path, line, signature, language, isAbstract, depth, callers, callees⟩ =>
      let own : CallNode := ⟨name, path, line, signature, language, isAbstract, depth, [], []⟩
      { own with
        filePath := if own.isExternal then path else move path
        callers := relocates callers
        callees := relocates callees }

def relocates : List CallNode → List CallNode
  | [] => []
  | node :: rest => relocate node :: relocates rest

end

theorem relocates_eq (nodes : List CallNode) : relocates move nodes = nodes.map (relocate move) := by
  induction nodes with
  | nil => rfl
  | cons node rest ih => rw [relocates, List.map_cons, ih]

theorem relocate_eq (node : CallNode) :
    node.relocate move = { node with
      filePath := if node.isExternal then node.filePath else move node.filePath
      callers := node.callers.map (relocate move)
      callees := node.callees.map (relocate move) } := by
  rcases node with ⟨name, path, line, signature, language, isAbstract, depth, callers, callees⟩
  rw [← relocates_eq, ← relocates_eq]
  rfl

theorem relocate_placeholder (name : String) (depth : Nat) :
    (placeholder name depth).relocate move = placeholder name depth := by
  rw [relocate_eq, isExternal_placeholder]
  rfl

theorem relocate_atDepth (node : CallNode) (depth : Nat) :
    (node.atDepth depth).relocate move = (node.relocate move).atDepth depth := by
  rw [relocate_eq, relocate_eq]
  rfl

theorem relocate_attach (node : CallNode) (found : List CallNode) (edge : Edge) :
    (Workspace.attach node found edge).relocate move =
      Workspace.attach (node.relocate move) (found.map (relocate move)) edge := by
  rw [relocate_eq, relocate_eq move node]
  cases edge <;> rfl

theorem isExternal_of_line {node : CallNode} (line : node.line ≠ 0) : node.isExternal = false := by
  simp [isExternal, line]

end CallNode

def SourceFile.relocate (move : Path → Path) (file : SourceFile) : SourceFile :=
  { file with path := move file.path }

theorem definitionIn?_relocate (move : Path → Path) (language : Language) (rules : TargetRules)
    (name : String) (file : SourceFile) (lines : List String) :
    ∀ number, number ≠ 0 → definitionIn? language rules name (file.relocate move) number lines =
      (definitionIn? language rules name file number lines).map (CallNode.relocate move) := by
  induction lines with
  | nil => exact fun _ _ => rfl
  | cons line rest ih =>
      intro number counted
      rw [definitionIn?, definitionIn?]
      cases if language.isComment line then none else rules.declaration? line with
      | none => exact ih (number + 1) (Nat.succ_ne_zero number)
      | some hit =>
          dsimp only
          rw [Option.map_some, CallNode.relocate_eq, CallNode.isExternal_of_line counted]
          rfl

theorem Language.callersIn_relocate (move : Path → Path) (language : Language) (rules : TargetRules)
    (file : SourceFile) (lines : List String) (depth : Nat) :
    language.callersIn rules (file.relocate move) lines depth =
      (language.callersIn rules file lines depth).map (CallNode.relocate move) := by
  rw [callersIn, callersIn, List.map_map]
  apply List.map_congr_left
  intro scope member
  have counted : (callerNode file lines depth scope).line ≠ 0 :=
    Nat.ne_of_gt (exists_line_of_mem_callerScopes member).1
  rw [Function.comp_apply, CallNode.relocate_eq, CallNode.isExternal_of_line counted]
  rfl

/-! ### Workspaces and sessions -/

/-- The right workspace lists below `place` the files that the left one lists below `root`, each at its new
path and with its old text. -/
structure Workspace.Relocates (left right : Workspace) (root place : Path) (move : Path → Path)
    (files : List SourceFile) : Prop where
  registry : left.registry = right.registry
  listing : left.corpus.list root left.filter = .ok files
  moved : right.corpus.list place right.filter = .ok (files.map (SourceFile.relocate move))
  texts : ∀ file ∈ files, right.corpus.read? (move file.path) = left.corpus.read? file.path
  places : ∀ file ∈ files, ∀ other ∈ files,
    (move file.path).parts = (move other.path).parts ↔ file.path.parts = other.path.parts

/-- The same function before and after the files are moved, on a line of one of them unless it is a
placeholder. -/
def CallNode.Moved (move : Path → Path) (files : List SourceFile) (node other : CallNode) : Prop :=
  other = node.relocate move ∧
    (node.isExternal = false → node.line ≠ 0 ∧ ∃ file ∈ files, node.filePath = file.path)

/-- Two sessions that remember the same of the files before and after the move. -/
structure Session.Relocates (root place : Path) (move : Path → Path) (files : List SourceFile)
    (session other : Session) : Prop where
  definitions : ∀ name, Option.Rel (Option.Rel (CallNode.Moved move files))
    (session.definitions.get? name root) (other.definitions.get? name place)
  rules : session.rules = other.rules
  listings : Option.Rel (fun found more => found = files ∧ more = files.map (SourceFile.relocate move))
    (session.listings.find? root.parts) (other.listings.find? place.parts)
  sources : ∀ file ∈ files,
    other.sources.find? (move file.path).parts = session.sources.find? file.path.parts
  reads : other.reads = session.reads.map move

theorem Session.relocates_empty (root place : Path) (move : Path → Path) (files : List SourceFile) :
    Session.Relocates root place move files {} {} :=
  ⟨fun _ => .none, rfl, .none, fun _ _ => rfl, rfl⟩

namespace CallNode.Moved

variable {move : Path → Path} {files : List SourceFile} {node other : CallNode}

theorem of_placed (file : SourceFile) (member : file ∈ files) (line : node.line ≠ 0)
    (path : node.filePath = file.path) : Moved move files node (node.relocate move) :=
  ⟨rfl, fun _ => ⟨line, file, member, path⟩⟩

theorem placeholder (name : String) (depth : Nat) :
    Moved move files (.placeholder name depth) (.placeholder name depth) := by
  refine ⟨(relocate_placeholder move name depth).symm, fun own => ?_⟩
  rw [isExternal_placeholder] at own
  cases own

theorem atDepth (moved : Moved move files node other) (depth : Nat) :
    Moved move files (node.atDepth depth) (other.atDepth depth) := by
  obtain ⟨rfl, placed⟩ := moved
  exact ⟨(relocate_atDepth move node depth).symm, placed⟩

theorem isExternal_eq (moved : Moved move files node other) : node.isExternal = other.isExternal := by
  obtain ⟨rfl, placed⟩ := moved
  cases own : node.isExternal with
  | true =>
      rw [relocate_eq, own]
      exact own.symm
  | false =>
      -- A file may be moved to the very path that placeholders have. The line tells them apart.
      have counted : (node.relocate move).line ≠ 0 := by
        rw [relocate_eq]
        exact (placed own).1
      exact (isExternal_of_line counted).symm

theorem exists_file (moved : Moved move files node other) (own : node.isExternal = false) :
    ∃ file ∈ files, node.filePath = file.path ∧ other.filePath = move file.path ∧
      other.functionName = node.functionName := by
  obtain ⟨rfl, placed⟩ := moved
  obtain ⟨_, file, member, path⟩ := placed own
  refine ⟨file, member, path, ?_⟩
  rw [relocate_eq, own, ← path]
  exact ⟨rfl, rfl⟩

theorem eq_map {nodes others : List CallNode} (moved : List.Forall₂ (Moved move files) nodes others) :
    others = nodes.map (relocate move) := by
  induction moved with
  | nil => rfl
  | cons here _ ih => rw [List.map_cons, ← here.1, ← ih]

theorem attach {found more : List CallNode} (moved : Moved move files node other)
    (related : List.Forall₂ (Moved move files) found more) (edge : Edge) :
    Moved move files (Workspace.attach node found edge) (Workspace.attach other more edge) := by
  obtain ⟨rfl, placed⟩ := moved
  rw [eq_map related, ← relocate_attach]
  refine ⟨rfl, ?_⟩
  cases edge <;> exact placed

end CallNode.Moved

namespace Workspace

variable {left right : Workspace} {root place : Path} {move : Path → Path} {listing : List SourceFile}
  (relocates : left.Relocates right root place move listing)

include relocates

theorem growsAlike_moved : GrowsAlike (CallNode.Moved move listing) where
  isExternal moved := moved.isExternal_eq
  key := by
    intro node other next further moved movedNext own ownNext
    obtain ⟨file, member, path, pathToo, name⟩ := moved.exists_file own
    obtain ⟨more, memberNext, pathNext, pathNextToo, nameNext⟩ := movedNext.exists_file ownNext
    have places := relocates.places file member more memberNext
    rw [CallNode.key, CallNode.key, CallNode.key, CallNode.key, Prod.mk.injEq, Prod.mk.injEq, path,
      pathToo, name, pathNext, pathNextToo, nameNext, places]
  attach edge moved related := moved.attach related edge

/-! ### Lookups -/

theorem files_relocate :
    Couples (Session.Relocates root place move listing) (left.files root) (right.files place)
      fun files others => files = listing ∧ others = listing.map (SourceFile.relocate move) := by
  intro session other same
  have known := same.listings
  rw [outcome_files, outcome_files, relocates.listing, relocates.moved]
  cases here : session.listings.find? root.parts with
  | some files =>
      cases there : other.listings.find? place.parts with
      | none =>
          rw [here, there] at known
          cases known
      | some others =>
          rw [here, there] at known
          cases known with
          | some both => exact ⟨.ok both, same⟩
  | none =>
      cases there : other.listings.find? place.parts with
      | some others =>
          rw [here, there] at known
          cases known
      | none =>
          refine ⟨.ok ⟨rfl, rfl⟩, { same with listings := ?_ }⟩
          dsimp only
          rw [Memo.find?_insert, Memo.find?_insert, if_pos rfl, if_pos rfl]
          exact .some ⟨rfl, rfl⟩

theorem lines?_relocate {file : SourceFile} (member : file ∈ listing) :
    Couples (Session.Relocates root place move listing) (left.lines? file.path)
      (right.lines? (move file.path)) Eq := by
  intro session other same
  rw [outcome_lines?, outcome_lines?, same.sources file member, relocates.texts file member]
  cases session.sources.find? file.path.parts with
  | some lines => exact ⟨.ok rfl, same⟩
  | none =>
      refine ⟨.ok rfl, { same with sources := fun next among => ?_, reads := ?_ }⟩
      · have places := relocates.places next among file member
        simp only [Memo.find?_insert, same.sources next among, places]
      · show other.reads ++ [move file.path] = (session.reads ++ [file.path]).map move
        rw [same.reads, List.map_append, List.map_singleton]

theorem rulesFor_relocate (language name : String) :
    Couples (Session.Relocates root place move listing) (left.rulesFor language name)
      (right.rulesFor language name) Eq := by
  intro session other same
  rw [outcome_rulesFor, outcome_rulesFor, ← same.rules, ← relocates.registry]
  cases session.rules.find? (language, name) with
  | some rules => exact ⟨.ok rfl, same⟩
  | none =>
      cases (left.registry.language language).rulesFor name with
      | error fault => exact ⟨.error _, same⟩
      | ok rules => exact ⟨.ok rfl, { same with rules := rfl }⟩

/-! ### Definitions -/

theorem firstDefinition?_relocate (name : String) {files : List SourceFile} (among : files ⊆ listing) :
    Couples (Session.Relocates root place move listing) (left.firstDefinition? name files)
      (right.firstDefinition? name (files.map (SourceFile.relocate move)))
      (Option.Rel (CallNode.Moved move listing)) := by
  induction files with
  | nil => exact Couples.pure .none
  | cons file rest ih =>
      obtain ⟨member, later⟩ := List.cons_subset.mp among
      have further := ih later
      rw [List.map_cons, firstDefinition?, firstDefinition?]
      apply (lines?_relocate relocates member).bind
      rintro lines _ rfl
      cases lines with
      | none => exact further
      | some lines =>
          apply (rulesFor_relocate relocates file.language name).bind
          rintro rules _ rfl
          have found : definitionIn? (right.registry.language (file.relocate move).language) rules name
              (file.relocate move) 1 lines =
                (definitionIn? (left.registry.language file.language) rules name file 1 lines).map
                  (CallNode.relocate move) := by
            rw [← relocates.registry]
            exact definitionIn?_relocate move _ rules name file lines 1 Nat.one_ne_zero
          rw [found]
          cases declared : definitionIn? (left.registry.language file.language) rules name file 1 lines with
          | none => exact further
          | some node =>
              obtain ⟨index, _, _, _, _, _, rfl⟩ := exists_of_definitionIn? declared
              apply Couples.pure
              apply Option.Rel.some
              apply CallNode.Moved.of_placed file member
              · exact Nat.ne_of_gt (Nat.add_pos_left Nat.one_pos index)
              · rfl

theorem searchDefinition?_relocate (name : String) :
    Couples (Session.Relocates root place move listing) (left.searchDefinition? name root)
      (right.searchDefinition? name place) (Option.Rel (CallNode.Moved move listing)) := by
  apply (files_relocate relocates).bind
  rintro _ _ ⟨rfl, rfl⟩
  exact firstDefinition?_relocate relocates name (List.Subset.refl _)

theorem definition?_relocate (name : String) :
    Couples (Session.Relocates root place move listing) (left.definition? name root)
      (right.definition? name place) (Option.Rel (CallNode.Moved move listing)) := by
  intro session other same
  obtain ⟨matched, between⟩ := searchDefinition?_relocate relocates name session other same
  have known := same.definitions name
  rw [outcome_definition?, outcome_definition?]
  generalize session.definitions.get? name root = here at known ⊢
  generalize other.definitions.get? name place = there at known ⊢
  cases known with
  | some found => exact ⟨.ok found, same⟩
  | none =>
      generalize outcome (left.searchDefinition? name root) session = first at matched between ⊢
      generalize outcome (right.searchDefinition? name place) other = second at matched between ⊢
      rcases first with ⟨result, after⟩
      rcases second with ⟨opposite, later⟩
      cases matched with
      | error failure => exact ⟨.error failure, between⟩
      | ok found =>
          refine ⟨.ok found, { between with definitions := fun next => ?_ }⟩
          dsimp only
          rw [DefinitionCache.get?_put, DefinitionCache.get?_put]
          by_cases here : next = name
          · rw [here, if_pos rfl, if_pos rfl]
            exact .some found
          · rw [if_neg fun both => here (congrArg Prod.fst both),
              if_neg fun both => here (congrArg Prod.fst both)]
            exact between.definitions next

/-! ### Callers -/

theorem callersAmong_relocate (name : String) (depth : Nat) {files : List SourceFile}
    (among : files ⊆ listing) :
    Couples (Session.Relocates root place move listing) (left.callersAmong name depth files)
      (right.callersAmong name depth (files.map (SourceFile.relocate move)))
      (List.Forall₂ fun node other => CallNode.Moved move listing node other ∧ node.isExternal = false) := by
  induction files with
  | nil => exact Couples.pure .nil
  | cons file rest ih =>
      obtain ⟨member, later⟩ := List.cons_subset.mp among
      have further := ih later
      rw [List.map_cons, callersAmong, callersAmong]
      apply (lines?_relocate relocates member).bind
      rintro lines _ rfl
      cases lines with
      | none => exact further
      | some lines =>
          apply (rulesFor_relocate relocates file.language name).bind
          rintro rules _ rfl
          apply further.bind
          intro more others follow
          apply Couples.pure
          have found : (right.registry.language (file.relocate move).language).callersIn rules
              (file.relocate move) lines depth =
                ((left.registry.language file.language).callersIn rules file lines depth).map
                  (CallNode.relocate move) := by
            rw [← relocates.registry]
            exact Language.callersIn_relocate move _ rules file lines depth
          rw [found]
          apply List.rel_append _ follow
          rw [List.forall₂_map_right_iff, List.forall₂_same]
          intro node inFile
          obtain ⟨scope, inScopes, rfl⟩ := List.mem_map.mp inFile
          have counted : (Language.callerNode file lines depth scope).line ≠ 0 :=
            Nat.ne_of_gt (Language.exists_line_of_mem_callerScopes inScopes).1
          exact ⟨CallNode.Moved.of_placed file member counted rfl, CallNode.isExternal_of_line counted⟩

theorem callers_relocate {node other : CallNode} (moved : CallNode.Moved move listing node other)
    (own : node.isExternal = false) :
    Couples (Session.Relocates root place move listing) (left.callers root node)
      (right.callers place other) (List.Forall₂ (CallNode.Moved move listing)) := by
  obtain ⟨_, _, _, _, name⟩ := moved.exists_file own
  have depth : other.depth = node.depth := by
    rw [moved.1, CallNode.relocate_eq]
  rw [callers, callers, name, depth]
  apply (files_relocate relocates).bind
  rintro _ _ ⟨rfl, rfl⟩
  apply (callersAmong_relocate relocates node.functionName (node.depth + 1) (List.Subset.refl _)).bind
  intro found more related
  apply Couples.pure
  have once := (growsAlike_moved relocates).forall₂_distinctBy related .nil
  exact once.imp fun _ _ both => both.1

/-! ### Callees -/

theorem calleesNamed_relocate (depth : Nat) (names : List String) :
    Couples (Session.Relocates root place move listing) (left.calleesNamed root depth names)
      (right.calleesNamed place depth names) (List.Forall₂ (CallNode.Moved move listing)) := by
  induction names with
  | nil => exact Couples.pure .nil
  | cons name rest ih =>
      apply (definition?_relocate relocates name).bind
      intro found other related
      apply ih.bind
      intro further more follow
      apply Couples.pure
      cases related with
      | none => exact .cons (CallNode.Moved.placeholder name depth) follow
      | some moved => exact .cons (moved.atDepth depth) follow

theorem callees_relocate (options : TraceOptions) {node other : CallNode}
    (moved : CallNode.Moved move listing node other) (own : node.isExternal = false) :
    Couples (Session.Relocates root place move listing) (left.callees options root node)
      (right.callees options place other) (List.Forall₂ (CallNode.Moved move listing)) := by
  obtain ⟨file, member, path, pathToo, name⟩ := moved.exists_file own
  have same : other.abstractDeclaration = node.abstractDeclaration ∧ other.line = node.line ∧
      other.language = node.language ∧ other.depth = node.depth := by
    rw [moved.1, CallNode.relocate_eq]
    exact ⟨rfl, rfl, rfl, rfl⟩
  obtain ⟨declaration, line, language, depth⟩ := same
  rw [callees, callees, declaration, line, language, depth, name, path, pathToo]
  cases node.abstractDeclaration with
  | true => exact Couples.pure .nil
  | false =>
      apply (lines?_relocate relocates member).bind
      rintro lines _ rfl
      cases lines with
      | none => exact Couples.pure .nil
      | some lines =>
          dsimp only
          cases lines[node.line - 1]? with
          | none => exact Couples.pure .nil
          | some first =>
              apply (rulesFor_relocate relocates node.language node.functionName).bind
              rintro rules _ rfl
              rw [← relocates.registry]
              exact calleesNamed_relocate relocates (node.depth + 1) _

/-! ### Traces -/

theorem neighbours_relocate (options : TraceOptions) (edge : Edge) {node other : CallNode}
    (moved : CallNode.Moved move listing node other) (own : node.isExternal = false) :
    Couples (Session.Relocates root place move listing) (left.neighbours options root node edge)
      (right.neighbours options place other edge) (List.Forall₂ (CallNode.Moved move listing)) := by
  cases edge with
  | caller => exact callers_relocate relocates moved own
  | callee => exact callees_relocate relocates options moved own

end Workspace

def TraceOutput.relocate (move : Path → Path) (output : TraceOutput) : TraceOutput :=
  { output with root := output.root.map (CallNode.relocate move) }

theorem TraceOutput.Related.eq_relocate {move : Path → Path} {files : List SourceFile}
    {output other : TraceOutput} (related : Related (CallNode.Moved move files) output other) :
    other = output.relocate move := by
  rcases output with ⟨root, truncated, expansions⟩
  rcases other with ⟨_, _, _⟩
  obtain ⟨trees, rfl, rfl⟩ := related
  cases trees with
  | none => rfl
  | some moved =>
      rw [moved.1]
      rfl

namespace Workspace

variable {left right : Workspace} {root place : Path} {move : Path → Path} {listing : List SourceFile}

theorem trace_relocate (relocates : left.Relocates right root place move listing)
    (options : TraceOptions) (name : String) :
    (outcome (right.trace options place name) {}).1 =
        (outcome (left.trace options root name) {}).1.map (TraceOutput.relocate move) ∧
      (outcome (right.trace options place name) {}).2.session.reads =
        (outcome (left.trace options root name) {}).2.session.reads.map move := by
  have definitions : Couples (Session.Relocates root place move listing) (left.definition? name root)
      (right.definition? name place)
      (Option.Rel fun node other => CallNode.Moved move listing (node.atDepth 0) (other.atDepth 0)) := by
    apply (definition?_relocate relocates name).imp
    intro found other related
    cases related with
    | none => exact .none
    | some moved => exact .some (moved.atDepth 0)
  have traced := trace_couples (growsAlike_moved relocates) definitions
    fun edge _ node other moved own => neighbours_relocate relocates options edge moved own
  obtain ⟨matched, after⟩ := traced {} {} ⟨Session.relocates_empty root place move listing, rfl, rfl⟩
  refine ⟨?_, after.session.reads⟩
  generalize (outcome (left.trace options root name) {}).1 = result at matched ⊢
  generalize (outcome (right.trace options place name) {}).1 = opposite at matched ⊢
  cases matched with
  | error failure => rfl
  | ok related => exact congrArg Except.ok related.eq_relocate

end Workspace

/-! ### Corpora in memory -/

def StoredFile.relocate (move : Path → Path) (file : StoredFile) : StoredFile :=
  { file with path := move file.path }

namespace MemoryCorpus

def Listable (corpus : MemoryCorpus) (root : Path) : Prop :=
  ∀ place ∈ corpus.unlistable, place.same root = false

def admitted (corpus : MemoryCorpus) (filter : LanguageFilter) : List SourceFile :=
  (corpus.files.filter fun file => filter.allows file.language).map fun file =>
    ⟨file.path, file.language⟩

theorem exists_of_mem_admitted {corpus : MemoryCorpus} {filter : LanguageFilter} {file : SourceFile}
    (member : file ∈ corpus.admitted filter) : ∃ stored ∈ corpus.files, stored.path = file.path := by
  obtain ⟨stored, inFilter, rfl⟩ := List.mem_map.mp member
  exact ⟨stored, (List.mem_filter.mp inFilter).1, rfl⟩

theorem list_of_listable {corpus : MemoryCorpus} {root : Path} (listable : corpus.Listable root)
    (below : ∀ file ∈ corpus.files, file.path.isUnder root = true) (filter : LanguageFilter) :
    corpus.list root filter = .ok (corpus.admitted filter) := by
  have none : corpus.unlistable.find? (·.same root) = none :=
    List.find?_eq_none.mpr fun place member => ne_true_of_eq_false (listable place member)
  have among : (corpus.files.filter fun file => file.path.isUnder root && filter.allows file.language) =
      corpus.files.filter fun file => filter.allows file.language := by
    apply List.filter_congr
    intro file member
    rw [below file member, Bool.true_and]
  rw [list, none, among]
  rfl

section

variable {left right : MemoryCorpus} {root place : Path} {move : Path → Path}
  (corresponds : ∀ file ∈ left.files, Path.Corresponds root place file.path (move file.path))

include corresponds

theorem files_eq_of_moved (ordered : left.Ordered) (orderedToo : right.Ordered)
    (moved : right.files.Perm (left.files.map (StoredFile.relocate move))) :
    right.files = left.files.map (StoredFile.relocate move) := by
  have kept : Ordered { left with files := left.files.map (StoredFile.relocate move) } := by
    apply List.pairwise_map.mpr
    apply ordered.imp_of_mem
    intro file next member memberNext before
    exact ((corresponds file member).compare_eq (corresponds next memberNext)).trans before
  exact orderedToo.files_eq kept moved

theorem find?_relocate (files : right.files = left.files.map (StoredFile.relocate move))
    {file : StoredFile} (member : file ∈ left.files) :
    right.find? (move file.path) = (left.find? file.path).map (StoredFile.relocate move) := by
  rw [find?, find?, files, List.find?_map]
  have same : left.files.find? ((fun next => next.path.same (move file.path)) ∘
      StoredFile.relocate move) = left.files.find? fun next => next.path.same file.path := by
    apply List.find?_congr
    intro next memberNext
    have parts := (corresponds next memberNext).parts_eq_iff (corresponds file member)
    exact decide_eq_decide.mpr parts
  rw [same]

theorem relocates_of_moved (registry : Registry) (filter : LanguageFilter)
    (files : right.files = left.files.map (StoredFile.relocate move)) (listable : left.Listable root)
    (listableToo : right.Listable place) :
    Workspace.Relocates ⟨left.toCorpus, registry, filter⟩ ⟨right.toCorpus, registry, filter⟩ root place
      move (left.admitted filter) := by
  constructor
  · rfl
  · exact list_of_listable listable (fun file member => (corresponds file member).isUnder.1) filter
  · have below : ∀ file ∈ right.files, file.path.isUnder place = true := by
      intro file member
      rw [files] at member
      obtain ⟨source, inLeft, rfl⟩ := List.mem_map.mp member
      exact (corresponds source inLeft).isUnder.2
    have moved : right.admitted filter = (left.admitted filter).map (SourceFile.relocate move) := by
      rw [admitted, admitted, files, List.filter_map, List.map_map, List.map_map]
      rfl
    rw [← moved]
    exact list_of_listable listableToo below filter
  · intro file member
    obtain ⟨stored, inLeft, same⟩ := exists_of_mem_admitted member
    show (right.find? (move file.path)).bind StoredFile.content =
      (left.find? file.path).bind StoredFile.content
    rw [← same, find?_relocate corresponds files inLeft]
    cases left.find? stored.path <;> rfl
  · intro file member other memberToo
    obtain ⟨stored, inLeft, same⟩ := exists_of_mem_admitted member
    obtain ⟨storedToo, inLeftToo, sameToo⟩ := exists_of_mem_admitted memberToo
    rw [← same, ← sameToo]
    exact (corresponds stored inLeft).parts_eq_iff (corresponds storedToo inLeftToo)

end

/-- Where a tree of files lives does not matter. If the files of a corpus all lie below one root, and are
moved to the same places below another root, a trace comes to the same there with the paths of the moved
files in the tree, and reads the same files in the same order at their new paths. -/
theorem trace_relocated (registry : Registry) (filter : LanguageFilter) {left right : MemoryCorpus}
    (ordered : left.Ordered) (orderedToo : right.Ordered) {root place : Path} {move : Path → Path}
    (corresponds : ∀ file ∈ left.files, Path.Corresponds root place file.path (move file.path))
    (moved : right.files.Perm (left.files.map (StoredFile.relocate move)))
    (listable : left.Listable root) (listableToo : right.Listable place) (options : TraceOptions)
    (name : String) :
    (outcome (Workspace.trace ⟨right.toCorpus, registry, filter⟩ options place name) {}).1 =
        (outcome (Workspace.trace ⟨left.toCorpus, registry, filter⟩ options root name) {}).1.map
          (TraceOutput.relocate move) ∧
      (outcome (Workspace.trace ⟨right.toCorpus, registry, filter⟩ options place name)
          {}).2.session.reads =
        (outcome (Workspace.trace ⟨left.toCorpus, registry, filter⟩ options root name)
          {}).2.session.reads.map move := by
  have files := files_eq_of_moved corresponds ordered orderedToo moved
  have relocates := relocates_of_moved corresponds registry filter files listable listableToo
  exact Workspace.trace_relocate relocates options name

end MemoryCorpus

namespace Scripts

/-- Takes what is below `src` to below `vendor/tool`. -/
def vendored (path : Path) : Path :=
  ⟨"vendor/tool" ++ String.ofList (path.text.toList.drop 3)⟩

def elsewhere : MemoryCorpus where
  files := below.files.map (StoredFile.relocate vendored)

theorem trace_elsewhere :
    (outcome (Workspace.trace ⟨elsewhere.toCorpus, Shipped.registry, ⟨["python"]⟩⟩ {}
        ⟨"vendor/tool"⟩ "f") {}).1 =
        (outcome (Workspace.trace ⟨below.toCorpus, Shipped.registry, ⟨["python"]⟩⟩ {} ⟨"src"⟩ "f")
          {}).1.map (TraceOutput.relocate vendored) ∧
      (outcome (Workspace.trace ⟨elsewhere.toCorpus, Shipped.registry, ⟨["python"]⟩⟩ {}
        ⟨"vendor/tool"⟩ "f") {}).2.session.reads =
          [⟨"vendor/tool/a.py"⟩, ⟨"vendor/tool/b.py"⟩] := by
  have ordered : below.Ordered ∧ elsewhere.Ordered := by
    unfold MemoryCorpus.Ordered
    decide +kernel
  have corresponds : ∀ file ∈ below.files,
      Path.Corresponds ⟨"src"⟩ ⟨"vendor/tool"⟩ file.path (vendored file.path) := by
    have written : ∀ file ∈ below.files, ∃ rest ∈ ["a.py", "b.py"],
        rest.toList.head? ≠ some '/' ∧ file.path = (⟨"src"⟩ : Path).join rest ∧
          vendored file.path = (⟨"vendor/tool"⟩ : Path).join rest := by
      decide +kernel
    intro file member
    obtain ⟨rest, _, relative, path, moved⟩ := written file member
    rw [moved, path]
    exact Path.corresponds_join (by decide) (by decide) relative
  have same := MemoryCorpus.trace_relocated Shipped.registry ⟨["python"]⟩ ordered.1 ordered.2
    corresponds (List.Perm.refl _) nofun nofun {} "f"
  refine ⟨same.1, ?_⟩
  rw [same.2, reads_below]
  decide +kernel

end Scripts

end Callsite

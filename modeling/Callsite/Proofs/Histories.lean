import Mathlib.Data.List.Nodup
import Callsite.Proofs.CallTree

set_option autoImplicit false

/-! Histories of a session: any queries put to it one after another, while the corpus may change between two
of them. Over a corpus that stays as it is, memory does not show: each query comes to what it comes to in a
fresh session. Over one that changes, a session keeps to what it saw first: it reads no file twice, lists no
root twice with success, and never looks for a definition again. -/

namespace Callsite

inductive Query where
  | definition (name : String) (root : Path)
  | files (root : Path)
  | lines (path : Path)
  | rules (language name : String)

inductive Answer where
  | definition (found : Option CallNode)
  | files (files : List SourceFile)
  | lines (lines : Option (List String))
  | rules (rules : TargetRules)

def Workspace.ask (workspace : Workspace) : Query → Lookup Answer
  | .definition name root => do return .definition (← workspace.definition? name root)
  | .files root => do return .files (← workspace.files root)
  | .lines path => do return .lines (← workspace.lines? path)
  | .rules language name => do return .rules (← workspace.rulesFor language name)

/-- A query is put to the session, or the corpus becomes another one: files come or go, other roots can be
listed. -/
inductive Event where
  | ask (query : Query)
  | change (corpus : Corpus)

/-- A query that was put to a session, with the corpus of that time and what came of it. -/
structure Exchange where
  query : Query
  corpus : Corpus
  before : Session
  result : Except Failure Answer
  after : Session

namespace Exchange

def reads (exchange : Exchange) : List Path :=
  exchange.after.reads.drop exchange.before.reads.length

/-- The roots listed on behalf of the query, those left out that could not be listed. -/
def listed (filter : LanguageFilter) (exchange : Exchange) : List Path :=
  (exchange.after.listed.drop exchange.before.listed.length).filter fun root =>
    (exchange.corpus.list root filter).isOk

/-- Whether an exchange gives back, with nothing read or listed, the definition or the lack of one that an
earlier exchange came to. -/
def Repeats (earlier later : Exchange) : Prop :=
  ∀ name root place definition, earlier.query = .definition name root →
    earlier.result = .ok (.definition definition) → later.query = .definition name place →
      place.parts = root.parts → later.result = .ok (.definition definition) ∧ later.after = later.before

end Exchange

namespace Workspace

def history (workspace : Workspace) (session : Session) : List Event → List Exchange
  | [] => []
  | .change corpus :: rest => history { workspace with corpus := corpus } session rest
  | .ask query :: rest =>
      let came := outcome (workspace.ask query) session
      ⟨query, workspace.corpus, session, came.1, came.2⟩ :: workspace.history came.2 rest

theorem outcome_of_mem_history {events : List Event} {exchange : Exchange} :
    ∀ (workspace : Workspace) {session : Session}, exchange ∈ workspace.history session events →
      outcome (ask { workspace with corpus := exchange.corpus } exchange.query) exchange.before =
        (exchange.result, exchange.after) := by
  induction events with
  | nil => intro _ _ member; cases member
  | cons event rest ih =>
      intro workspace session member
      cases event with
      | change corpus =>
          rw [history] at member
          exact ih { workspace with corpus := corpus } member
      | ask query =>
          rcases List.mem_cons.mp member with rfl | later
          · rfl
          · exact ih workspace later

end Workspace

/-! ### Memory that grows -/

namespace Memo

variable {κ ν : Type} [DecidableEq κ] {before middle after : Memo κ ν} {keys more : List κ}

/-- What was known stays known, and the further `keys` are known now, none of them twice. -/
structure Learns (before after : Memo κ ν) (keys : List κ) : Prop where
  keeps : ∀ key value, before.find? key = some value → after.find? key = some value
  unknown : ∀ key ∈ keys, before.find? key = none
  known : ∀ key ∈ keys, (after.find? key).isSome
  distinct : keys.Nodup

namespace Learns

theorem refl (memo : Memo κ ν) : memo.Learns memo [] :=
  ⟨fun _ _ known => known, nofun, nofun, List.nodup_nil⟩

theorem insert {memo : Memo κ ν} {key : κ} (unknown : memo.find? key = none) (value : ν) :
    memo.Learns (memo.insert key value) [key] := by
  constructor
  · intro other found known
    have different : other ≠ key := by
      rintro rfl
      rw [unknown] at known
      cases known
    rw [find?_insert, if_neg different, known]
  · intro other member
    rw [List.mem_singleton.mp member, unknown]
  · intro other member
    rw [List.mem_singleton.mp member, find?_insert, if_pos rfl]
    rfl
  · exact List.nodup_singleton key

theorem trans (first : before.Learns middle keys) (second : middle.Learns after more) :
    before.Learns after (keys ++ more) := by
  have unknown (key : κ) (member : key ∈ more) : before.find? key = none := by
    cases found : before.find? key with
    | none => rfl
    | some value =>
        have later := second.unknown key member
        rw [first.keeps key value found] at later
        cases later
  constructor
  · intro key value known
    exact second.keeps key value (first.keeps key value known)
  · intro key member
    rcases List.mem_append.mp member with here | later
    · exact first.unknown key here
    · exact unknown key later
  · intro key member
    rcases List.mem_append.mp member with here | later
    · obtain ⟨value, found⟩ := Option.isSome_iff_exists.mp (first.known key here)
      rw [second.keeps key value found]
      rfl
    · exact second.known key later
  · apply List.nodup_append.mpr
    refine ⟨first.distinct, second.distinct, ?_⟩
    rintro key here _ later rfl
    have known := first.known key here
    rw [second.unknown key later] at known
    cases known

end Learns

end Memo

/-- A session after it has read further `paths` and tried to list further `roots`. -/
structure Session.Grows (workspace : Workspace) (paths roots : List Path) (before after : Session) :
    Prop where
  reads : after.reads = before.reads ++ paths
  sources : before.sources.Learns after.sources (paths.map Path.parts)
  listed : after.listed = before.listed ++ roots
  listings : before.listings.Learns after.listings
    ((roots.filter fun root => (workspace.corpus.list root workspace.filter).isOk).map Path.parts)
  definitions : ∃ keys, before.definitions.Learns after.definitions keys

namespace Session.Grows

variable {workspace : Workspace} {before middle after : Session} {paths roots more further : List Path}

theorem refl (workspace : Workspace) (session : Session) : Grows workspace [] [] session session where
  reads := (List.append_nil _).symm
  sources := Memo.Learns.refl _
  listed := (List.append_nil _).symm
  listings := Memo.Learns.refl _
  definitions := ⟨[], Memo.Learns.refl _⟩

theorem trans (first : Grows workspace paths roots before middle)
    (second : Grows workspace more further middle after) :
    Grows workspace (paths ++ more) (roots ++ further) before after := by
  obtain ⟨keys, remembered⟩ := first.definitions
  obtain ⟨keysToo, rememberedToo⟩ := second.definitions
  constructor
  · rw [second.reads, first.reads, List.append_assoc]
  · rw [List.map_append]
    exact first.sources.trans second.sources
  · rw [second.listed, first.listed, List.append_assoc]
  · rw [List.filter_append, List.map_append]
    exact first.listings.trans second.listings
  · exact ⟨keys ++ keysToo, remembered.trans rememberedToo⟩

end Session.Grows

/-- Lookups after which a session has grown, but remembers no further definitions. -/
def Explores {α : Type} (workspace : Workspace) (action : Lookup α) : Prop :=
  ∀ session, ∃ paths roots, Session.Grows workspace paths roots session (outcome action session).2 ∧
    (outcome action session).2.definitions = session.definitions

namespace Explores

variable {α β : Type} {workspace : Workspace}

theorem pure (value : α) : Explores workspace (pure value) :=
  fun session => ⟨[], [], Session.Grows.refl workspace session, rfl⟩

theorem bind {action : Lookup α} {next : α → Lookup β} (first : Explores workspace action)
    (second : ∀ value, Explores workspace (next value)) : Explores workspace (action >>= next) := by
  intro session
  obtain ⟨paths, roots, grown, same⟩ := first session
  rw [outcome_bind]
  rcases step : outcome action session with ⟨failure | value, middle⟩ <;> rw [step] at grown same
  · exact ⟨paths, roots, grown, same⟩
  · obtain ⟨more, further, grownToo, sameToo⟩ := second value middle
    exact ⟨paths ++ more, roots ++ further, grown.trans grownToo, sameToo.trans same⟩

end Explores

namespace Workspace

variable (workspace : Workspace)

theorem files_explores (root : Path) : Explores workspace (workspace.files root) := by
  intro session
  rw [outcome_files]
  cases known : session.listings.find? root.parts with
  | some files => exact ⟨[], [], Session.Grows.refl workspace session, rfl⟩
  | none =>
      cases listing : workspace.corpus.list root workspace.filter with
      | error failure =>
          refine ⟨[], [root], { Session.Grows.refl workspace session with listed := rfl, listings := ?_ }, rfl⟩
          rw [List.filter_singleton, listing]
          exact Memo.Learns.refl _
      | ok files =>
          refine ⟨[], [root], { Session.Grows.refl workspace session with listed := rfl, listings := ?_ }, rfl⟩
          rw [List.filter_singleton, listing]
          exact Memo.Learns.insert known files

theorem lines?_explores (path : Path) : Explores workspace (workspace.lines? path) := by
  intro session
  rw [outcome_lines?]
  cases known : session.sources.find? path.parts with
  | some lines => exact ⟨[], [], Session.Grows.refl workspace session, rfl⟩
  | none =>
      have learned := Memo.Learns.insert known ((workspace.corpus.read? path).map Text.lines)
      exact ⟨[path], [], { Session.Grows.refl workspace session with reads := rfl, sources := learned }, rfl⟩

theorem rulesFor_explores (language name : String) :
    Explores workspace (workspace.rulesFor language name) := by
  intro session
  have still := Session.Grows.refl workspace session
  rw [outcome_rulesFor]
  cases session.rules.find? (language, name) with
  | some rules => exact ⟨[], [], still, rfl⟩
  | none =>
      cases (workspace.registry.language language).rulesFor name with
      | error fault => exact ⟨[], [], still, rfl⟩
      | ok rules => exact ⟨[], [], { still with }, rfl⟩

theorem firstDefinition?_explores (name : String) (files : List SourceFile) :
    Explores workspace (workspace.firstDefinition? name files) := by
  induction files with
  | nil => exact Explores.pure none
  | cons file rest ih =>
      apply (lines?_explores workspace file.path).bind
      intro lines
      cases lines with
      | none => exact ih
      | some lines =>
          apply (rulesFor_explores workspace file.language name).bind
          intro rules
          cases definitionIn? (workspace.registry.language file.language) rules name file 1 lines with
          | some node => exact Explores.pure (some node)
          | none => exact ih

theorem searchDefinition?_explores (name : String) (root : Path) :
    Explores workspace (workspace.searchDefinition? name root) :=
  (files_explores workspace root).bind (firstDefinition?_explores workspace name)

/-! ### One query -/

theorem definition?_of_remembered {session : Session} {name : String} {root : Path}
    {definition : Option CallNode} (remembered : session.definitions.get? name root = some definition) :
    outcome (workspace.definition? name root) session = (.ok definition, session) := by
  rw [outcome_definition?, remembered]

theorem definition?_remembers {session after : Session} {name : String} {root : Path}
    {definition : Option CallNode}
    (came : outcome (workspace.definition? name root) session = (.ok definition, after)) :
    after.definitions.get? name root = some definition := by
  rw [outcome_definition?] at came
  cases remembered : session.definitions.get? name root with
  | some found =>
      rw [remembered] at came
      cases came
      exact remembered
  | none =>
      rw [remembered] at came
      rcases searched : outcome (workspace.searchDefinition? name root) session with
        ⟨failure | found, middle⟩ <;> rw [searched] at came <;> cases came
      rw [DefinitionCache.get?_put, if_pos rfl]

theorem definition?_grows (name : String) (root : Path) (session : Session) :
    ∃ paths roots, Session.Grows workspace paths roots session
      (outcome (workspace.definition? name root) session).2 := by
  rw [outcome_definition?]
  cases unknown : session.definitions.get? name root with
  | some found => exact ⟨[], [], Session.Grows.refl workspace session⟩
  | none =>
      obtain ⟨paths, roots, grown, same⟩ := searchDefinition?_explores workspace name root session
      rcases searched : outcome (workspace.searchDefinition? name root) session with
        ⟨failure | found, middle⟩ <;> rw [searched] at grown same
      · exact ⟨paths, roots, grown⟩
      · have learned := Memo.Learns.insert unknown found
        rw [← same] at learned
        exact ⟨paths, roots, { grown with definitions := ⟨[(name, root.parts)], same ▸ learned⟩ }⟩

theorem definition?_forgets_failure {session after : Session} {name : String} {root : Path}
    {failure : Failure}
    (came : outcome (workspace.definition? name root) session = (.error failure, after)) :
    after.definitions = session.definitions := by
  rw [outcome_definition?] at came
  cases remembered : session.definitions.get? name root with
  | some found =>
      rw [remembered] at came
      cases came
  | none =>
      obtain ⟨_, _, _, same⟩ := searchDefinition?_explores workspace name root session
      rw [remembered] at came
      rcases searched : outcome (workspace.searchDefinition? name root) session with
        ⟨failure | found, middle⟩ <;> rw [searched] at came same <;> cases came
      exact same

private theorem outcome_answer {α : Type} (action : Lookup α) (answer : α → Answer) (session : Session) :
    outcome (do return answer (← action)) session =
      ((outcome action session).1.map answer, (outcome action session).2) := by
  rw [outcome_bind]
  rcases outcome action session with ⟨failure | value, after⟩ <;> rfl

theorem ask_grows (query : Query) (session : Session) :
    ∃ paths roots, Session.Grows workspace paths roots session
      (outcome (workspace.ask query) session).2 := by
  have explored {α : Type} {action : Lookup α} (explores : Explores workspace action) :
      ∃ paths roots, Session.Grows workspace paths roots session (outcome action session).2 := by
    obtain ⟨paths, roots, grown, _⟩ := explores session
    exact ⟨paths, roots, grown⟩
  cases query with
  | definition name root =>
      rw [ask, outcome_answer]
      exact definition?_grows workspace name root session
  | files root =>
      rw [ask, outcome_answer]
      exact explored (files_explores workspace root)
  | lines path =>
      rw [ask, outcome_answer]
      exact explored (lines?_explores workspace path)
  | rules language name =>
      rw [ask, outcome_answer]
      exact explored (rulesFor_explores workspace language name)

theorem ask_forgets_failure {query : Query} {session after : Session} {failure : Failure}
    (came : outcome (workspace.ask query) session = (.error failure, after)) :
    after.definitions = session.definitions := by
  have explored {α : Type} {action : Lookup α} (explores : Explores workspace action)
      (ended : (outcome action session).2 = after) : after.definitions = session.definitions := by
    obtain ⟨_, _, _, same⟩ := explores session
    rw [← ended, same]
  cases query with
  | definition name root =>
      rw [ask, outcome_answer] at came
      obtain ⟨failed, ended⟩ := Prod.mk.inj came
      rcases looked : outcome (workspace.definition? name root) session with
        ⟨other | found, final⟩ <;> rw [looked] at failed ended
      · cases ended
        exact definition?_forgets_failure workspace looked
      · cases failed
  | files root =>
      rw [ask, outcome_answer] at came
      exact explored (files_explores workspace root) (congrArg Prod.snd came)
  | lines path =>
      rw [ask, outcome_answer] at came
      exact explored (lines?_explores workspace path) (congrArg Prod.snd came)
  | rules language name =>
      rw [ask, outcome_answer] at came
      exact explored (rulesFor_explores workspace language name) (congrArg Prod.snd came)

theorem exists_ask_agrees {workspace : Workspace} (byPlace : workspace.corpus.ByPlace) (query : Query) :
    ∃ expected, Agrees (Session.Sound workspace) (workspace.ask query) expected := by
  have answered {α : Type} {action : Lookup α} {found : Except Failure α} {answer : α → Answer}
      (agrees : Agrees (Session.Sound workspace) action found) :
      ∃ expected, Agrees (Session.Sound workspace) (do return answer (← action)) expected :=
    ⟨_, agrees.bind fun value _ => Agrees.pure (answer value)⟩
  cases query with
  | definition name root => exact answered (definition?_agrees byPlace name root)
  | files root => exact answered (files_agrees byPlace root)
  | lines path => exact answered (lines?_agrees byPlace path)
  | rules language name => exact answered (rulesFor_agrees language name)

/-! ### Histories -/

theorem definitions_of_mem_history {events : List Event} {exchange : Exchange} :
    ∀ (workspace : Workspace) {session : Session}, exchange ∈ workspace.history session events →
      ∃ keys, session.definitions.Learns exchange.before.definitions keys := by
  induction events with
  | nil => intro _ _ member; cases member
  | cons event rest ih =>
      intro workspace session member
      cases event with
      | change corpus =>
          rw [history] at member
          exact ih { workspace with corpus := corpus } member
      | ask query =>
          rcases List.mem_cons.mp member with rfl | later
          · exact ⟨[], Memo.Learns.refl _⟩
          · obtain ⟨_, _, grown⟩ := ask_grows workspace query session
            obtain ⟨keys, first⟩ := grown.definitions
            obtain ⟨more, second⟩ := ih workspace later
            exact ⟨keys ++ more, first.trans second⟩

/-- All that is read and listed in a history is new to its session. -/
theorem exists_learns_of_history {events : List Event} :
    ∀ (workspace : Workspace) (session : Session), ∃ sources listings,
      session.sources.Learns sources
        (((workspace.history session events).flatMap Exchange.reads).map Path.parts) ∧
      session.listings.Learns listings
        (((workspace.history session events).flatMap (Exchange.listed workspace.filter)).map
          Path.parts) := by
  induction events with
  | nil => exact fun _ session => ⟨session.sources, session.listings, .refl _, .refl _⟩
  | cons event rest ih =>
      intro workspace session
      cases event with
      | change corpus => exact ih { workspace with corpus := corpus } session
      | ask query =>
          obtain ⟨paths, roots, grown⟩ := ask_grows workspace query session
          obtain ⟨sources, listings, read, listed⟩ :=
            ih workspace (outcome (workspace.ask query) session).2
          refine ⟨sources, listings, ?_, ?_⟩
          · rw [history, List.flatMap_cons, List.map_append, Exchange.reads, grown.reads, List.drop_left]
            exact grown.sources.trans read
          · rw [history, List.flatMap_cons, List.map_append, Exchange.listed, grown.listed, List.drop_left]
            exact grown.listings.trans listed

theorem ask_definition_of_remembered {session : Session} {name : String} {root : Path}
    {definition : Option CallNode} (remembered : session.definitions.get? name root = some definition) :
    outcome (workspace.ask (.definition name root)) session = (.ok (.definition definition), session) := by
  rw [ask, outcome_answer, definition?_of_remembered workspace remembered]
  rfl

theorem ask_definition_remembers {session after : Session} {name : String} {root : Path}
    {definition : Option CallNode}
    (came : outcome (workspace.ask (.definition name root)) session =
      (.ok (.definition definition), after)) : after.definitions.get? name root = some definition := by
  rw [ask, outcome_answer] at came
  obtain ⟨found, ended⟩ := Prod.mk.inj came
  rcases looked : outcome (workspace.definition? name root) session with
    ⟨failure | other, final⟩ <;> rw [looked] at found ended
  · cases found
  · cases found
    cases ended
    exact definition?_remembers workspace looked

theorem pairwise_history (events : List Event) :
    ∀ (workspace : Workspace) (session : Session),
      (workspace.history session events).Pairwise Exchange.Repeats := by
  induction events with
  | nil => exact fun _ _ => List.Pairwise.nil
  | cons event rest ih =>
      intro workspace session
      cases event with
      | change corpus => exact ih { workspace with corpus := corpus } session
      | ask query =>
          rw [history]
          refine List.pairwise_cons.mpr ⟨?_, ih workspace _⟩
          rintro later member name root place definition rfl found asked same
          have remembered := ask_definition_remembers workspace (Prod.ext found rfl)
          obtain ⟨_, kept⟩ := definitions_of_mem_history workspace member
          have still : later.before.definitions.get? name place = some definition := by
            rw [DefinitionCache.get?, same]
            exact kept.keeps _ _ remembered
          have came := outcome_of_mem_history workspace member
          rw [asked, ask_definition_of_remembered _ still] at came
          obtain ⟨result, after⟩ := Prod.mk.inj came
          exact ⟨result.symm, after.symm⟩

end Workspace

/-- Memory does not show over a corpus that stays as it is: however queries follow one another, each comes to
what it comes to in a fresh session; and one that fails leaves the remembered definitions as they were. -/
theorem MemoryCorpus.results_of_history (corpus : MemoryCorpus) (registry : Registry)
    (filter : LanguageFilter) (queries : List Query) :
    let workspace : Workspace := ⟨corpus.toCorpus, registry, filter⟩
    let exchanges := workspace.history {} (queries.map Event.ask)
    exchanges.map (fun exchange => (exchange.query, exchange.result)) =
        queries.map (fun query => (query, (outcome (workspace.ask query) {}).1)) ∧
      ∀ exchange ∈ exchanges, ∀ failure, exchange.result = .error failure →
        exchange.after.definitions = exchange.before.definitions := by
  intro workspace
  have same (session : Session) (sound : session.Sound workspace) :
      (workspace.history session (queries.map Event.ask)).map
          (fun exchange => (exchange.query, exchange.result)) =
        queries.map fun query => (query, (outcome (workspace.ask query) {}).1) := by
    have byPlace : workspace.corpus.ByPlace := corpus.toCorpus_byPlace
    induction queries generalizing session with
    | nil => rfl
    | cons query rest ih =>
        obtain ⟨expected, agrees⟩ := Workspace.exists_ask_agrees byPlace query
        obtain ⟨result, further⟩ := agrees session sound
        have fresh := (agrees {} (Session.sound_empty workspace)).1
        rw [List.map_cons, Workspace.history, List.map_cons, List.map_cons, ih _ further, result, fresh]
  refine ⟨same {} (Session.sound_empty workspace), ?_⟩
  intro exchange member failure failed
  have came := Workspace.outcome_of_mem_history workspace member
  rw [failed] at came
  exact Workspace.ask_forgets_failure _ came

/-- A session keeps to what it saw first, however the corpus changes between its queries. It reads no place
twice, readable or not; it lists no root twice with success; and a definition that was found, or found to be
missing, is given back from then on with nothing read or listed. -/
theorem Workspace.history_keeps_first (workspace : Workspace) (events : List Event) :
    let exchanges := workspace.history {} events
    ((exchanges.flatMap Exchange.reads).map Path.parts).Nodup ∧
      ((exchanges.flatMap (Exchange.listed workspace.filter)).map Path.parts).Nodup ∧
      exchanges.Pairwise Exchange.Repeats := by
  obtain ⟨_, _, read, listed⟩ := exists_learns_of_history workspace {}
  exact ⟨read.distinct, listed.distinct, pairwise_history events workspace {}⟩

/-! ### A file that goes -/

namespace Duet

def shelf : Workspace where
  corpus := MemoryCorpus.toCorpus
    { files := [⟨⟨"src/a"⟩, "duet", some "f g()"⟩, ⟨⟨"src/b"⟩, "duet", some "g f()"⟩] }
  registry := registry

/-- All files go after `g` was looked up, and it is looked up again below the same root, written otherwise. -/
def clearance : List Event :=
  [.ask (.definition "g" ⟨"src"⟩), .change (MemoryCorpus.toCorpus {}), .ask (.files ⟨"src"⟩),
    .ask (.definition "g" ⟨"src//"⟩)]

theorem shelf_definition :
    (match (outcome (shelf.ask (.definition "g" ⟨"src"⟩)) {}).1 with
      | .ok (.definition found) => found.map CallNode.filePath
      | _ => none) = some ⟨"src/b"⟩ := by
  decide +kernel

theorem clearance_repeats :
    ∃ node, (outcome (shelf.ask (.definition "g" ⟨"src"⟩)) {}).1 = .ok (.definition (some node)) ∧
      node.filePath = ⟨"src/b"⟩ ∧
      ∀ last ∈ (shelf.history {} clearance).tail, last.query = .definition "g" ⟨"src//"⟩ →
        last.result = .ok (.definition (some node)) ∧ last.after = last.before := by
  have known := shelf_definition
  -- What the corpus holds does not matter from here on.
  generalize shelf = workspace at known ⊢
  have repeats := (Workspace.history_keeps_first workspace clearance).2.2
  rw [clearance, Workspace.history] at repeats ⊢
  split at known
  · rename_i found came
    obtain ⟨node, rfl, file⟩ := Option.map_eq_some_iff.mp known
    refine ⟨node, came, file, ?_⟩
    intro last member asked
    have again := List.rel_of_pairwise_cons repeats member
    exact again "g" ⟨"src"⟩ ⟨"src//"⟩ (some node) rfl came asked (by decide +kernel)
  · cases known

end Duet

end Callsite

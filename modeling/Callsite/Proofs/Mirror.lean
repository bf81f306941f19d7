import Callsite.Proofs.Afresh
import Callsite.Proofs.Coupling
import Callsite.Proofs.Language.Bodies
import Callsite.Proofs.Language.ShippedRegistry

set_option autoImplicit false

/-! Two workspaces that mirror each other below a root: the same files are listed there, and their texts
differ in comments only. Lookups in such workspaces go the same way. They read the same files in the same
order and find the same definitions and the same callers, and the same callees if bodies end alike. -/

namespace Callsite

structure Workspace.Mirrors (left right : Workspace) (root : Path) : Prop where
  byPlace : left.corpus.ByPlace
  byPlaceToo : right.corpus.ByPlace
  registry : left.registry = right.registry
  listing : left.filesAfresh root = right.filesAfresh root
  texts : ∀ files, left.filesAfresh root = .ok files → ∀ file ∈ files,
    Option.Rel (left.registry.language file.language).OnlyCommentsDiffer
      (left.linesAfresh? file.path) (right.linesAfresh? file.path)

/-- Whether bodies in the listed files end alike. -/
def Workspace.SameSpans (left right : Workspace) (root : Path) : Prop :=
  ∀ files, left.filesAfresh root = .ok files → ∀ file ∈ files, ∀ lines others,
    left.linesAfresh? file.path = some lines → right.linesAfresh? file.path = some others →
      ∀ scanLimit start,
        let style := (left.registry.language file.language).table.blockStyle
        Body.isolate style lines scanLimit start = Body.isolate style others scanLimit start

/-- Two sessions that remember the same, texts apart, and have the same log. -/
structure Session.Alike (session other : Session) : Prop where
  definitions : session.definitions = other.definitions
  rules : session.rules = other.rules
  listings : session.listings = other.listings
  sources : ∀ place, (session.sources.find? place).isSome = (other.sources.find? place).isSome
  listed : session.listed = other.listed
  reads : session.reads = other.reads

structure Session.Mirrors (left right : Workspace) (session other : Session) : Prop where
  sound : session.Sound left
  soundToo : other.Sound right
  alike : session.Alike other

theorem Session.mirrors_empty (left right : Workspace) : Session.Mirrors left right {} {} :=
  ⟨sound_empty left, sound_empty right, rfl, rfl, rfl, fun _ => rfl, rfl, rfl⟩

/-- What both computations come to, besides what couples them. -/
theorem Couples.and_agrees {σ τ α β : Type} {rel : σ → τ → Prop} {sound : σ → Prop}
    {action : ExceptT Failure (StateM σ) α} {other : ExceptT Failure (StateM τ) β}
    {same : α → β → Prop} {expected : Except Failure α} (couples : Couples rel action other same)
    (holds : ∀ state opposite, rel state opposite → sound state)
    (agrees : Agrees sound action expected) :
    Couples rel action other fun value opposite => same value opposite ∧ expected = .ok value := by
  intro state opposite paired
  obtain ⟨matched, after⟩ := couples state opposite paired
  have came := (agrees state (holds state opposite paired)).1
  generalize (outcome action state).1 = result at matched came ⊢
  generalize (outcome other opposite).1 = another at matched ⊢
  refine ⟨?_, after⟩
  cases matched with
  | error failure => exact .error failure
  | ok related => exact .ok ⟨related, came.symm⟩

namespace Workspace

variable {left right : Workspace}

theorem couples_of_agrees {α β : Type} {action : Lookup α} {other : Lookup β} {same : α → β → Prop}
    {expected : Except Failure α} {expectedToo : Except Failure β}
    (agrees : Agrees (Session.Sound left) action expected)
    (agreesToo : Agrees (Session.Sound right) other expectedToo)
    (alike : ∀ session opposite, Session.Mirrors left right session opposite →
      ResultsMatch same (outcome action session).1 (outcome other opposite).1 ∧
        (outcome action session).2.Alike (outcome other opposite).2) :
    Couples (Session.Mirrors left right) action other same := by
  intro session opposite mirrored
  obtain ⟨matched, after⟩ := alike session opposite mirrored
  have sound := (agrees session mirrored.sound).2
  have soundToo := (agreesToo opposite mirrored.soundToo).2
  exact ⟨matched, sound, soundToo, after⟩

section

variable {root : Path} (mirrors : left.Mirrors right root)

include mirrors

theorem files_couples :
    Couples (Session.Mirrors left right) (left.files root) (right.files root) Eq := by
  apply couples_of_agrees (files_agrees mirrors.byPlace root) (files_agrees mirrors.byPlaceToo root)
  intro session other mirrored
  have alike := mirrored.alike
  have listing : left.corpus.list root left.filter = right.corpus.list root right.filter :=
    mirrors.listing
  have known := congrArg (·.find? root.parts) alike.listings
  rw [outcome_files, outcome_files, ← known, ← listing]
  cases session.listings.find? root.parts with
  | some files => exact ⟨.ok rfl, alike⟩
  | none =>
      have listed := congrArg (· ++ [root]) alike.listed
      cases left.corpus.list root left.filter with
      | error failure => exact ⟨.error failure, { alike with listed := listed }⟩
      | ok files =>
          have listings := congrArg (·.insert root.parts files) alike.listings
          exact ⟨.ok rfl, { alike with listed := listed, listings := listings }⟩

theorem lines?_couples (path : Path) :
    Couples (Session.Mirrors left right) (left.lines? path) (right.lines? path)
      fun lines others => left.linesAfresh? path = lines ∧ right.linesAfresh? path = others := by
  have agrees := lines?_agrees mirrors.byPlace path
  have agreesToo := lines?_agrees mirrors.byPlaceToo path
  apply couples_of_agrees agrees agreesToo
  intro session other mirrored
  have alike := mirrored.alike
  rw [(agrees session mirrored.sound).1, (agreesToo other mirrored.soundToo).1]
  refine ⟨.ok ⟨rfl, rfl⟩, ?_⟩
  have known := alike.sources path.parts
  rw [outcome_lines?, outcome_lines?]
  cases hit : session.sources.find? path.parts with
  | some lines =>
      obtain ⟨others, hitToo⟩ := Option.isSome_iff_exists.mp (known.symm.trans (congrArg _ hit))
      rw [hitToo]
      exact alike
  | none =>
      have hitToo := Option.not_isSome_iff_eq_none.mp (by rw [← known, hit]; exact nofun)
      rw [hitToo]
      have reads := congrArg (· ++ [path]) alike.reads
      refine { alike with reads := reads, sources := fun place => ?_ }
      dsimp only
      rw [Memo.find?_insert, Memo.find?_insert]
      by_cases here : place = path.parts
      · rw [if_pos here, if_pos here]
        rfl
      · rw [if_neg here, if_neg here]
        exact alike.sources place

theorem listedLines_couples {file : SourceFile}
    (texts : Option.Rel (left.registry.language file.language).OnlyCommentsDiffer
      (left.linesAfresh? file.path) (right.linesAfresh? file.path)) :
    Couples (Session.Mirrors left right) (left.lines? file.path) (right.lines? file.path)
      (Option.Rel (left.registry.language file.language).OnlyCommentsDiffer) := by
  apply (lines?_couples mirrors file.path).imp
  rintro lines others ⟨rfl, rfl⟩
  exact texts

theorem rulesFor_couples (language name : String) :
    Couples (Session.Mirrors left right) (left.rulesFor language name)
      (right.rulesFor language name) Eq := by
  apply couples_of_agrees (rulesFor_agrees language name) (rulesFor_agrees language name)
  intro session other mirrored
  have alike := mirrored.alike
  have known := congrArg (·.find? (language, name)) alike.rules
  rw [outcome_rulesFor, outcome_rulesFor, ← known, ← mirrors.registry]
  cases session.rules.find? (language, name) with
  | some rules => exact ⟨.ok rfl, alike⟩
  | none =>
      cases (left.registry.language language).rulesFor name with
      | error fault => exact ⟨.error _, alike⟩
      | ok rules =>
          have remembered := congrArg (·.insert (language, name) rules) alike.rules
          exact ⟨.ok rfl, { alike with rules := remembered }⟩

/-! ### Definitions -/

theorem firstDefinition?_couples (name : String) {files : List SourceFile}
    (texts : ∀ file ∈ files, Option.Rel (left.registry.language file.language).OnlyCommentsDiffer
      (left.linesAfresh? file.path) (right.linesAfresh? file.path)) :
    Couples (Session.Mirrors left right) (left.firstDefinition? name files)
      (right.firstDefinition? name files) Eq := by
  induction files with
  | nil => exact Couples.pure rfl
  | cons file rest ih =>
      have further := ih fun other member => texts other (List.mem_cons_of_mem file member)
      rw [firstDefinition?, firstDefinition?]
      apply (listedLines_couples mirrors (texts file List.mem_cons_self)).bind
      intro lines others here
      cases here with
      | none => exact further
      | some alike =>
          apply (rulesFor_couples mirrors file.language name).bind
          rintro rules _ rfl
          rw [← mirrors.registry, ← alike.definitionIn?_eq]
          cases definitionIn? (left.registry.language file.language) rules name file 1 _ with
          | some node => exact Couples.pure rfl
          | none => exact further

theorem searchDefinition?_couples (name : String) :
    Couples (Session.Mirrors left right) (left.searchDefinition? name root)
      (right.searchDefinition? name root) Eq := by
  have files := (files_couples mirrors).and_agrees (fun _ _ mirrored => mirrored.sound)
    (files_agrees mirrors.byPlace root)
  apply files.bind
  rintro files _ ⟨rfl, listed⟩
  exact firstDefinition?_couples mirrors name (mirrors.texts files listed)

theorem definition?_couples (name : String) :
    Couples (Session.Mirrors left right) (left.definition? name root) (right.definition? name root)
      Eq := by
  apply couples_of_agrees (definition?_agrees mirrors.byPlace name root)
    (definition?_agrees mirrors.byPlaceToo name root)
  intro session other mirrored
  have alike := mirrored.alike
  obtain ⟨matched, between⟩ := searchDefinition?_couples mirrors name session other mirrored
  rw [outcome_definition?, outcome_definition?, ← alike.definitions]
  cases session.definitions.get? name root with
  | some found => exact ⟨.ok rfl, alike⟩
  | none =>
      generalize outcome (left.searchDefinition? name root) session = here at matched between ⊢
      generalize outcome (right.searchDefinition? name root) other = there at matched between ⊢
      rcases here with ⟨result, after⟩
      rcases there with ⟨opposite, later⟩
      cases matched with
      | error failure => exact ⟨.error failure, between.alike⟩
      | @ok found _ same =>
          cases same
          have remembered := congrArg (·.put name root found) between.alike.definitions
          exact ⟨.ok rfl, { between.alike with definitions := remembered }⟩

/-! ### Callers -/

theorem callersAmong_couples (name : String) (depth : Nat) {files : List SourceFile}
    (texts : ∀ file ∈ files, Option.Rel (left.registry.language file.language).OnlyCommentsDiffer
      (left.linesAfresh? file.path) (right.linesAfresh? file.path)) :
    Couples (Session.Mirrors left right) (left.callersAmong name depth files)
      (right.callersAmong name depth files) Eq := by
  induction files with
  | nil => exact Couples.pure rfl
  | cons file rest ih =>
      have further := ih fun other member => texts other (List.mem_cons_of_mem file member)
      rw [callersAmong, callersAmong]
      apply (listedLines_couples mirrors (texts file List.mem_cons_self)).bind
      intro lines others here
      cases here with
      | none => exact further
      | some alike =>
          apply (rulesFor_couples mirrors file.language name).bind
          rintro rules _ rfl
          apply further.bind
          rintro more _ rfl
          rw [← mirrors.registry, alike.callersIn_eq]
          exact Couples.pure rfl

theorem callers_couples (node : CallNode) :
    Couples (Session.Mirrors left right) (left.callers root node) (right.callers root node) Eq := by
  have files := (files_couples mirrors).and_agrees (fun _ _ mirrored => mirrored.sound)
    (files_agrees mirrors.byPlace root)
  apply files.bind
  rintro files _ ⟨rfl, listed⟩
  have texts := mirrors.texts files listed
  apply (callersAmong_couples mirrors node.functionName (node.depth + 1) texts).bind
  rintro callers _ rfl
  exact Couples.pure rfl

end

/-! ### Callees -/

def OnText (workspace : Workspace) (root : Path) (node : CallNode) : Prop :=
  ∃ files, workspace.filesAfresh root = .ok files ∧ ∃ file ∈ files,
    node.filePath = file.path ∧ node.language = file.language ∧ ∃ lines line,
      workspace.linesAfresh? file.path = some lines ∧ lines[node.line - 1]? = some line ∧
        (workspace.registry.language file.language).isComment line = false

theorem OnText.of_same {root : Path} {node other : CallNode} (onText : left.OnText root node)
    (filePath : node.filePath = other.filePath) (language : node.language = other.language)
    (line : node.line = other.line) : left.OnText root other := by
  rw [OnText, ← filePath, ← language, ← line]
  exact onText

theorem onText_of_definitionAfresh? {name : String} {root : Path} {node : CallNode}
    (found : left.definitionAfresh? name root = .ok (some node)) : left.OnText root node := by
  obtain ⟨files, listed, searched⟩ := bind_eq_ok_iff.mp found
  obtain ⟨file, member, lines, rules, read, _, declared⟩ := exists_of_definitionAmong? searched
  obtain ⟨index, line, hit, inside, text, _, rfl⟩ := exists_of_definitionIn? declared
  refine ⟨files, listed, file, member, rfl, rfl, lines, line, read, ?_, text⟩
  rw [Nat.add_sub_cancel_left]
  exact inside

theorem onText_of_mem_callersAfresh {root : Path} {node : CallNode} {found : List CallNode}
    (searched : left.callersAfresh root node = .ok found) {caller : CallNode}
    (member : caller ∈ found) : left.OnText root caller := by
  obtain ⟨files, listed, file, inFiles, lines, _, read, _, inFile⟩ :=
    exists_of_mem_callersAfresh searched member
  obtain ⟨scope, inScopes, rfl⟩ := List.mem_map.mp inFile
  obtain ⟨_, line, _, inside, text, _⟩ := Language.exists_line_of_mem_callerScopes inScopes
  exact ⟨files, listed, file, inFiles, rfl, rfl, lines, line, read, inside, text⟩

theorem onText_of_mem_neighboursAfresh {options : TraceOptions} {root : Path} {node : CallNode}
    {edge : Edge} {found : List CallNode}
    (searched : left.neighboursAfresh options root node edge = .ok found) {child : CallNode}
    (member : child ∈ found) (own : child.isExternal = false) : left.OnText root child := by
  cases edge with
  | caller => exact onText_of_mem_callersAfresh searched member
  | callee =>
      obtain ⟨_, _, _, _, definition, _, _, _, _, resolved, rfl⟩ :=
        exists_of_mem_calleesAfresh searched member
      cases definition with
      | some definition => exact (onText_of_definitionAfresh? resolved).of_same rfl rfl rfl
      | none =>
          rw [calleeNode, CallNode.isExternal_placeholder] at own
          cases own

section

variable {root : Path} (mirrors : left.Mirrors right root)

include mirrors

theorem calleesNamed_couples (depth : Nat) (names : List String) :
    Couples (Session.Mirrors left right) (left.calleesNamed root depth names)
      (right.calleesNamed root depth names) Eq := by
  induction names with
  | nil => exact Couples.pure rfl
  | cons name rest ih =>
      apply (definition?_couples mirrors name).bind
      rintro found _ rfl
      apply ih.bind
      rintro further _ rfl
      exact Couples.pure rfl

omit mirrors in
theorem notMem_of_linesAfresh? {path : Path} {lines : List String}
    (read : left.linesAfresh? path = some lines) : ∀ line ∈ lines, '\n' ∉ line.toList := by
  obtain ⟨text, _, rfl⟩ := Option.map_eq_some_iff.mp read
  exact fun line member => Text.notMem_of_mem_lines member

theorem callees_couples (spans : left.SameSpans right root) (options : TraceOptions)
    {node : CallNode} (onText : left.OnText root node) :
    Couples (Session.Mirrors left right) (left.callees options root node)
      (right.callees options root node) Eq := by
  obtain ⟨files, listed, file, member, path, language, lines, first, read, inside, text⟩ := onText
  rw [callees, callees]
  cases node.abstractDeclaration with
  | true => exact Couples.pure rfl
  | false =>
      apply (lines?_couples mirrors node.filePath).bind
      rintro _ _ ⟨rfl, rfl⟩
      rw [path, language]
      have texts := mirrors.texts files listed file member
      have ends := spans files listed file member
      rw [read] at texts ends ⊢
      cases readToo : right.linesAfresh? file.path with
      | none =>
          rw [readToo] at texts
          cases texts
      | some others =>
          rw [readToo] at texts ends
          cases texts with
          | some alike =>
              dsimp only
              rw [inside, alike.getElem? inside text]
              apply (rulesFor_couples mirrors file.language node.functionName).bind
              rintro rules _ rfl
              have span := ends lines others rfl rfl options.bodyScanLimit (node.line - 1)
              have called := alike.callsIn_bodyText (notMem_of_linesAfresh? read)
                (notMem_of_linesAfresh? readToo) span (List.mem_of_getElem? inside) rules
                options.includeExternal
              rw [← mirrors.registry, ← called]
              exact calleesNamed_couples mirrors (node.depth + 1) _

/-! ### Traces -/

/-- The same node on both sides, on a line that is no comment unless it is a placeholder. -/
def SameNode (left : Workspace) (root : Path) (node other : CallNode) : Prop :=
  node = other ∧ (node.isExternal = false → left.OnText root node)

omit mirrors in
theorem forall₂_sameNode {nodes others : List CallNode}
    (related : List.Forall₂ (left.SameNode root) nodes others) : nodes = others := by
  have equal := related.imp fun _ _ same => same.1
  rwa [List.forall₂_eq_eq_eq] at equal

omit mirrors in
theorem growsAlike_sameNode : GrowsAlike (left.SameNode root) := by
  constructor
  · rintro node _ ⟨rfl, _⟩
    rfl
  · rintro node _ next _ ⟨rfl, _⟩ ⟨rfl, _⟩ _ _
    rfl
  · rintro node _ found more edge ⟨rfl, onText⟩ related
    cases forall₂_sameNode related
    refine ⟨rfl, fun own => ?_⟩
    cases edge with
    | caller => exact (onText own).of_same rfl rfl rfl
    | callee => exact (onText own).of_same rfl rfl rfl

theorem neighbours_couples {options : TraceOptions} {edge : Edge}
    (spans : edge = .callee → left.SameSpans right root) {node other : CallNode}
    (same : left.SameNode root node other) (own : node.isExternal = false) :
    Couples (Session.Mirrors left right) (left.neighbours options root node edge)
      (right.neighbours options root other edge) (List.Forall₂ (left.SameNode root)) := by
  obtain ⟨rfl, onText⟩ := same
  have found : Couples (Session.Mirrors left right) (left.neighbours options root node edge)
      (right.neighbours options root node edge) Eq := by
    cases edge with
    | caller => exact callers_couples mirrors node
    | callee => exact callees_couples mirrors (spans rfl) options (onText own)
  have known := found.and_agrees (fun _ _ mirrored => mirrored.sound)
    (neighbours_agrees mirrors.byPlace options root node edge)
  apply known.imp
  rintro nodes _ ⟨rfl, searched⟩
  apply List.forall₂_same.mpr
  exact fun child member => ⟨rfl, onText_of_mem_neighboursAfresh searched member⟩

theorem definitions_couples (name : String) :
    Couples (Session.Mirrors left right) (left.definition? name root) (right.definition? name root)
      (Option.Rel fun node other => left.SameNode root (node.atDepth 0) (other.atDepth 0)) := by
  have known := (definition?_couples mirrors name).and_agrees (fun _ _ mirrored => mirrored.sound)
    (definition?_agrees mirrors.byPlace name root)
  apply known.imp
  rintro found _ ⟨rfl, searched⟩
  cases found with
  | none => exact .none
  | some node => exact .some ⟨rfl, fun _ => (onText_of_definitionAfresh? searched).of_same rfl rfl rfl⟩

/-- Traces in workspaces that mirror each other come to the same, and read the same files in the same
order. -/
theorem trace_mirrored {options : TraceOptions}
    (spans : .callee ∈ options.direction.edges → left.SameSpans right root) (name : String) :
    (outcome (left.trace options root name) {}).1 = (outcome (right.trace options root name) {}).1 ∧
      (outcome (left.trace options root name) {}).2.session.Alike
        (outcome (right.trace options root name) {}).2.session := by
  have traced := trace_couples growsAlike_sameNode (definitions_couples mirrors name)
    fun edge asked node other same own =>
      neighbours_couples mirrors (fun callee => spans (callee ▸ asked)) same own
  obtain ⟨matched, after⟩ := traced {} {} ⟨Session.mirrors_empty left right, rfl, rfl⟩
  refine ⟨?_, after.session.alike⟩
  apply (matched.imp _).eq
  rintro ⟨root, truncated, expansions⟩ ⟨rootToo, _, _⟩ ⟨trees, rfl, rfl⟩
  cases trees with
  | none => rfl
  | some same => rw [same.1]

end

end Workspace

/-! ### Corpora with the same listing -/

/-- Files outside the listing do not matter. In two corpora with the same listing below the root, and with
the same texts of the listed files, a trace comes to the same and reads the same files. -/
theorem MemoryCorpus.trace_eq_of_listing (registry : Registry) (filter : LanguageFilter) (root : Path)
    {left right : MemoryCorpus} (listing : left.list root filter = right.list root filter)
    (texts : ∀ files, left.list root filter = .ok files → ∀ file ∈ files,
      left.toCorpus.read? file.path = right.toCorpus.read? file.path)
    (options : TraceOptions) (name : String) :
    (outcome (Workspace.trace ⟨left.toCorpus, registry, filter⟩ options root name) {}).1 =
        (outcome (Workspace.trace ⟨right.toCorpus, registry, filter⟩ options root name) {}).1 ∧
      (outcome (Workspace.trace ⟨left.toCorpus, registry, filter⟩ options root name) {}).2.session.reads =
        (outcome (Workspace.trace ⟨right.toCorpus, registry, filter⟩ options root name) {}).2.session.reads ∧
      (outcome (Workspace.trace ⟨left.toCorpus, registry, filter⟩ options root name) {}).2.session.listed =
        (outcome (Workspace.trace ⟨right.toCorpus, registry, filter⟩ options root name)
          {}).2.session.listed := by
  let here : Workspace := ⟨left.toCorpus, registry, filter⟩
  let there : Workspace := ⟨right.toCorpus, registry, filter⟩
  have lines {files : List SourceFile} (listed : here.filesAfresh root = .ok files) {file : SourceFile}
      (member : file ∈ files) : here.linesAfresh? file.path = there.linesAfresh? file.path :=
    congrArg (Option.map Text.lines) (texts files listed file member)
  have mirrors : here.Mirrors there root := by
    refine ⟨left.toCorpus_byPlace, right.toCorpus_byPlace, rfl, listing, ?_⟩
    intro files listed file member
    rw [lines listed member]
    cases there.linesAfresh? file.path with
    | none => exact .none
    | some others => exact .some (Language.OnlyCommentsDiffer.refl _ others)
  have spans : here.SameSpans there root := by
    intro files listed file member text other read readToo scanLimit start
    rw [lines listed member, readToo] at read
    cases Option.some.inj read
    rfl
  have asked (_ : Edge.callee ∈ options.direction.edges) := spans
  have traced := Workspace.trace_mirrored mirrors asked name
  exact ⟨traced.1, traced.2.reads, traced.2.listed⟩

namespace Scripts

/-- A pair of scripts, and the same pair with two further files beside it: one outside the root, one in
another language. -/
def below : MemoryCorpus where
  files := [
    ⟨⟨"src/a.py"⟩, "python", some "def f():\n    g()\n    h()"⟩,
    ⟨⟨"src/b.py"⟩, "python", some "def g():\n    f()"⟩]

def beside : MemoryCorpus where
  files := [
    ⟨⟨"lib/h.py"⟩, "python", some "def h():\n    f()"⟩,
    ⟨⟨"src/a.py"⟩, "python", some "def f():\n    g()\n    h()"⟩,
    ⟨⟨"src/b.py"⟩, "python", some "def g():\n    f()"⟩,
    ⟨⟨"src/h.rb"⟩, "ruby", some "def h\n  f()\nend"⟩]

theorem reads_below :
    (outcome (Workspace.trace ⟨below.toCorpus, Shipped.registry, ⟨["python"]⟩⟩ {} ⟨"src"⟩ "f")
      {}).2.session.reads = [⟨"src/a.py"⟩, ⟨"src/b.py"⟩] := by
  decide +kernel

theorem trace_beside :
    (outcome (Workspace.trace ⟨below.toCorpus, Shipped.registry, ⟨["python"]⟩⟩ {} ⟨"src"⟩ "f") {}).1 =
        (outcome (Workspace.trace ⟨beside.toCorpus, Shipped.registry, ⟨["python"]⟩⟩ {} ⟨"src"⟩ "f")
          {}).1 ∧
      (outcome (Workspace.trace ⟨beside.toCorpus, Shipped.registry, ⟨["python"]⟩⟩ {} ⟨"src"⟩ "f")
        {}).2.session.reads = [⟨"src/a.py"⟩, ⟨"src/b.py"⟩] := by
  have listed : below.list ⟨"src"⟩ ⟨["python"]⟩ =
      .ok [⟨⟨"src/a.py"⟩, "python"⟩, ⟨⟨"src/b.py"⟩, "python"⟩] := by
    decide +kernel
  have listedBeside : beside.list ⟨"src"⟩ ⟨["python"]⟩ =
      .ok [⟨⟨"src/a.py"⟩, "python"⟩, ⟨⟨"src/b.py"⟩, "python"⟩] := by
    decide +kernel
  have texts : ∀ files, below.list ⟨"src"⟩ ⟨["python"]⟩ = .ok files → ∀ file ∈ files,
      below.toCorpus.read? file.path = beside.toCorpus.read? file.path := by
    intro files found
    rw [listed] at found
    cases Except.ok.inj found
    decide +kernel
  have same := MemoryCorpus.trace_eq_of_listing Shipped.registry ⟨["python"]⟩ ⟨"src"⟩
    (listed.trans listedBeside.symm) texts {} "f"
  exact ⟨same.1, same.2.1.symm.trans reads_below⟩

end Scripts

end Callsite

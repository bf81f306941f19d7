import Callsite.Proofs.Scans

set_option autoImplicit false

/-! What a trace can tell of a corpus. Of several files that are listed at one place, only the first is ever
read: a scan comes to it before the others. So a trace cannot tell apart two corpora that list the same files
below its root, if the texts of those that are the first at their places are the same. -/

namespace Callsite

/-- The session knows the files below the root, if it has listed them; it has looked at the files under
`known` and at those of all remembered definitions. -/
structure Session.Seen (files : List SourceFile) (root : Path) (known : List Path) (session : Session) :
    Prop where
  listing : ∀ found, session.listings.find? root.parts = some found → found = files
  known : ∀ path ∈ known, (session.sources.find? path.parts).isSome
  definitions : ∀ name node, session.definitions.get? name root = some (some node) →
    (session.sources.find? node.filePath.parts).isSome

namespace Session.Seen

variable {files : List SourceFile} {root : Path} {known more : List Path} {session : Session}

theorem empty (files : List SourceFile) (root : Path) : Seen files root [] {} :=
  ⟨nofun, nofun, nofun⟩

theorem weaken (seen : Seen files root more session) (among : known ⊆ more) : Seen files root known session :=
  { seen with known := fun path member => seen.known path (among member) }

theorem learn (seen : Seen files root known session)
    (found : ∀ path ∈ more, (session.sources.find? path.parts).isSome) :
    Seen files root (known ++ more) session :=
  { seen with known := List.forall_mem_append.mpr ⟨seen.known, found⟩ }

theorem read (seen : Seen files root known session) (path : Path) (lines : Option (List String))
    (reads : List Path) :
    Seen files root (known ++ [path])
      { session with reads := reads, sources := session.sources.insert path.parts lines } := by
  have grows (place : List PathPart) (before : (session.sources.find? place).isSome) :
      ((session.sources.insert path.parts lines).find? place).isSome := by
    rw [Memo.find?_insert]
    split
    · rfl
    · exact before
  constructor
  · exact seen.listing
  · intro other member
    rcases List.mem_append.mp member with before | last
    · exact grows _ (seen.known other before)
    · simp [Memo.find?_insert, List.mem_singleton.mp last]
  · exact fun name node remembered => grows _ (seen.definitions name node remembered)

end Session.Seen

/-- Two corpora that list the same files below a root and have the same texts of those that are the first at
their places. -/
structure Corpus.AlikeBelow (corpus other : Corpus) (root : Path) (filter : LanguageFilter)
    (files : List SourceFile) : Prop where
  listing : corpus.list root filter = .ok files
  listingToo : other.list root filter = .ok files
  texts : ∀ (before : List SourceFile) (file : SourceFile) (after : List SourceFile),
    files = before ++ file :: after → file.path.parts ∉ before.map (·.path.parts) →
      corpus.read? file.path = other.read? file.path

namespace Workspace

variable {workspace : Workspace} {other : Corpus} {root : Path} {files : List SourceFile} {known : List Path}

theorem lines?_seen_again {path : Path} (member : path ∈ known) :
    Tandem (Session.Seen files root) known (workspace.lines? path) ((workspace.over other).lines? path)
      fun _ => [] := by
  have remembered {session : Session} (seen : session.Seen files root known) :
      ∃ lines, session.sources.find? path.parts = some lines :=
    Option.isSome_iff_exists.mp (seen.known path member)
  apply Tandem.of_kept
  · intro session seen
    obtain ⟨lines, here⟩ := remembered seen
    rw [outcome_lines?, outcome_lines?, here]
  · intro session seen
    obtain ⟨lines, here⟩ := remembered seen
    rw [outcome_lines?, here]
    exact seen

variable (alike : workspace.corpus.AlikeBelow other root workspace.filter files)

include alike

theorem files_seen : Agrees (Session.Seen files root known) (workspace.files root) (.ok files) := by
  intro session seen
  rw [outcome_files, alike.listing]
  cases listed : session.listings.find? root.parts with
  | some found =>
      cases seen.listing found listed
      exact ⟨rfl, seen⟩
  | none =>
      refine ⟨rfl, { seen with listing := ?_ }⟩
      intro found inserted
      simp only [Memo.find?_insert, if_pos, Option.some.injEq] at inserted
      exact inserted.symm

/-- A scan that has seen all files ahead of the next one reads it just if it is the first at its place. -/
theorem lines?_seen_next {before after : List SourceFile} {file : SourceFile}
    (split : files = before ++ file :: after) (scanned : before.map SourceFile.path ⊆ known) :
    Tandem (Session.Seen files root) known (workspace.lines? file.path)
      ((workspace.over other).lines? file.path) fun _ => [file.path] := by
  intro session seen
  rw [outcome_lines?, outcome_lines?]
  cases remembered : session.sources.find? file.path.parts with
  | some lines =>
      refine ⟨rfl, seen, fun _ _ => seen.learn ?_⟩
      intro path member
      rw [List.mem_singleton.mp member]
      exact Option.isSome_of_eq_some remembered
  | none =>
      have first : file.path.parts ∉ before.map (·.path.parts) := by
        intro earlier
        obtain ⟨previous, inBefore, same⟩ := List.mem_map.mp earlier
        have looked := seen.known previous.path (scanned (List.mem_map_of_mem inBefore))
        rw [same, remembered] at looked
        contradiction
      have next := seen.read file.path ((workspace.corpus.read? file.path).map Text.lines)
        (session.reads ++ [file.path])
      rw [← alike.texts before file after split first]
      exact ⟨rfl, next.weaken (List.subset_append_left _ _), fun _ _ => next⟩

theorem seen_scanning : Scanning workspace other root files (Session.Seen files root) where
  weakens _ _ _ among seen := seen.weaken among
  lists _ := files_seen alike
  listsAlike _ _ _ := by rw [outcome_files, outcome_files, alike.listing, alike.listingToo]
  again _ _ member := lines?_seen_again member
  next _ _ _ _ split scanned := lines?_seen_next alike split scanned
  rules _ _ _ seen := { seen with }
  recalls known session name node seen hit := by
    apply seen.learn
    intro path member
    rw [List.mem_singleton.mp member]
    exact seen.definitions name node hit
  remembers known session name found seen := by
    refine { seen with definitions := ?_ }
    intro other node remembered
    simp only [DefinitionCache.get?_put] at remembered
    split at remembered
    · cases Option.some.inj remembered
      exact seen.known _ (List.mem_append_right known List.mem_cons_self)
    · exact seen.definitions other node remembered

theorem trace_eq_of_alikeBelow (options : TraceOptions) (name : String) :
    outcome (workspace.trace options root name) {} = outcome ((workspace.over other).trace options root name) {} :=
  (trace_tandem (seen_scanning alike) options name {} (Session.Seen.empty files root)).1

end Workspace

/-! ### Every corpus as one that goes by place -/

/-- The corpus in which each path leads to the first file listed at its place. -/
def Corpus.settled (corpus : Corpus) (files : List SourceFile) : Corpus where
  list _ _ := .ok files
  read? path := (files.find? fun file => file.path.parts = path.parts).bind fun file => corpus.read? file.path

section

variable (corpus : Corpus) (files : List SourceFile)

theorem Corpus.settled_byPlace : (corpus.settled files).ByPlace where
  list _ _ _ := rfl
  read _ _ same := by simp only [settled, same]

variable {corpus files}

theorem Corpus.settled_alikeBelow {root : Path} {filter : LanguageFilter}
    (listing : corpus.list root filter = .ok files) :
    corpus.AlikeBelow (corpus.settled files) root filter files where
  listing := listing
  listingToo := rfl
  texts before file after split first := by
    have others : before.find? (fun other => other.path.parts = file.path.parts) = none := by
      rw [List.find?_eq_none]
      intro other member same
      exact first (List.mem_map.mpr ⟨other, member, of_decide_eq_true same⟩)
    simp [settled, split, others]

end

namespace Workspace

variable {workspace : Workspace} {root : Path}

theorem root_eq_settled {files : List SourceFile}
    (listing : workspace.corpus.list root workspace.filter = .ok files) (options : TraceOptions) (name : String) :
    (outcome (workspace.trace options root name) {}).1.map TraceOutput.root =
      (workspace.over (workspace.corpus.settled files)).callTree? options root options.reach name := by
  rw [trace_eq_of_alikeBelow (Corpus.settled_alikeBelow listing)]
  exact root_eq (workspace.corpus.settled_byPlace files) options root name

theorem root_eq_error {failure : Failure}
    (listing : workspace.corpus.list root workspace.filter = .error failure) (options : TraceOptions)
    (name : String) :
    (outcome (workspace.trace options root name) {}).1.map TraceOutput.root = .error failure := by
  rw [trace_unlisted listing]
  rfl

end Workspace

end Callsite

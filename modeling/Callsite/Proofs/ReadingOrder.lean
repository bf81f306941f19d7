import Mathlib.Data.List.Nodup
import Mathlib.Data.List.Perm.Subperm
import Callsite.Proofs.Scans

set_option autoImplicit false

/-! The order in which a trace reads files. Whatever its searches ask for, the files read so far are the
first ones of the listing. -/

namespace Callsite

/-- The files that were read come first in the listing, in its order; the files under `known` are among
them, and so are those of all remembered definitions. -/
structure Session.InOrder (files : List SourceFile) (root : Path) (known : List Path)
    (session : Session) : Prop where
  reads : session.reads <+: files.map SourceFile.path
  known : known ⊆ session.reads
  sources : ∀ path : Path, (session.sources.find? path.parts).isSome ↔
    path.parts ∈ session.reads.map Path.parts
  definitions : ∀ name found,
    session.definitions.get? name root = some (some found) → found.filePath ∈ session.reads
  listed : session.listings.find? root.parts = none ∧ session.listed = [] ∨
    session.listings.find? root.parts = some files ∧ session.listed = [root]

namespace Session.InOrder

variable {files : List SourceFile} {root : Path} {known : List Path} {session : Session}

theorem empty (files : List SourceFile) (root : Path) : InOrder files root [] {} where
  reads := List.nil_prefix
  known := List.nil_subset []
  sources _ := ⟨nofun, nofun⟩
  definitions _ _ remembered := nomatch remembered
  listed := .inl ⟨rfl, rfl⟩

theorem weaken (ordered : InOrder files root known session) {fewer : List Path}
    (among : fewer ⊆ known) : InOrder files root fewer session :=
  { ordered with known := fun _ member => ordered.known (among member) }

theorem learn (ordered : InOrder files root known session) {more : List Path}
    (among : more ⊆ session.reads) : InOrder files root (known ++ more) session :=
  { ordered with known := List.append_subset.mpr ⟨ordered.known, among⟩ }

private theorem eq_of_prefix_of_notMem {seen before after : List Path} {next : Path}
    (first : seen <+: before ++ next :: after) (fresh : next ∉ seen) (all : before ⊆ seen)
    (distinct : before.Nodup) : seen = before := by
  have long : before.length ≤ seen.length := (distinct.subperm all).length_le
  have inside : before <+: seen :=
    List.prefix_of_prefix_length_le (List.prefix_append before _) first long
  obtain ⟨more, rfl⟩ := inside
  cases more with
  | nil => exact List.append_nil before
  | cons head rest =>
      have same := List.prefix_append_right_inj before |>.mp first
      obtain ⟨rfl, _⟩ := List.cons_prefix_cons.mp same
      exact absurd (List.mem_append_right before List.mem_cons_self) fresh

theorem read (ordered : InOrder files root known session)
    (distinct : (files.map fun file => file.path.parts).Nodup) {before after : List SourceFile}
    {file : SourceFile} (split : files = before ++ file :: after)
    (scanned : before.map SourceFile.path ⊆ known)
    (unread : session.sources.find? file.path.parts = none) (lines : Option (List String)) :
    InOrder files root (known ++ [file.path]) { session with
      reads := session.reads ++ [file.path]
      sources := session.sources.insert file.path.parts lines } := by
  have fresh : file.path.parts ∉ session.reads.map Path.parts := by
    rw [← ordered.sources, unread]
    exact Bool.false_ne_true
  have listing : files.map SourceFile.path =
      before.map SourceFile.path ++ file.path :: after.map SourceFile.path := by
    rw [split, List.map_append, List.map_cons]
  have order : session.reads = before.map SourceFile.path := by
    refine eq_of_prefix_of_notMem (listing ▸ ordered.reads)
      (fun member => fresh (List.mem_map_of_mem member)) (fun _ member => ordered.known (scanned member)) ?_
    rw [split, List.map_append] at distinct
    refine List.Nodup.of_map Path.parts ?_
    rw [List.map_map]
    exact distinct.of_append_left
  constructor
  · rw [order, listing]
    exact (List.prefix_append_right_inj _).mpr (List.cons_prefix_cons.mpr ⟨rfl, List.nil_prefix⟩)
  · exact List.append_subset.mpr ⟨fun path member => List.mem_append_left _ (ordered.known member),
      List.subset_append_right _ _⟩
  · intro path
    rw [Memo.find?_insert, List.map_append, List.mem_append, List.map_singleton, List.mem_singleton]
    by_cases here : path.parts = file.path.parts
    · simp only [here, if_true, Option.isSome_some, or_true]
    · simp only [here, if_false, or_false]
      exact ordered.sources path
  · exact fun name found remembered =>
      List.mem_append_left _ (ordered.definitions name found remembered)
  · exact ordered.listed

end Session.InOrder

namespace Workspace

variable {workspace : Workspace} {files : List SourceFile} {root : Path} {known : List Path}

theorem files_inOrder (listing : workspace.corpus.list root workspace.filter = .ok files) :
    Agrees (Session.InOrder files root known) (workspace.files root) (.ok files) := by
  intro session ordered
  rw [outcome_files, listing]
  rcases ordered.listed with ⟨unlisted, never⟩ | ⟨listed, once⟩
  · rw [unlisted]
    refine ⟨rfl, { ordered with listed := .inr ⟨?_, ?_⟩ }⟩
    · exact (Memo.find?_insert _ _ _ _).trans (if_pos rfl)
    · exact congrArg (· ++ [root]) never
  · rw [listed]
    exact ⟨rfl, ordered⟩

theorem lines?_inOrder_again {path : Path} (member : path ∈ known) :
    Tandem (Session.InOrder files root) known (workspace.lines? path) (workspace.lines? path) fun _ => [] := by
  apply Tandem.of_kept
  · exact fun _ _ => rfl
  intro session ordered
  have seen := (ordered.sources path).mpr (List.mem_map_of_mem (ordered.known member))
  obtain ⟨lines, remembered⟩ := Option.isSome_iff_exists.mp seen
  rw [outcome_lines?, remembered]
  exact ordered

section

variable (distinct : (files.map fun file => file.path.parts).Nodup)

include distinct

theorem lines?_inOrder_next {before after : List SourceFile} {file : SourceFile}
    (split : files = before ++ file :: after) (scanned : before.map SourceFile.path ⊆ known) :
    Tandem (Session.InOrder files root) known (workspace.lines? file.path) (workspace.lines? file.path)
      fun _ => [file.path] := by
  intro session ordered
  rw [outcome_lines?]
  cases remembered : session.sources.find? file.path.parts with
  | some lines =>
      refine ⟨rfl, ordered, fun _ _ => ordered.learn (List.cons_subset.mpr ⟨?_, List.nil_subset _⟩)⟩
      have seen := (ordered.sources file.path).mp (Option.isSome_of_eq_some remembered)
      obtain ⟨path, read, same⟩ := List.mem_map.mp seen
      obtain ⟨other, listed, rfl⟩ := List.mem_map.mp (ordered.reads.subset read)
      have here : file ∈ files := by
        rw [split]
        exact List.mem_append_right before List.mem_cons_self
      rwa [← List.inj_on_of_nodup_map distinct listed here same]
  | none =>
      have next := ordered.read distinct split scanned remembered
        ((workspace.corpus.read? file.path).map Text.lines)
      exact ⟨rfl, next.weaken (List.subset_append_left _ _), fun _ _ => next⟩

variable (listing : workspace.corpus.list root workspace.filter = .ok files)

include listing

theorem inOrder_scanning : Scanning workspace workspace.corpus root files (Session.InOrder files root) where
  weakens _ _ _ among ordered := ordered.weaken among
  lists _ := files_inOrder listing
  listsAlike _ _ _ := rfl
  again _ _ member := lines?_inOrder_again member
  next _ _ _ _ split scanned := lines?_inOrder_next distinct split scanned
  rules _ _ _ ordered := { ordered with }
  recalls _ _ name node ordered hit :=
    ordered.learn (List.cons_subset.mpr ⟨ordered.definitions name node hit, List.nil_subset _⟩)
  remembers known session name found ordered := by
    refine { ordered with definitions := ?_ }
    intro other node remembered
    simp only [DefinitionCache.get?_put] at remembered
    split at remembered
    · cases Option.some.inj remembered
      exact ordered.known (List.mem_append_right known List.mem_cons_self)
    · exact ordered.definitions other node remembered

end

theorem trace_keepsOrder (listing : workspace.corpus.list root workspace.filter = .ok files)
    (distinct : (files.map fun file => file.path.parts).Nodup) (options : TraceOptions) (name : String) :
    Meets (fun state => Session.InOrder files root [] state.session) (workspace.trace options root name)
      fun _ state => Session.InOrder files root [] state.session := by
  intro state ordered
  exact (trace_tandem (inOrder_scanning distinct listing) options name state ordered).2.1

/-- A trace reads the first files of the listing, in its order and each once, and lists them at most
once; it reads nothing if they cannot be listed. -/
theorem reads_isPrefix_of_listing (workspace : Workspace) (options : TraceOptions) (root : Path)
    (name : String)
    (distinct : ∀ files, workspace.corpus.list root workspace.filter = .ok files →
      (files.map fun file => file.path.parts).Nodup) :
    ∃ session, (outcome (workspace.trace options root name) {}).2.session = session ∧
      (∀ files, workspace.corpus.list root workspace.filter = .ok files →
        session.reads <+: files.map SourceFile.path) ∧
      (∀ failure, workspace.corpus.list root workspace.filter = .error failure →
        session.reads = []) ∧
      (session.reads.map Path.parts).Nodup ∧ session.listed <+: [root] := by
  refine ⟨_, rfl, ?_⟩
  cases listing : workspace.corpus.list root workspace.filter with
  | error failure =>
      rw [trace_unlisted listing options name]
      refine ⟨nofun, ?_, List.nodup_nil, List.prefix_refl [root]⟩
      exact fun _ _ => rfl
  | ok files =>
      have ordered := trace_keepsOrder listing (distinct files listing) options name {}
        (Session.InOrder.empty files root)
      refine ⟨?_, nofun, ?_, ?_⟩
      · rintro _ ⟨⟩
        exact ordered.reads
      · have apart : ((files.map SourceFile.path).map Path.parts).Nodup := by
          rw [List.map_map]
          exact distinct files listing
        exact (ordered.reads.map Path.parts).sublist.nodup apart
      · rcases ordered.listed with ⟨_, never⟩ | ⟨_, once⟩
        · rw [never]
          exact List.nil_prefix
        · exact ⟨[], by rw [List.append_nil, once]⟩

end Workspace

theorem Duet.reads_isPrefix :
    (∀ files, corpus.toCorpus.list ⟨""⟩ .any = .ok files →
      (files.map fun file => file.path.parts).Nodup) ∧
    (outcome (Workspace.trace ⟨corpus.toCorpus, registry, .any⟩ {} ⟨""⟩ "f") {}).2.session.reads <+:
      [⟨"a"⟩, ⟨"b"⟩] := by
  have listing : corpus.toCorpus.list ⟨""⟩ .any = .ok [⟨⟨"a"⟩, "duet"⟩, ⟨⟨"b"⟩, "duet"⟩] := by
    decide +kernel
  have distinct : ∀ files, corpus.toCorpus.list ⟨""⟩ .any = .ok files →
      (files.map fun file => file.path.parts).Nodup := by
    intro files listed
    rw [listing] at listed
    cases Except.ok.inj listed
    decide +kernel
  obtain ⟨_, rfl, inOrder, _⟩ :=
    Workspace.reads_isPrefix_of_listing ⟨corpus.toCorpus, registry, .any⟩ {} ⟨""⟩ "f" distinct
  exact ⟨distinct, inOrder _ listing⟩

end Callsite

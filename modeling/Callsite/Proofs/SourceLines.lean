import Callsite.Proofs.Ending
import Callsite.Proofs.PathOrder

set_option autoImplicit false

/-! The lines of the readable files of a listing, in the order of the files and of the lines of each. What a
search through files finds first is found on the least line that has it, and of things with a key the ones
kept are those on the least line for their key. -/

namespace Callsite

/-- A line of a readable file: `lines` are all lines of the file, and `text` is the one at `index`. -/
structure SourceLine where
  file : SourceFile
  lines : List String
  index : Nat
  text : String

namespace SourceLine

/-- Whether a line comes first: in an earlier file, or further up in the same one. -/
def Before (line other : SourceLine) : Prop :=
  line.file.path.compare other.file.path = .lt ∨
    line.file.path.compare other.file.path = .eq ∧ line.index < other.index

theorem Before.asymm {line other : SourceLine} (before : line.Before other) : ¬other.Before line := by
  rintro (less | ⟨equal, below⟩) <;> rcases before with lessToo | ⟨equalToo, belowToo⟩
  · exact Std.OrientedCmp.not_lt_of_lt less lessToo
  · rw [Std.OrientedCmp.eq_comm] at equalToo
    rw [less] at equalToo
    contradiction
  · rw [Std.OrientedCmp.eq_comm] at equal
    rw [lessToo] at equal
    contradiction
  · omega

end SourceLine

namespace Workspace

variable (workspace : Workspace)

def linesIn (file : SourceFile) : List SourceLine :=
  match workspace.linesAfresh? file.path with
  | none => []
  | some lines => lines.zipIdx.map fun (text, index) => ⟨file, lines, index, text⟩

def linesThrough (files : List SourceFile) : List SourceLine :=
  files.flatMap workspace.linesIn

variable {workspace}

theorem mem_linesIn {file : SourceFile} {line : SourceLine} :
    line ∈ workspace.linesIn file ↔ line.file = file ∧
      workspace.linesAfresh? file.path = some line.lines ∧ line.lines[line.index]? = some line.text := by
  rcases line with ⟨source, all, index, text⟩
  rw [linesIn]
  cases read : workspace.linesAfresh? file.path with
  | none => exact ⟨nofun, nofun⟩
  | some lines =>
      rw [List.mem_map]
      constructor
      · rintro ⟨⟨found, place⟩, member, same⟩
        cases same
        exact ⟨rfl, rfl, List.mk_mem_zipIdx_iff_getElem?.mp member⟩
      · rintro ⟨rfl, same, inside⟩
        cases same
        exact ⟨(text, index), List.mk_mem_zipIdx_iff_getElem?.mpr inside, rfl⟩

theorem mem_linesThrough {files : List SourceFile} {line : SourceLine} :
    line ∈ workspace.linesThrough files ↔ line.file ∈ files ∧
      workspace.linesAfresh? line.file.path = some line.lines ∧
        line.lines[line.index]? = some line.text := by
  rw [linesThrough, List.mem_flatMap]
  constructor
  · rintro ⟨file, member, inFile⟩
    obtain ⟨rfl, read, inside⟩ := mem_linesIn.mp inFile
    exact ⟨member, read, inside⟩
  · rintro ⟨member, read, inside⟩
    exact ⟨line.file, member, mem_linesIn.mpr ⟨rfl, read, inside⟩⟩

theorem pairwise_linesIn (file : SourceFile) :
    (workspace.linesIn file).Pairwise SourceLine.Before := by
  rw [linesIn]
  cases workspace.linesAfresh? file.path with
  | none => exact List.Pairwise.nil
  | some lines =>
      have increasing : (lines.zipIdx.map Prod.snd).Pairwise (· < ·) := by
        rw [List.zipIdx_map_snd]
        exact List.pairwise_lt_range'
      refine List.pairwise_map.mpr ((List.pairwise_map.mp increasing).imp fun below => ?_)
      exact .inr ⟨Std.ReflCmp.compare_self, below⟩

theorem pairwise_linesThrough {files : List SourceFile}
    (ordered : files.Pairwise fun file other => file.path.compare other.path = .lt) :
    (workspace.linesThrough files).Pairwise SourceLine.Before := by
  refine List.pairwise_flatMap.mpr ⟨fun file _ => pairwise_linesIn file, ordered.imp fun less => ?_⟩
  intro line inFile other inOther
  obtain ⟨rfl, _⟩ := mem_linesIn.mp inFile
  obtain ⟨rfl, _⟩ := mem_linesIn.mp inOther
  exact .inl less

end Workspace

/-- Whether a line stands in a readable file that is listed below `root`. -/
structure SourceLine.Listed (workspace : Workspace) (root : Path) (line : SourceLine) : Prop where
  listed : ∃ files, workspace.corpus.list root workspace.filter = .ok files ∧ line.file ∈ files
  read : (workspace.corpus.read? line.file.path).map Text.lines = some line.lines
  inside : line.lines[line.index]? = some line.text

theorem SourceLine.listed_iff {workspace : Workspace} {root : Path} {files : List SourceFile}
    (listed : workspace.filesAfresh root = .ok files) {line : SourceLine} :
    line.Listed workspace root ↔ line ∈ workspace.linesThrough files := by
  rw [Workspace.mem_linesThrough]
  constructor
  · rintro ⟨⟨found, same, member⟩, read, inside⟩
    cases Except.ok.inj (same.symm.trans listed)
    exact ⟨member, read, inside⟩
  · rintro ⟨member, read, inside⟩
    exact ⟨⟨files, listed, member⟩, read, inside⟩

theorem MemoryCorpus.Ordered.pairwise_list {corpus : MemoryCorpus} (ordered : corpus.Ordered)
    {root : Path} {filter : LanguageFilter} {files : List SourceFile}
    (listed : corpus.list root filter = .ok files) :
    files.Pairwise fun file other => file.path.compare other.path = .lt := by
  rw [MemoryCorpus.list] at listed
  split at listed
  · contradiction
  · cases Except.ok.inj listed
    exact List.pairwise_map.mpr (List.Pairwise.filter _ ordered)

theorem MemoryCorpus.exists_rulesFor (corpus : MemoryCorpus) (extensions : Dictionary String)
    (filter : LanguageFilter) (name language : String) :
    ∃ rules, ((corpus.workspace extensions filter).registry.language language).rulesFor name =
      .ok rules := by
  have regular : (corpus.workspace extensions filter).registry.Regular :=
    Shipped.registry_regular.withExtensions extensions
  obtain ⟨rules, compiled, _⟩ := (regular.language language).rulesFor name
  exact ⟨rules, compiled⟩

/-! ### What is found first -/

section

variable {α β κ : Type} {before : α → α → Prop}

theorem findSome?_eq_some_iff_least {find : α → Option β} {items : List α}
    (ordered : items.Pairwise before) (asymm : ∀ {item other}, before item other → ¬before other item)
    {value : β} :
    items.findSome? find = some value ↔ ∃ item ∈ items, find item = some value ∧
      ∀ other ∈ items, (find other).isSome → other = item ∨ before item other := by
  rw [List.findSome?_eq_some_iff]
  constructor
  · rintro ⟨front, item, back, rfl, found, nothing⟩
    obtain ⟨_, behind, _⟩ := List.pairwise_append.mp ordered
    refine ⟨item, List.mem_append_right front List.mem_cons_self, found, fun other member has => ?_⟩
    rcases List.mem_append.mp member with inFront | inBack
    · rw [nothing other inFront] at has
      contradiction
    · rcases List.mem_cons.mp inBack with rfl | later
      · exact .inl rfl
      · exact .inr ((List.pairwise_cons.mp behind).1 other later)
  · rintro ⟨item, member, found, least⟩
    obtain ⟨front, back, rfl⟩ := List.append_of_mem member
    refine ⟨front, item, back, rfl, found, fun other inFront => ?_⟩
    have ahead := (List.pairwise_append.mp ordered).2.2 other inFront item List.mem_cons_self
    cases has : find other with
    | none => rfl
    | some value =>
        rcases least other (List.mem_append_left _ inFront) (by rw [has]; rfl) with rfl | behind
        · exact absurd ahead (asymm ahead)
        · exact absurd behind (asymm ahead)

variable [DecidableEq κ]

theorem distinctBy_sublist (key : α → κ) (items : List α) :
    ∀ seen : List κ, (distinctBy key seen items).Sublist items := by
  induction items with
  | nil => exact fun _ => List.Sublist.refl _
  | cons item rest ih =>
      intro seen
      rw [distinctBy]
      split
      · exact (ih seen).cons item
      · exact (ih _).cons_cons item

theorem distinctBy_map (key : β → κ) (image : α → β) (items : List α) :
    ∀ seen : List κ, distinctBy key seen (items.map image) =
      (distinctBy (fun item => key (image item)) seen items).map image := by
  induction items with
  | nil => exact fun _ => rfl
  | cons item rest ih =>
      intro seen
      rw [List.map_cons, distinctBy, distinctBy]
      split
      · exact ih seen
      · rw [ih, List.map_cons]

/-- In a list in order, the items kept are those that are least for their key. -/
theorem mem_distinctBy_iff_least {key : α → κ} {items : List α} (ordered : items.Pairwise before)
    (asymm : ∀ {item other}, before item other → ¬before other item) {item : α} :
    ∀ seen : List κ, item ∈ distinctBy key seen items ↔
      item ∈ items ∧ key item ∉ seen ∧
        ∀ other ∈ items, before other item → key other ≠ key item := by
  induction items with
  | nil => exact fun _ => ⟨nofun, nofun⟩
  | cons head rest ih =>
      intro seen
      obtain ⟨first, orderedRest⟩ := List.pairwise_cons.mp ordered
      have ih := ih orderedRest
      have alone : ¬before head head := fun self => asymm self self
      rw [distinctBy]
      by_cases known : key head ∈ seen
      · rw [if_pos known, ih]
        constructor
        · rintro ⟨member, fresh, least⟩
          refine ⟨List.mem_cons_of_mem head member, fresh, fun other inItems ahead same => ?_⟩
          rcases List.mem_cons.mp inItems with rfl | inRest
          · exact fresh (same ▸ known)
          · exact least other inRest ahead same
        · rintro ⟨member, fresh, least⟩
          rcases List.mem_cons.mp member with rfl | inRest
          · exact absurd known fresh
          · exact ⟨inRest, fresh, fun other later => least other (List.mem_cons_of_mem head later)⟩
      · rw [if_neg known, List.mem_cons, ih]
        constructor
        · rintro (rfl | ⟨member, fresh, least⟩)
          · refine ⟨List.mem_cons_self, known, fun other inItems ahead => ?_⟩
            rcases List.mem_cons.mp inItems with rfl | inRest
            · exact absurd ahead alone
            · exact absurd ahead (asymm (first other inRest))
          · rw [List.mem_cons, not_or] at fresh
            obtain ⟨different, fresh⟩ := fresh
            refine ⟨List.mem_cons_of_mem head member, fresh, fun other inItems ahead => ?_⟩
            rcases List.mem_cons.mp inItems with rfl | inRest
            · exact fun same => different same.symm
            · exact least other inRest ahead
        · rintro ⟨member, fresh, least⟩
          rcases List.mem_cons.mp member with rfl | inRest
          · exact .inl rfl
          · have different := least head List.mem_cons_self (first item inRest)
            refine .inr ⟨inRest, ?_, ?_⟩
            · rw [List.mem_cons, not_or]
              exact ⟨Ne.symm different, fresh⟩
            · exact fun other later => least other (List.mem_cons_of_mem head later)

theorem exists_mem_distinctBy (key : α → κ) {items : List α} {item : α} (member : item ∈ items) :
    ∀ {seen : List κ}, key item ∉ seen → ∃ kept ∈ distinctBy key seen items, key kept = key item := by
  induction items with
  | nil => contradiction
  | cons head rest ih =>
      intro seen fresh
      rw [distinctBy]
      by_cases known : key head ∈ seen
      · rw [if_pos known]
        rcases List.mem_cons.mp member with rfl | inRest
        · exact absurd known fresh
        · exact ih inRest fresh
      · rw [if_neg known]
        by_cases same : key item = key head
        · exact ⟨head, List.mem_cons_self, same.symm⟩
        · rcases List.mem_cons.mp member with rfl | inRest
          · exact absurd rfl same
          · have unseen : key item ∉ key head :: seen := by
              rw [List.mem_cons, not_or]
              exact ⟨same, fresh⟩
            obtain ⟨kept, inKept, sameKey⟩ := ih inRest unseen
            exact ⟨kept, List.mem_cons_of_mem head inKept, sameKey⟩

end

end Callsite

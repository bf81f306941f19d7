import Callsite.Dictionary
import Callsite.Disk
import Callsite.Proofs.Outcome
import Mathlib.Tactic.SplitIfs

set_option autoImplicit false

/-! Writing files. What is written under a path is what is then read under it, because a written file makes
no folder and takes none away. -/

namespace Callsite

namespace Entry

theorem lookup_change (name other : String) (update : Option Entry → Entry)
    (entries : List (String × Entry)) :
    (change name update entries).lookup other =
      if other = name then some (update (entries.lookup name)) else entries.lookup other := by
  induction entries with
  | nil => rw [change, Dictionary.lookup_cons_if]; rfl
  | cons entry rest ih =>
      obtain ⟨key, inner⟩ := entry
      rw [change]
      by_cases here : key = name
      · subst here
        rw [if_pos rfl, Dictionary.lookup_cons_if, Dictionary.lookup_cons_if, Dictionary.lookup_cons_if]
        by_cases same : other = key <;> simp [same]
      · rw [if_neg here, Dictionary.lookup_cons_if, Dictionary.lookup_cons_if, Dictionary.lookup_cons_if, ih]
        by_cases same : other = key
        · simp [same, here]
        · simp [same, Ne.symm here]

theorem at?_put (new : Entry) (place : List String) (entry : Option Entry) :
    (put new place entry).at? place = some new := by
  induction place generalizing entry with
  | nil => rfl
  | cons name place ih =>
      rcases entry with _ | ⟨content⟩ | ⟨entries⟩
      · rw [put, at?, child?, List.lookup_cons_self]
        · exact ih none
        · nofun
      · rw [put, at?, child?, List.lookup_cons_self]
        · exact ih none
        · nofun
      · rw [put, at?, child?, lookup_change, if_pos rfl]
        exact ih _

def hasFolder (entry : Entry) (place : List String) : Bool :=
  (entry.at? place).any isFolder

theorem hasFolder_of_not_isFolder {entry : Entry} (file : entry.isFolder = false) (place : List String) :
    entry.hasFolder place = false := by
  cases entry with
  | folder entries => cases file
  | file content => cases place <;> rfl

theorem hasFolder_folder_cons (entries : List (String × Entry)) (name : String) (place : List String) :
    (folder entries).hasFolder (name :: place) =
      (entries.lookup name).any fun inner => inner.hasFolder place := by
  rw [hasFolder, at?, child?]
  cases entries.lookup name <;> rfl

/-- A file that is put into a folder, where no folder is, changes nothing about where folders are. -/
theorem hasFolder_put_file {new : Entry} (file : new.isFolder = false) {last : String} :
    ∀ {above : List String} {entry : Entry}, entry.hasFolder above = true →
      entry.hasFolder (above ++ [last]) = false → ∀ place,
        (put new (above ++ [last]) (some entry)).hasFolder place = entry.hasFolder place
  | [], .folder entries, _, free, place => by
      cases place with
      | nil => rfl
      | cons name place =>
          rw [List.nil_append, hasFolder_folder_cons] at free
          rw [List.nil_append, put, hasFolder_folder_cons, hasFolder_folder_cons, lookup_change]
          by_cases same : name = last
          · subst same
            rw [if_pos rfl]
            cases found : entries.lookup name with
            | none => exact hasFolder_of_not_isFolder file place
            | some old =>
                rw [found] at free
                exact (hasFolder_of_not_isFolder file place).trans (hasFolder_of_not_isFolder free place).symm
          · rw [if_neg same]
  | name :: above, .folder entries, folded, free, place => by
      cases place with
      | nil => rfl
      | cons other place =>
          rw [hasFolder_folder_cons] at folded
          rw [List.cons_append, hasFolder_folder_cons] at free
          rw [List.cons_append, put, hasFolder_folder_cons, hasFolder_folder_cons, lookup_change]
          by_cases same : other = name
          · subst same
            rw [if_pos rfl]
            cases found : entries.lookup other with
            | none => rw [found] at folded; cases folded
            | some inner =>
                rw [found] at folded free
                exact hasFolder_put_file file folded free place
          · rw [if_neg same]

end Entry

namespace Disk

variable {disk : Disk}

theorem follow?_append (place : List String) (segments more : List (List Char)) :
    disk.follow? place (segments ++ more) =
      (disk.follow? place segments).bind fun place => disk.follow? place more := by
  induction segments generalizing place with
  | nil => rfl
  | cons segment rest ih =>
      rw [List.cons_append, follow?, follow?, ih, ih, ih]
      split_ifs <;> rfl

theorem follow?_congr {other : Disk}
    (alike : ∀ place, other.top.hasFolder place = disk.top.hasFolder place) (place : List String)
    (segments : List (List Char)) : other.follow? place segments = disk.follow? place segments := by
  induction segments generalizing place with
  | nil => rfl
  | cons segment rest ih =>
      have here := alike place
      rw [Entry.hasFolder, Entry.hasFolder] at here
      rw [follow?, follow?, here, ih, ih, ih]

theorem follow?_singleton {place : List String} {segment : List Char}
    (folder : disk.top.hasFolder place = true)
    (regular : ¬(segment = [] ∨ segment = ['.'] ∨ segment = ['.', '.'])) :
    disk.follow? place [segment] = some (place ++ [String.ofList segment]) := by
  obtain ⟨filled, notHere, notUp⟩ : segment ≠ [] ∧ segment ≠ ['.'] ∧ segment ≠ ['.', '.'] := by
    simpa only [not_or] using regular
  rw [follow?, ← Entry.hasFolder, if_pos folder, if_neg (by simp [filled, notHere]), if_neg notUp, follow?]

theorem exists_of_target? {path : Path} {place : List String} (target : disk.target? path = some place) :
    ∃ segments last above, disk.segments? path = some (segments ++ [last]) ∧
      ¬(last = [] ∨ last = ['.'] ∨ last = ['.', '.']) ∧ disk.follow? [] segments = some above ∧
      place = above ++ [String.ofList last] ∧ disk.top.hasFolder above = true ∧
      disk.top.hasFolder place = false := by
  rw [target?] at target
  obtain ⟨segments, found, target⟩ := Option.bind_eq_some_iff.mp target
  obtain ⟨last, isLast, target⟩ := Option.bind_eq_some_iff.mp target
  obtain ⟨before, rfl⟩ := List.getLast?_eq_some_iff.mp isLast
  split at target
  · cases target
  rename_i regular
  obtain ⟨above, followed, target⟩ := Option.bind_eq_some_iff.mp target
  rw [List.dropLast_concat] at followed
  dsimp only at target
  split at target
  · cases target
  rename_i fits
  cases target
  rw [Bool.or_eq_true, Bool.not_eq_true', not_or, Bool.not_eq_false, Bool.not_eq_true] at fits
  refine ⟨before, last, above, found, ?_, followed, rfl, fits.1, fits.2⟩
  simpa [or_assoc] using regular

theorem outcome_write (path : Path) (text : String) :
    outcome (write path text) disk =
      match disk.target? path with
      | some place => (.ok ⟨⟩, { disk with top := Entry.put (.file (.text text)) place (some disk.top) })
      | none => (.error (.unreadable path), disk) := by
  rw [write, outcome_bind, outcome_get]
  dsimp only
  cases disk.target? path <;> rfl

theorem exists_write {path : Path} (target : (disk.target? path).isSome) (text : String) :
    ∃ written, outcome (write path text) disk = (.ok ⟨⟩, written) := by
  obtain ⟨place, found⟩ := Option.isSome_iff_exists.mp target
  rw [outcome_write, found]
  exact ⟨_, rfl⟩

theorem read?_of_write {path : Path} {text : String} {written : Disk}
    (wrote : outcome (write path text) disk = (.ok ⟨⟩, written)) : written.read? path = some text := by
  rw [outcome_write] at wrote
  split at wrote
  · rename_i place target
    cases wrote
    obtain ⟨segments, last, above, split, regular, followed, rfl, folder, free⟩ := exists_of_target? target
    let written : Disk :=
      { disk with top := Entry.put (.file (.text text)) (above ++ [String.ofList last]) (some disk.top) }
    have alike (place : List String) : written.top.hasFolder place = disk.top.hasFolder place :=
      Entry.hasFolder_put_file rfl folder free place
    have there : written.top.at? (above ++ [String.ofList last]) = some (.file (.text text)) :=
      Entry.at?_put _ _ _
    have leads : written.follow? [] (segments ++ [last]) = some (above ++ [String.ofList last]) := by
      rw [follow?_append, follow?_congr alike, followed, Option.bind_some,
        follow?_singleton ((alike above).trans folder) regular]
    have found : written.place? path = some (above ++ [String.ofList last]) := by
      have same : written.segments? path = some (segments ++ [last]) := split
      simp only [place?, same, leads, there, Option.bind_eq_bind, Option.bind_some, Option.isSome_some,
        if_true]
    change written.read? path = _
    simp only [read?, entry?, found, there, Option.bind_eq_bind, Option.bind_some, FileContent.text?]
  · cases wrote

end Disk

end Callsite

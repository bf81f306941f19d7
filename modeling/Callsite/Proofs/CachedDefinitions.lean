import Mathlib.Data.Finset.Card
import Callsite.Proofs.Afresh
import Callsite.Proofs.Spellings

set_option autoImplicit false

/-! The definitions that a session remembers. A memo table that was filled by a history of insertions
has for each key what the last insertion put there, and one entry for each key of the history. The cache
of definitions is such a table on names and roots, where two spellings of a root are the same key exactly
when they lead to one another. -/

namespace Callsite

/-! ### Histories of a table -/

namespace Memo

variable {κ ν : Type} [DecidableEq κ]

def keys (memo : Memo κ ν) : List κ :=
  memo.entries.map Prod.fst

def filled (inserted : List (κ × ν)) : Memo κ ν :=
  inserted.foldl (fun memo entry => memo.insert entry.1 entry.2) {}

theorem filled_append_singleton (inserted : List (κ × ν)) (entry : κ × ν) :
    filled (inserted ++ [entry]) = (filled inserted).insert entry.1 entry.2 := by
  rw [filled, List.foldl_append]
  rfl

theorem find?_filled (inserted : List (κ × ν)) (key : κ) :
    (filled inserted).find? key = inserted.reverse.lookup key := by
  induction inserted using List.reverseRecOn with
  | nil => rfl
  | append_singleton inserted entry ih =>
      rw [filled_append_singleton, find?_insert, List.reverse_concat, List.lookup_cons, ih]
      by_cases same : key = entry.1
      · rw [if_pos same, beq_iff_eq.mpr same]
      · rw [if_neg same, beq_eq_false_iff_ne.mpr same]

theorem find?_filled_eq_none_iff {inserted : List (κ × ν)} {key : κ} :
    (filled inserted).find? key = none ↔ ∀ entry ∈ inserted, entry.1 ≠ key := by
  rw [find?_filled, List.lookup_eq_none_iff]
  simp only [List.mem_reverse, bne_iff_ne]
  exact forall₂_congr fun entry _ => ne_comm

theorem find?_filled_eq_some_iff {inserted : List (κ × ν)} {key : κ} {value : ν} :
    (filled inserted).find? key = some value ↔
      ∃ before after, inserted = before ++ (key, value) :: after ∧
        ∀ later ∈ after, later.1 ≠ key := by
  rw [find?_filled, List.lookup_eq_some_iff]
  simp only [bne_iff_ne]
  constructor
  · rintro ⟨after, before, reversed, untouched⟩
    refine ⟨before.reverse, after.reverse, ?_, ?_⟩
    · rw [← List.reverse_reverse inserted, reversed]
      simp
    · exact fun later member => (untouched later (List.mem_reverse.mp member)).symm
  · rintro ⟨before, after, rfl, untouched⟩
    refine ⟨after.reverse, before.reverse, by simp, ?_⟩
    exact fun later member => (untouched later (List.mem_reverse.mp member)).symm

theorem keys_insert (memo : Memo κ ν) (key : κ) (value : ν) :
    (memo.insert key value).keys = key :: memo.keys.filter fun other => other ≠ key := by
  simp [keys, insert, List.filter_map, Function.comp_def]

theorem nodup_keys_filled (inserted : List (κ × ν)) : (filled inserted).keys.Nodup := by
  induction inserted using List.reverseRecOn with
  | nil => exact List.nodup_nil
  | append_singleton inserted entry ih =>
      rw [filled_append_singleton, keys_insert]
      exact List.nodup_cons.mpr ⟨by simp, ih.filter _⟩

theorem mem_keys_filled {inserted : List (κ × ν)} {key : κ} :
    key ∈ (filled inserted).keys ↔ key ∈ inserted.map Prod.fst := by
  induction inserted using List.reverseRecOn with
  | nil => rfl
  | append_singleton inserted entry ih =>
      rw [filled_append_singleton, keys_insert]
      by_cases same : key = entry.1 <;> simp [same, ih, -List.mem_map]

theorem size_filled (inserted : List (κ × ν)) :
    (filled inserted).size = (inserted.map Prod.fst).toFinset.card := by
  have sameKeys : (filled inserted).keys.toFinset = (inserted.map Prod.fst).toFinset := by
    ext key
    rw [List.mem_toFinset, List.mem_toFinset, mem_keys_filled]
  rw [← sameKeys, List.toFinset_card_of_nodup (nodup_keys_filled inserted), keys, List.length_map]
  rfl

end Memo

/-! ### The cache of definitions -/

namespace DefinitionCache

/-- What is put into a cache at once: a definition of `name` below `root`, or that there is none. -/
structure Entry where
  name : String
  root : Path
  definition : Option CallNode

namespace Entry

def key (entry : Entry) : String × List PathPart :=
  (entry.name, entry.root.parts)

def stored (entry : Entry) : (String × List PathPart) × Option CallNode :=
  (entry.key, entry.definition)

/-- Whether the entry is for the name and the root, however the root is spelled. -/
def Answers (entry : Entry) (name : String) (root : Path) : Prop :=
  entry.name = name ∧ entry.root.parts = root.parts

theorem answers_iff {entry : Entry} {name : String} {root : Path} :
    entry.Answers name root ↔ entry.key = (name, root.parts) :=
  Prod.mk_inj.symm

end Entry

def filled (entries : List Entry) : DefinitionCache :=
  entries.foldl (fun cache entry => cache.put entry.name entry.root entry.definition) {}

theorem filled_eq (entries : List Entry) :
    filled entries = Memo.filled (entries.map Entry.stored) := by
  rw [Memo.filled, List.foldl_map]
  rfl

variable {entries : List Entry} {name : String} {root : Path}

theorem get?_filled_eq_none_iff :
    (filled entries).get? name root = none ↔ ∀ entry ∈ entries, ¬entry.Answers name root := by
  rw [get?, filled_eq, Memo.find?_filled_eq_none_iff, List.forall_mem_map]
  exact forall₂_congr fun entry _ => not_congr Entry.answers_iff.symm

theorem get?_filled_eq_some_iff {definition : Option CallNode} :
    (filled entries).get? name root = some definition ↔
      ∃ before entry after, entries = before ++ entry :: after ∧ entry.Answers name root ∧
        entry.definition = definition ∧ ∀ later ∈ after, ¬later.Answers name root := by
  rw [get?, filled_eq, Memo.find?_filled_eq_some_iff]
  constructor
  · rintro ⟨before, after, split, untouched⟩
    obtain ⟨front, tail, rfl, -, cut⟩ := List.map_eq_append_iff.mp split
    obtain ⟨entry, back, rfl, put, rfl⟩ := List.map_eq_cons_iff.mp cut
    obtain ⟨sameKey, sameDefinition⟩ := Prod.mk_inj.mp put
    refine ⟨front, entry, back, rfl, Entry.answers_iff.mpr sameKey, sameDefinition, ?_⟩
    intro later member answers
    exact untouched _ (List.mem_map_of_mem member) (Entry.answers_iff.mp answers)
  · rintro ⟨before, entry, after, rfl, answers, rfl, untouched⟩
    refine ⟨before.map Entry.stored, after.map Entry.stored, ?_, ?_⟩
    · rw [List.map_append, List.map_cons, Entry.stored, Entry.answers_iff.mp answers]
    · rw [List.forall_mem_map]
      exact fun later member sameKey => untouched later member (Entry.answers_iff.mpr sameKey)

theorem size_filled (entries : List Entry) :
    (filled entries).size = (entries.map Entry.key).toFinset.card := by
  rw [filled_eq, Memo.size_filled, List.map_map]
  rfl

/-- A cache is a map on names and roots: it misses where nothing was put, and elsewhere it has what was
put last; its size is the number of keys. Two roots are the same exactly when their spellings differ only
in repeated and final slashes and in dots that do not lead. -/
theorem recalls_last_put (entries : List Entry) :
    (∀ name root, (filled entries).get? name root = none ↔
      ∀ entry ∈ entries, ¬entry.Answers name root) ∧
    (∀ name root definition, (filled entries).get? name root = some definition ↔
      ∃ before entry after, entries = before ++ entry :: after ∧ entry.Answers name root ∧
        entry.definition = definition ∧ ∀ later ∈ after, ¬later.Answers name root) ∧
    (filled entries).size = (entries.map Entry.key).toFinset.card ∧
    ∀ root place : Path, root.parts = place.parts ↔
      Path.Respells root.text.toList place.text.toList :=
  ⟨fun _ _ => get?_filled_eq_none_iff, fun _ _ _ => get?_filled_eq_some_iff, size_filled entries,
    Path.parts_eq_iff_respells⟩

/-- An absence that was put for one spelling of a root is known for another one. -/
example :
    (filled [⟨"f", ⟨"src//lib"⟩, none⟩, ⟨"f", ⟨"./src"⟩, none⟩]).get? "f" ⟨"src/./lib/"⟩ =
      some none :=
  rfl

end DefinitionCache

end Callsite

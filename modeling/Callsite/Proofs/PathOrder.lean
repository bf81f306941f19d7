import Mathlib.Data.List.Basic
import Callsite.Corpus

set_option autoImplicit false

/-! The order of paths. Paths are compared part by part, so that two paths below the same folder stand in
the order of what follows the folder. A corpus in memory has its files in this order, and the order and the
files determine it. -/

namespace Callsite

namespace PathPart

def nameText : PathPart → String
  | name text => text
  | _ => ""

theorem compare_eq : compare = compareLex (compareOn rank) (compareOn nameText) := by
  funext left right
  cases left <;> cases right <;> rfl

instance : Std.TransCmp compare :=
  compare_eq ▸ inferInstance

instance : Std.LawfulEqCmp compare where
  eq_of_compare {left right} same := by
    cases left with
    | name text =>
        cases right with
        | name other => exact congrArg name (Std.LawfulEqOrd.eq_of_compare same)
        | _ => cases same
    | _ => cases right <;> first | rfl | cases same

end PathPart

namespace Path

theorem compareParts_eq : compareParts = List.compareLex PathPart.compare := by
  funext lefts
  induction lefts with
  | nil =>
      funext rights
      cases rights <;> rfl
  | cons left lefts ih =>
      funext rights
      cases rights with
      | nil => rfl
      | cons right rights =>
          rw [compareParts, List.compareLex_cons_cons, ih]
          cases left.compare right <;> rfl

instance : Std.TransCmp compareParts :=
  compareParts_eq ▸ inferInstance

instance : Std.LawfulEqCmp compareParts :=
  compareParts_eq ▸ inferInstance

theorem compareParts_append (base lefts rights : List PathPart) :
    compareParts (base ++ lefts) (base ++ rights) = compareParts lefts rights := by
  induction base with
  | nil => rfl
  | cons part base ih =>
      have equal : part.compare part = .eq := Std.ReflCmp.compare_self
      rw [List.cons_append, List.cons_append, compareParts, equal, ih]

instance : Std.TransCmp compare where
  eq_swap {left right} := @Std.OrientedCmp.eq_swap _ compareParts _ left.parts right.parts
  isLE_trans {first second third} :=
    @Std.TransCmp.isLE_trans _ compareParts _ first.parts second.parts third.parts

/-! ### Paths below a folder -/

/-- Whether two paths, however written, lead from the two folders to the same place below them. -/
def Corresponds (root place path other : Path) : Prop :=
  ∃ rest, path.parts = root.parts ++ rest ∧ other.parts = place.parts ++ rest

namespace Corresponds

variable {root place path other : Path}

theorem isUnder (corresponds : Corresponds root place path other) :
    path.isUnder root = true ∧ other.isUnder place = true := by
  obtain ⟨rest, parts, partsToo⟩ := corresponds
  rw [Path.isUnder, Path.isUnder, List.isPrefixOf_iff_prefix, List.isPrefixOf_iff_prefix, parts, partsToo]
  exact ⟨List.prefix_append _ _, List.prefix_append _ _⟩

section

variable {next further : Path} (here : Corresponds root place path other)
  (there : Corresponds root place next further)

include here there

theorem compare_eq : other.compare further = path.compare next := by
  obtain ⟨rest, parts, partsToo⟩ := here
  obtain ⟨more, partsThere, partsThereToo⟩ := there
  rw [compare, compare, parts, partsToo, partsThere, partsThereToo, compareParts_append,
    compareParts_append]

theorem parts_eq_iff : other.parts = further.parts ↔ path.parts = next.parts := by
  have order : compareParts other.parts further.parts = compareParts path.parts next.parts :=
    compare_eq here there
  have apart (lefts rights : List PathPart) : compareParts lefts rights = .eq ↔ lefts = rights :=
    Std.LawfulEqCmp.compare_eq_iff_eq
  rw [← apart, ← apart, order]

end

end Corresponds

theorem segments_append_slash (text rest : List Char) :
    ∀ segment, segments segment (text ++ '/' :: rest) = segments segment text ++ segments [] rest := by
  induction text with
  | nil => exact fun _ => rfl
  | cons c text ih =>
      intro segment
      rw [List.cons_append, segments, segments]
      split
      · rw [ih, List.cons_append]
      · exact ih _

theorem segments_ne_nil (text : List Char) : ∀ segment, segments segment text ≠ [] := by
  induction text with
  | nil => exact fun _ => nofun
  | cons c text ih =>
      intro segment
      rw [segments]
      split
      · exact nofun
      · exact ih _

theorem head?_segments_append (text : List Char) (more : List (List Char)) :
    (segments [] text ++ more).head? = (segments [] text).head? :=
  List.head?_append_of_ne_nil _ (segments_ne_nil text [])

/-- The parts of a text in which no lead counts. -/
def partsWithin (text : List Char) : List PathPart :=
  ((segments [] text).filter fun segment => segment ≠ [] && segment ≠ ['.']).map PathPart.ofSegment

theorem parts_slash {front : List Char} (named : front ≠ []) :
    (⟨String.ofList (front ++ ['/'])⟩ : Path).parts = (⟨String.ofList front⟩ : Path).parts := by
  have first := head?_segments_append front
  have lead : (front ++ ['/']).head? = front.head? := List.head?_append_of_ne_nil _ named
  simp [parts, isAbsolute, segments_append_slash, segments, first, lead]

theorem parts_append_slash (front rest : List Char) :
    (⟨String.ofList (front ++ '/' :: rest)⟩ : Path).parts =
      (⟨String.ofList (front ++ ['/'])⟩ : Path).parts ++ partsWithin rest := by
  have first := head?_segments_append front
  have lead : (front ++ '/' :: rest).head? = (front ++ ['/']).head? := by
    cases front <;> rfl
  simp [parts, isAbsolute, segments_append_slash, segments, first, lead, partsWithin]

theorem parts_join {root : Path} (named : root.text ≠ "") {rest : String}
    (relative : rest.toList.head? ≠ some '/') :
    (root.join rest).parts = root.parts ++ partsWithin rest.toList := by
  rcases root with ⟨text⟩
  have apart : ¬(rest.toList.head? = some '/' || text.isEmpty) = true := by
    simp [relative, named]
  rw [join, if_neg apart]
  split
  case isTrue ends =>
    obtain ⟨front, spelled⟩ := List.getLast?_eq_some_iff.mp ends
    have written : text ++ rest = String.ofList (front ++ '/' :: rest.toList) := by
      apply String.toList_injective
      rw [String.toList_append, String.toList_ofList, spelled, ← List.append_cons]
    rw [written, parts_append_slash, ← spelled, String.ofList_toList]
  case isFalse =>
    have front : text.toList ≠ [] := fun empty => named (String.toList_eq_nil_iff.mp empty)
    have written : text ++ "/" ++ rest = String.ofList (text.toList ++ '/' :: rest.toList) := by
      apply String.toList_injective
      simp
    rw [written, parts_append_slash, parts_slash front, String.ofList_toList]

theorem corresponds_join {root place : Path} (named : root.text ≠ "") (namedToo : place.text ≠ "")
    {rest : String} (relative : rest.toList.head? ≠ some '/') :
    Corresponds root place (root.join rest) (place.join rest) :=
  ⟨partsWithin rest.toList, parts_join named relative, parts_join namedToo relative⟩

end Path

/-! ### Corpora in order -/

namespace MemoryCorpus

/-- Whether the files stand in the order of their paths, no two of them at the same place. -/
def Ordered (corpus : MemoryCorpus) : Prop :=
  corpus.files.Pairwise fun file other => file.path.compare other.path = .lt

theorem path_of_mem_putInto {file : StoredFile} {files : List StoredFile} {stored : StoredFile}
    (member : stored ∈ putInto file files) :
    stored.path = file.path ∨ ∃ old ∈ files, stored.path = old.path := by
  induction files with
  | nil => exact .inl (congrArg StoredFile.path (List.mem_singleton.mp member))
  | cons other rest ih =>
      rw [putInto] at member
      split at member
      · rcases List.mem_cons.mp member with rfl | old
        · exact .inl rfl
        · exact .inr ⟨stored, old, rfl⟩
      · rcases List.mem_cons.mp member with rfl | old
        · exact .inr ⟨other, List.mem_cons_self, rfl⟩
        · exact .inr ⟨stored, List.mem_cons_of_mem other old, rfl⟩
      · rcases List.mem_cons.mp member with rfl | later
        · exact .inr ⟨stored, List.mem_cons_self, rfl⟩
        · rcases ih later with new | ⟨old, inRest, same⟩
          · exact .inl new
          · exact .inr ⟨old, List.mem_cons_of_mem other inRest, same⟩

theorem Ordered.put {corpus : MemoryCorpus} (ordered : corpus.Ordered) (file : StoredFile) :
    (corpus.put file).Ordered := by
  rcases corpus with ⟨files, unlistable⟩
  change (putInto file files).Pairwise _
  change files.Pairwise _ at ordered
  induction files with
  | nil => exact List.pairwise_singleton _ _
  | cons other rest ih =>
      obtain ⟨first, later⟩ := List.pairwise_cons.mp ordered
      rw [putInto]
      split
      case h_1 less =>
        apply List.pairwise_cons.mpr ⟨?_, ordered⟩
        intro stored member
        rcases List.mem_cons.mp member with rfl | inRest
        · exact less
        · exact Std.TransCmp.lt_trans less (first stored inRest)
      case h_2 equal => exact List.pairwise_cons.mpr ⟨first, later⟩
      case h_3 greater =>
        apply List.pairwise_cons.mpr ⟨?_, ih later⟩
        intro stored member
        rcases path_of_mem_putInto member with same | ⟨old, inRest, same⟩
        · rw [same]
          exact Std.OrientedCmp.gt_iff_lt.mp greater
        · rw [same]
          exact first old inRest

theorem Ordered.remove {corpus : MemoryCorpus} (ordered : corpus.Ordered) (path : Path) :
    (corpus.remove path).Ordered :=
  List.Pairwise.filter _ ordered

theorem Ordered.files_eq {corpus other : MemoryCorpus} (ordered : corpus.Ordered)
    (orderedToo : other.Ordered) (same : corpus.files.Perm other.files) :
    corpus.files = other.files := by
  apply List.Perm.eq_of_pairwise _ ordered orderedToo same
  intro file next _ _ before after
  exact absurd after (Std.OrientedCmp.not_lt_of_lt before)

end MemoryCorpus

end Callsite

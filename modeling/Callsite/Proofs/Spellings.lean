import Mathlib.Logic.Relation
import Callsite.Proofs.PathOrder

set_option autoImplicit false

/-! The spellings of a path. Two spellings have the same parts exactly when they differ only in doubled
slashes, in inner and final dots and in final slashes: steps that leave these out, taken forward and
backward, lead from each spelling to every other one of the same parts, and to no further ones. -/

namespace Callsite

namespace Path

/-- Leaving out one thing that does not count in the spelling of a path. -/
inductive Shortens : List Char → List Char → Prop
  | slash (before after : List Char) :
      Shortens (before ++ '/' :: '/' :: after) (before ++ '/' :: after)
  | dot (before after : List Char) :
      Shortens (before ++ '/' :: '.' :: '/' :: after) (before ++ '/' :: after)
  | lastDot (before : List Char) : Shortens (before ++ ['/', '.']) (before ++ ['/'])
  | lastSlash (before : List Char) (named : before ≠ []) : Shortens (before ++ ['/']) before

/-- Whether steps that leave out, or put in, what does not count lead from one spelling to the other. -/
def Respells : List Char → List Char → Prop :=
  Relation.EqvGen Shortens

namespace Respells

variable {text other further : List Char}

theorem refl (text : List Char) : Respells text text :=
  Relation.EqvGen.refl text

theorem symm (respells : Respells text other) : Respells other text :=
  Relation.EqvGen.symm _ _ respells

theorem trans (first : Respells text other) (second : Respells other further) :
    Respells text further :=
  Relation.EqvGen.trans _ _ _ first second

end Respells

theorem Shortens.respells {text other : List Char} (shortens : Shortens text other) :
    Respells text other :=
  Relation.EqvGen.rel _ _ shortens

/-! ### What counts is kept -/

theorem partsWithin_slash (after : List Char) : partsWithin ('/' :: after) = partsWithin after := by
  simp [partsWithin, segments]

theorem partsWithin_dot_slash (after : List Char) :
    partsWithin ('.' :: '/' :: after) = partsWithin after := by
  simp [partsWithin, segments]

theorem Shortens.parts_eq {text other : List Char} (shortens : Shortens text other) :
    (⟨String.ofList text⟩ : Path).parts = (⟨String.ofList other⟩ : Path).parts := by
  cases shortens with
  | slash before after =>
      rw [parts_append_slash before ('/' :: after), partsWithin_slash, ← parts_append_slash]
  | dot before after =>
      rw [parts_append_slash before ('.' :: '/' :: after), partsWithin_dot_slash, ← parts_append_slash]
  | lastDot before =>
      rw [parts_append_slash before]
      exact List.append_nil _
  | lastSlash before named => exact parts_slash named

theorem Respells.parts_eq {text other : List Char} (respells : Respells text other) :
    (⟨String.ofList text⟩ : Path).parts = (⟨String.ofList other⟩ : Path).parts := by
  induction respells with
  | rel text other shortens => exact shortens.parts_eq
  | refl text => rfl
  | symm text other _ ih => exact ih.symm
  | trans text other further _ _ first second => exact first.trans second

/-! ### Nothing else is kept

From each spelling there is a way to one that its parts determine. -/

def spelling : PathPart → List Char
  | .root => ['/']
  | .here => ['.']
  | .up => ['.', '.']
  | .name text => text.toList

@[simp] theorem spelling_ofSegment (segment : List Char) :
    spelling (.ofSegment segment) = segment := by
  unfold PathPart.ofSegment
  split
  case h_1 => rfl
  case h_2 => exact String.toList_ofList

/-- The spelling in which each part but the first stands after a slash. -/
def written : List PathPart → List Char
  | [] => []
  | first :: rest => spelling first ++ rest.flatMap fun part => '/' :: spelling part

theorem flatMap_segments (text : List Char) : ∀ segment,
    (segments segment text).flatMap (fun segment => '/' :: segment) = '/' :: (segment.reverse ++ text) := by
  induction text with
  | nil => simp [segments]
  | cons c text ih =>
      intro segment
      rw [segments]
      split
      case isTrue slash => simp [ih, slash]
      case isFalse => simp [ih]

/-- The parts of segments that stand after something else. -/
def partsOf (all : List (List Char)) : List PathPart :=
  (all.filter fun segment => segment ≠ [] && segment ≠ ['.']).map PathPart.ofSegment

theorem respells_skip {before segment : List Char} (named : before ≠ [])
    (idle : segment = [] ∨ segment = ['.']) (rest : List (List Char)) :
    Respells (before ++ ('/' :: segment ++ rest.flatMap fun segment => '/' :: segment))
      (before ++ rest.flatMap fun segment => '/' :: segment) := by
  have noSlash : Respells (before ++ ['/']) before := (Shortens.lastSlash before named).respells
  rcases idle with rfl | rfl
  case inl =>
    cases rest with
    | nil => simpa using noSlash
    | cons next rest => simpa using (Shortens.slash before _).respells
  case inr =>
    cases rest with
    | nil => simpa using (Shortens.lastDot before).respells.trans noSlash
    | cons next rest => simpa using (Shortens.dot before _).respells

theorem respells_partsOf (all : List (List Char)) : ∀ {before : List Char}, before ≠ [] →
    Respells (before ++ all.flatMap fun segment => '/' :: segment)
      (before ++ (partsOf all).flatMap fun part => '/' :: spelling part) := by
  -- The segments that count join what stands before the others.
  induction all with
  | nil => exact fun _ => .refl _
  | cons segment rest ih =>
      intro before named
      rw [List.flatMap_cons, partsOf]
      by_cases idle : segment = [] ∨ segment = ['.']
      · rw [List.filter_cons_of_neg (by simpa [or_iff_not_imp_left] using idle)]
        exact (respells_skip named idle rest).trans (ih named)
      · rw [List.filter_cons_of_pos (by simpa using idle), List.map_cons, List.flatMap_cons,
          spelling_ofSegment, ← List.append_assoc, ← List.append_assoc]
        exact ih (by simp)

theorem parts_slash_cons (rest : List Char) :
    (⟨String.ofList ('/' :: rest)⟩ : Path).parts = .root :: partsWithin rest := by
  have lead : (⟨String.ofList ['/']⟩ : Path).parts = [.root] := by decide
  have split := parts_append_slash [] rest
  simpa [lead] using split

theorem exists_parts_eq_cons {text first : List Char} {rest : List (List Char)}
    (cut : segments [] text = first :: rest) (named : first ≠ []) (relative : text.head? ≠ some '/') :
    ∃ part, spelling part = first ∧ (⟨String.ofList text⟩ : Path).parts = part :: partsOf rest := by
  by_cases dot : first = ['.']
  · refine ⟨.here, dot.symm, ?_⟩
    simp [parts, isAbsolute, relative, cut, dot, partsOf]
  · refine ⟨.ofSegment first, spelling_ofSegment first, ?_⟩
    simp [parts, isAbsolute, relative, cut, dot, named, partsOf]

theorem respells_written (text : List Char) :
    Respells text (written (⟨String.ofList text⟩ : Path).parts) := by
  by_cases absolute : text.head? = some '/'
  case pos =>
    -- With the leading slash doubled, something stands before the segments here as well.
    obtain ⟨rest, rfl⟩ := List.head?_eq_some_iff.mp absolute
    have doubled : Respells ('/' :: rest) (['/'] ++ '/' :: rest) := (Shortens.slash [] rest).respells.symm
    have kept : Respells (['/'] ++ '/' :: rest) _ :=
      flatMap_segments rest [] ▸ respells_partsOf (segments [] rest) (List.cons_ne_nil '/' [])
    rw [parts_slash_cons]
    exact doubled.trans kept
  case neg =>
    obtain ⟨first, rest, cut⟩ := List.exists_cons_of_ne_nil (segments_ne_nil text [])
    have joined : first ++ rest.flatMap (fun segment => '/' :: segment) = text := by
      have whole := flatMap_segments text []
      rw [cut, List.flatMap_cons] at whole
      exact (List.cons.inj whole).2
    cases text with
    | nil => exact .refl _
    | cons c text =>
        have named : first ≠ [] := by
          rintro rfl
          cases rest with
          | nil => cases joined
          | cons next rest => exact absolute (congrArg List.head? joined).symm
        obtain ⟨part, spelled, parts⟩ := exists_parts_eq_cons cut named absolute
        rw [parts, written, spelled, ← joined]
        exact respells_partsOf rest named

/-- Two paths have the same parts exactly when their spellings differ only in what does not count. -/
theorem parts_eq_iff_respells (path other : Path) :
    path.parts = other.parts ↔ Respells path.text.toList other.text.toList := by
  have back (path : Path) : (⟨String.ofList path.text.toList⟩ : Path) = path :=
    congrArg Path.mk String.ofList_toList
  constructor
  · intro same
    have there := respells_written path.text.toList
    have here := respells_written other.text.toList
    rw [back] at there here
    rw [same] at there
    exact there.trans here.symm
  · intro respells
    have same := respells.parts_eq
    rwa [back, back] at same

end Path

end Callsite

import Callsite.Text.Blank
import Callsite.Text.Lines

set_option autoImplicit false

/-! Lines that are joined by line feeds and split again. Each comes back without the carriage return at
its end, and the last one as it is, unless it is empty. White space around a line is the same before and
after. -/

namespace Callsite.Text

theorem closeLine_eq_reverse_or (line : List Char) :
    closeLine line = line.reverse ∨ line.reverse = closeLine line ++ ['\r'] := by
  cases line with
  | nil => exact Or.inl rfl
  | cons c rest =>
      by_cases carriage : c = '\r'
      · subst carriage
        exact Or.inr List.reverse_cons
      · exact Or.inl (by simp [closeLine, carriage])

theorem splitLines_append (line piece rest : List Char) (plain : '\n' ∉ piece) :
    splitLines line (piece ++ '\n' :: rest) = closeLine (piece.reverse ++ line) :: splitLines [] rest := by
  induction piece generalizing line with
  | nil => rfl
  | cons c piece ih =>
      have other : c ≠ '\n' := fun same => plain (same ▸ List.mem_cons_self)
      have further : '\n' ∉ piece := fun member => plain (List.mem_cons_of_mem c member)
      rw [List.cons_append, splitLines, if_neg other, ih (c :: line) further]
      simp

theorem splitLines_plain (line piece : List Char) (plain : '\n' ∉ piece) :
    splitLines line piece = if (piece.reverse ++ line).isEmpty then [] else [line.reverse ++ piece] := by
  induction piece generalizing line with
  | nil => simp [splitLines]
  | cons c piece ih =>
      have other : c ≠ '\n' := fun same => plain (same ▸ List.mem_cons_self)
      have further : '\n' ∉ piece := fun member => plain (List.mem_cons_of_mem c member)
      rw [splitLines, if_neg other, ih (c :: line) further]
      simp

theorem notMem_of_mem_splitLines {text piece : List Char} :
    ∀ {line : List Char}, '\n' ∉ line → piece ∈ splitLines line text → '\n' ∉ piece := by
  induction text with
  | nil =>
      intro line plain member
      rw [splitLines] at member
      split at member
      · contradiction
      · rw [List.mem_singleton.mp member]
        simpa using plain
  | cons c rest ih =>
      intro line plain member
      rw [splitLines] at member
      split at member
      · rcases List.mem_cons.mp member with rfl | later
        · rcases closeLine_eq_reverse_or line with same | more
          · simpa [same] using plain
          · intro inside
            have within : '\n' ∈ line.reverse := more ▸ List.mem_append_left _ inside
            exact plain (List.mem_reverse.mp within)
        · exact ih List.not_mem_nil later
      · rename_i other
        apply ih _ member
        intro inside
        rcases List.mem_cons.mp inside with same | earlier
        · exact other same.symm
        · exact plain earlier

theorem notMem_of_mem_lines {text line : String} (member : line ∈ lines text) : '\n' ∉ line.toList := by
  obtain ⟨piece, inText, rfl⟩ := List.mem_map.mp member
  rw [String.toList_ofList]
  exact notMem_of_mem_splitLines List.not_mem_nil inText

def dropCarriageReturn (line : String) : String :=
  String.ofList (closeLine line.toList.reverse)

/-- What is left of lines that are joined and split again. -/
def rejoined : List String → List String
  | [] => []
  | [line] => if line.toList.isEmpty then [] else [line]
  | line :: next :: rest => dropCarriageReturn line :: rejoined (next :: rest)

theorem lines_intercalate {pieces : List String} (plain : ∀ piece ∈ pieces, '\n' ∉ piece.toList) :
    lines ("\n".intercalate pieces) = rejoined pieces := by
  induction pieces with
  | nil => rfl
  | cons line rest ih =>
      have here : '\n' ∉ line.toList := plain line List.mem_cons_self
      cases rest with
      | nil =>
          rw [String.intercalate_singleton, lines, splitLines_plain [] line.toList here, rejoined,
            List.append_nil, List.isEmpty_reverse]
          split
          · rfl
          · simp
      | cons next rest =>
          have later := ih fun piece member => plain piece (List.mem_cons_of_mem line member)
          have joined : ("\n".intercalate (line :: next :: rest)).toList =
              line.toList ++ '\n' :: ("\n".intercalate (next :: rest)).toList := by
            simp [String.intercalate_cons_cons]
          rw [lines, joined, splitLines_append [] line.toList _ here, List.append_nil, List.map_cons,
            rejoined, ← later]
          rfl

theorem trimEnd_trimStart_append (text : List Char) {c : Char} (blank : isBlank c = true) :
    trimEnd (trimStart (text ++ [c])) = trimEnd (trimStart text) := by
  have lone : trimStart [c] = [] := by simp [trimStart, blank]
  rw [trimStart, List.dropWhile_append]
  by_cases none : (text.dropWhile isBlank).isEmpty
  · have nothing : text.dropWhile isBlank = [] := List.isEmpty_iff.mp none
    rw [if_pos none, trimStart, nothing]
    exact congrArg trimEnd lone
  · rw [if_neg none, trimStart, trimEnd, List.reverse_append, List.reverse_singleton,
      List.singleton_append, List.dropWhile_cons_of_pos blank]
    rfl

theorem trim_dropCarriageReturn (line : String) :
    trimEnd (trimStart (dropCarriageReturn line).toList) = trimEnd (trimStart line.toList) := by
  rw [dropCarriageReturn, String.toList_ofList]
  rcases closeLine_eq_reverse_or line.toList.reverse with same | more
  · rw [same, List.reverse_reverse]
  · rw [List.reverse_reverse] at more
    rw [more, trimEnd_trimStart_append _ (by decide)]
    rw [← more]

end Callsite.Text

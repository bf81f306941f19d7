import Callsite.Pattern.Search

set_option autoImplicit false

/-! Characters that every match consumes. A text that lacks one of them has no match, as
`Pattern.find?_eq_none_of_lacks` says; most lines are told apart by this alone. -/

namespace Callsite

def CharSet.only? : CharSet → Option Char
  | range low high => if low = high then some low else none
  | _ => none

theorem CharSet.eq_of_only? {set : CharSet} {only c : Char} (single : set.only? = some only)
    (member : set.has c = true) : c = only := by
  cases set <;> simp only [only?, reduceCtorEq] at single
  rename_i low high
  split at single
  · rename_i same
    simp only [Option.some.injEq] at single
    subst single same
    simp only [has, Bool.and_eq_true, decide_eq_true_eq] at member
    exact Char.le_antisymm member.2 member.1
  · simp at single

namespace Pattern

def needed : Pattern → List Char
  | chars set => set.only?.toList
  | seq first second => first.needed ++ second.needed
  | group _ body => body.needed
  | repeated _ body => body.needed
  | _ => []

private theorem exists_of_mem_furtherWays {body : Cursor → List Way} {greedy : Bool}
    (step : ∀ cursor, ∀ way ∈ body cursor, ∃ consumed, cursor.rest = consumed ++ way.stop.rest)
    {cursor : Cursor} {way : Way} (member : way ∈ furtherWays body greedy cursor) :
    ∃ consumed, cursor.rest = consumed ++ way.stop.rest := by
  induction cursor using (measure fun cursor : Cursor => cursor.rest.length).wf.induction
    generalizing way with
  | _ cursor ih =>
    rcases mem_furtherWays_iff.mp member with rfl | ⟨round, inBody, shorter, further, inFurther, rfl⟩
    · exact ⟨[], rfl⟩
    · obtain ⟨one, first⟩ := step cursor round inBody
      obtain ⟨two, second⟩ := ih round.stop shorter inFurther
      exact ⟨one ++ two, by rw [first, second, List.append_assoc]; rfl⟩

/-- A way consumes a beginning of the text at the cursor, the needed characters among it. -/
theorem exists_consumed {pattern : Pattern} {cursor : Cursor} {way : Way}
    (member : way ∈ pattern.ways cursor) :
    ∃ consumed, cursor.rest = consumed ++ way.stop.rest ∧ ∀ c ∈ pattern.needed, c ∈ consumed := by
  induction pattern generalizing cursor way with
  | empty =>
      simp only [ways, List.mem_singleton] at member
      exact ⟨[], by rw [member]; rfl, by simp [needed]⟩
  | chars set =>
      rw [ways] at member
      cases here : cursor.rest with
      | nil => simp [here] at member
      | cons c rest =>
          simp only [here] at member
          split at member
          · rename_i has
            simp only [List.mem_singleton] at member
            refine ⟨[c], by rw [member]; rfl, fun only inNeeded => ?_⟩
            simp only [needed, Option.mem_toList] at inNeeded
            simp [CharSet.eq_of_only? inNeeded has]
          · simp at member
  | look condition =>
      rw [ways] at member
      split at member
      · simp only [List.mem_singleton] at member
        exact ⟨[], by rw [member]; rfl, by simp [needed]⟩
      · simp at member
  | seq first second ihFirst ihSecond =>
      simp only [ways, List.mem_flatMap, List.mem_map] at member
      obtain ⟨one, inFirst, two, inSecond, rfl⟩ := member
      obtain ⟨before, split, hasFirst⟩ := ihFirst inFirst
      obtain ⟨after, splitRest, hasSecond⟩ := ihSecond inSecond
      refine ⟨before ++ after, by rw [split, splitRest, List.append_assoc]; rfl, fun c inNeeded => ?_⟩
      rw [needed, List.mem_append] at inNeeded
      exact List.mem_append.mpr (inNeeded.imp (hasFirst c) (hasSecond c))
  | alt first second ihFirst ihSecond =>
      simp only [ways, List.mem_append] at member
      rcases member with member | member
      · obtain ⟨consumed, split, _⟩ := ihFirst member
        exact ⟨consumed, split, by simp [needed]⟩
      · obtain ⟨consumed, split, _⟩ := ihSecond member
        exact ⟨consumed, split, by simp [needed]⟩
  | group index body ih =>
      simp only [ways, List.mem_map] at member
      obtain ⟨inner, inBody, rfl⟩ := member
      obtain ⟨consumed, split, has⟩ := ih inBody
      exact ⟨consumed, split, has⟩
  | repeated greedy body ih =>
      simp only [ways, List.mem_flatMap] at member
      obtain ⟨round, inBody, member⟩ := member
      obtain ⟨one, split, has⟩ := ih inBody
      split at member
      · simp only [List.mem_singleton] at member
        exact ⟨one, by rw [member]; exact split, has⟩
      · simp only [List.mem_map] at member
        obtain ⟨further, inFurther, rfl⟩ := member
        obtain ⟨two, splitRest⟩ := exists_of_mem_furtherWays
          (fun cursor way inBody => (ih inBody).imp fun _ found => found.1) inFurther
        refine ⟨one ++ two, by rw [split, splitRest, List.append_assoc]; rfl, fun c inNeeded => ?_⟩
        exact List.mem_append_left two (has c inNeeded)

def mayMatch (needed text : List Char) : Bool :=
  needed.all text.contains

private theorem isSuffixOf_of_mem_positions {text : List Char} {before : Option Char} {offset : Nat}
    {cursor : Cursor} (member : cursor ∈ positions text before offset) : cursor.rest <:+ text := by
  induction text generalizing before offset with
  | nil =>
      simp only [positions, List.mem_singleton] at member
      simp [member]
  | cons c rest ih =>
      simp only [positions, List.mem_cons] at member
      rcases member with rfl | member
      · exact List.suffix_refl _
      · exact (ih member).trans (List.suffix_cons c rest)

private theorem match?_eq_none_of_lacks {pattern : Pattern} {text : List Char}
    (lacks : mayMatch pattern.needed text = false) {cursor : Cursor}
    (member : cursor ∈ positions text none 0) : pattern.match? cursor = none := by
  cases found : pattern.match? cursor with
  | none => rfl
  | some way =>
      obtain ⟨consumed, split, has⟩ := exists_consumed (List.mem_of_head? found)
      have all : mayMatch pattern.needed text = true := by
        simp only [mayMatch, List.all_eq_true, List.contains_iff_mem]
        intro c inNeeded
        refine (isSuffixOf_of_mem_positions member).subset ?_
        rw [split]
        exact List.mem_append_left _ (has c inNeeded)
      rw [all] at lacks
      simp at lacks

theorem find?_eq_none_of_lacks {pattern : Pattern} {text : List Char}
    (lacks : mayMatch pattern.needed text = false) : pattern.find? text = none := by
  rw [find?_eq, List.findSome?_eq_none_iff]
  intro cursor member
  rw [match?_eq_none_of_lacks lacks member]
  rfl

private theorem select_eq_nil (starts : List (Cursor × Thunk (Option Way)))
    (noWay : ∀ start ∈ starts, start.2.get = none) : select none starts = [] := by
  induction starts with
  | nil => rfl
  | cons head tail ih =>
      rw [select, noWay head (by simp)]
      simp [overlaps, ih fun start member => noWay start (by simp [member])]

theorem findAll_eq_nil_of_lacks {pattern : Pattern} {text : List Char}
    (lacks : mayMatch pattern.needed text = false) : pattern.findAll text = [] := by
  rw [findAll_eq]
  refine select_eq_nil _ fun start member => ?_
  obtain ⟨cursor, inText, rfl⟩ := List.mem_map.mp member
  exact match?_eq_none_of_lacks lacks inText

end Pattern

end Callsite

import Mathlib.Data.List.Pairwise
import Callsite.Proofs.Language.Names

set_option autoImplicit false

/-! What a search for all matches leaves out. A position with a match that is not among the matches found is
covered by one of them, which begins before it and ends behind it. The matches found do not overlap. -/

namespace Callsite

namespace Cursor.Reaches

variable {cursor stop other : Cursor} {consumed more : List Char}

theorem eq_of_rest (reaches : Reaches cursor consumed stop) (split : cursor.rest = more ++ stop.rest) :
    consumed = more :=
  List.append_cancel_right (reaches.rest_eq.symm.trans split)

theorem unique (reaches : Reaches cursor consumed stop) (reachesToo : Reaches cursor consumed other) :
    stop = other := by
  induction reaches with
  | here =>
      cases reachesToo
      rfl
  | past split _ ih =>
      cases reachesToo with
      | past splitToo later =>
          cases (List.cons.inj (split.symm.trans splitToo)).2
          exact ih later

theorem split (reaches : Reaches cursor (consumed ++ more) stop) :
    ∃ middle, Reaches cursor consumed middle ∧ Reaches middle more stop := by
  induction consumed generalizing cursor with
  | nil => exact ⟨cursor, .here cursor, reaches⟩
  | cons c consumed ih =>
      cases reaches with
      | past split later =>
          obtain ⟨middle, first, second⟩ := ih later
          exact ⟨middle, .past split first, second⟩

theorem before_eq {last : Char} (reaches : Reaches cursor (consumed ++ [last]) stop) :
    stop.before = some last := by
  obtain ⟨middle, _, final⟩ := reaches.split
  cases final with
  | past split done =>
      cases done
      rfl

theorem before_start {text : List Char} (reaches : Reaches (.start text) consumed stop) :
    stop.before = consumed.getLast? := by
  rcases List.eq_nil_or_concat' consumed with rfl | ⟨init, last, rfl⟩
  · cases reaches
    rfl
  · rw [List.getLast?_concat]
    exact reaches.before_eq

theorem offset_le (reaches : Reaches cursor consumed stop) : cursor.offset ≤ stop.offset := by
  induction reaches with
  | here => exact Nat.le_refl _
  | past _ _ ih => exact Nat.le_trans (Nat.le_add_right _ _) ih

theorem offset_lt (reaches : Reaches cursor consumed stop) (some : consumed ≠ []) :
    cursor.offset < stop.offset := by
  cases reaches with
  | here => contradiction
  | @past cursor stop c rest consumed split later =>
      have step : cursor.offset < (cursor.past c rest).offset :=
        Nat.lt_add_of_pos_right (Char.utf8Size_pos c)
      exact Nat.lt_of_lt_of_le step later.offset_le

theorem between (reaches : Reaches cursor consumed stop) (reachesToo : Reaches cursor more other)
    (earlier : stop.offset < other.offset) : ∃ gone, gone ≠ [] ∧ Reaches stop gone other := by
  induction reaches generalizing more with
  | here =>
      refine ⟨more, ?_, reachesToo⟩
      rintro rfl
      cases reachesToo
      exact Nat.lt_irrefl _ earlier
  | past split later ih =>
      cases reachesToo with
      | here =>
          have back := (Cursor.Reaches.past split later).offset_le
          exact absurd earlier (Nat.not_lt_of_le back)
      | past splitToo laterToo =>
          obtain ⟨rfl, rfl⟩ := List.cons.inj (split.symm.trans splitToo)
          exact ih laterToo earlier

end Cursor.Reaches

theorem Cursor.exists_reaches {consumed rest : List Char} :
    ∀ {cursor : Cursor}, cursor.rest = consumed ++ rest →
      ∃ stop, cursor.Reaches consumed stop ∧ stop.rest = rest := by
  induction consumed with
  | nil => exact fun {cursor} split => ⟨cursor, .here cursor, split⟩
  | cons c consumed ih =>
      intro cursor split
      have after : (cursor.past c (consumed ++ rest)).rest = consumed ++ rest := rfl
      obtain ⟨stop, reaches, left⟩ := ih after
      exact ⟨stop, .past split reaches, left⟩

theorem mem_positions_of_reaches {text consumed : List Char} {cursor : Cursor} :
    ∀ {before : Option Char} {offset : Nat}, Cursor.Reaches ⟨before, text, offset⟩ consumed cursor →
      cursor ∈ positions text before offset := by
  induction text generalizing consumed with
  | nil =>
      intro before offset reaches
      cases reaches with
      | here => exact List.mem_singleton_self _
      | past split _ => contradiction
  | cons c rest ih =>
      intro before offset reaches
      cases reaches with
      | here => exact List.mem_cons_self
      | past split later =>
          obtain ⟨rfl, rfl⟩ := List.cons.inj split
          exact List.mem_cons_of_mem _ (ih later)

theorem pairwise_positions (text : List Char) : ∀ (before : Option Char) (offset : Nat),
    (positions text before offset).Pairwise fun first second => first.offset < second.offset := by
  induction text with
  | nil => exact fun _ _ => List.pairwise_singleton _ _
  | cons c rest ih =>
      intro before offset
      refine List.pairwise_cons.mpr ⟨fun later member => ?_, ih _ _⟩
      obtain ⟨consumed, reaches⟩ := exists_reaches_of_mem_positions member
      have step : offset < offset + c.utf8Size := Nat.lt_add_of_pos_right (Char.utf8Size_pos c)
      exact Nat.lt_of_lt_of_le step reaches.offset_le

/-- Of the two matches, one ends before the other begins. -/
def Found.Apart (first second : Found) : Prop :=
  first.stop ≤ second.start.offset ∨ second.stop ≤ first.start.offset

instance : Std.Symm Found.Apart :=
  ⟨fun _ _ => Or.symm⟩

namespace Pattern

theorem exists_cover_of_mem {starts : List (Cursor × Thunk (Option Way))}
    (order : starts.Pairwise fun first second => first.1.offset < second.1.offset) {found : Found}
    (filled : found.isEmpty = false) {match? : Thunk (Option Way)} (matched : match?.get = some found.way)
    (member : (found.start, match?) ∈ starts) :
    ∀ {taken : Option Nat}, overlaps taken found.start = false →
      ∃ cover ∈ select taken starts, cover = found ∨
        cover.start.offset < found.start.offset ∧ found.start.offset < cover.stop := by
  induction starts with
  | nil => contradiction
  | cons head rest ih =>
      intro taken free
      obtain ⟨ahead, orderRest⟩ := List.pairwise_cons.mp order
      rw [select]
      rcases List.mem_cons.mp member with rfl | later
      · rw [if_neg (by rw [free]; exact Bool.false_ne_true), matched]
        dsimp only
        rw [if_neg (by rw [filled]; exact Bool.false_ne_true)]
        exact ⟨found, List.mem_cons_self, .inl rfl⟩
      · split
        · exact ih orderRest later free
        split
        · exact ih orderRest later free
        · rename_i way _
          dsimp only
          split
          · exact ih orderRest later free
          · by_cases reached : found.start.offset < way.stop.offset
            · exact ⟨⟨head.1, way⟩, List.mem_cons_self, .inr ⟨ahead _ later, reached⟩⟩
            · have open_ : overlaps (some way.stop.offset) found.start = false := decide_eq_false reached
              obtain ⟨cover, inRest, covers⟩ := ih orderRest later open_
              exact ⟨cover, List.mem_cons_of_mem _ inRest, covers⟩

private theorem pairwise_starts (pattern : Pattern) (text : List Char) :
    ((positions text none 0).map fun start => (start, Thunk.pure (pattern.match? start))).Pairwise
      fun first second => first.1.offset < second.1.offset :=
  List.pairwise_map.mpr (pairwise_positions text none 0)

/-- Where a pattern matches, and consumes something, a match has been found or covers the position. -/
theorem exists_cover_of_match? {pattern : Pattern} {text before : List Char} {start : Cursor}
    (reached : (Cursor.start text).Reaches before start) {way : Way}
    (matched : pattern.match? start = some way) (moved : start.offset < way.stop.offset) :
    ∃ cover ∈ pattern.findAll text, cover = ⟨start, way⟩ ∨
      cover.start.offset < start.offset ∧ start.offset < cover.stop := by
  have filled : (Found.mk start way).isEmpty = false := decide_eq_false (Nat.ne_of_gt moved)
  have member : (start, Thunk.pure (pattern.match? start)) ∈
      (positions text none 0).map fun start => (start, Thunk.pure (pattern.match? start)) :=
    List.mem_map.mpr ⟨start, mem_positions_of_reaches reached, rfl⟩
  have got : (Thunk.pure (pattern.match? start)).get = some (Found.mk start way).way := matched
  rw [findAll_eq]
  exact exists_cover_of_mem (pairwise_starts pattern text) filled got member rfl

theorem not_overlaps_of_mem_select {starts : List (Cursor × Thunk (Option Way))}
    (order : starts.Pairwise fun first second => first.1.offset < second.1.offset) {found : Found} :
    ∀ {taken : Option Nat}, found ∈ select taken starts → overlaps taken found.start = false := by
  induction starts with
  | nil => intro taken member; contradiction
  | cons head rest ih =>
      intro taken member
      obtain ⟨ahead, orderRest⟩ := List.pairwise_cons.mp order
      rw [select] at member
      split at member
      · exact ih orderRest member
      rename_i free
      rw [Bool.not_eq_true] at free
      split at member
      · exact ih orderRest member
      · dsimp only at member
        split at member
        · exact ih orderRest member
        · rcases List.mem_cons.mp member with rfl | later
          · exact free
          · obtain ⟨start, inRest, same, _⟩ := exists_of_mem_select later
            have behind := ahead start inRest
            rw [same] at behind
            cases taken with
            | none => rfl
            | some stop =>
                have early : ¬head.1.offset < stop := of_decide_eq_false free
                exact decide_eq_false fun overlap => early (Nat.lt_trans behind overlap)

theorem pairwise_select {starts : List (Cursor × Thunk (Option Way))}
    (order : starts.Pairwise fun first second => first.1.offset < second.1.offset) :
    ∀ {taken : Option Nat},
      (select taken starts).Pairwise fun first second => first.stop ≤ second.start.offset := by
  induction starts with
  | nil => exact List.Pairwise.nil
  | cons head rest ih =>
      intro taken
      obtain ⟨_, orderRest⟩ := List.pairwise_cons.mp order
      rw [select]
      split
      · exact ih orderRest
      split
      · exact ih orderRest
      · dsimp only
        split
        · exact ih orderRest
        · refine List.pairwise_cons.mpr ⟨fun later member => ?_, ih orderRest⟩
          exact Nat.le_of_not_lt (of_decide_eq_false (not_overlaps_of_mem_select orderRest member))

theorem apart_of_mem_findAll {pattern : Pattern} {text : List Char} {first second : Found}
    (member : first ∈ pattern.findAll text) (memberToo : second ∈ pattern.findAll text)
    (other : first ≠ second) : first.Apart second := by
  have apart : (pattern.findAll text).Pairwise Found.Apart := by
    rw [findAll_eq]
    exact (pairwise_select (pairwise_starts pattern text)).imp Or.inl
  exact apart.forall member memberToo other

theorem isSome_find?_of_mem {pattern : Pattern} {text before : List Char} {start : Cursor}
    (reached : (Cursor.start text).Reaches before start) {way : Way} (member : way ∈ pattern.ways start) :
    (pattern.find? text).isSome = true := by
  rw [find?_eq, List.findSome?_isSome_iff]
  refine ⟨start, mem_positions_of_reaches reached, ?_⟩
  rw [Option.isSome_map, match?, List.isSome_head?]
  exact List.ne_nil_of_mem member

end Pattern

end Callsite

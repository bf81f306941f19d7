import Callsite.Proofs.Pattern.Captures

set_option autoImplicit false

/-! Text behind the reach of a pattern. A text that goes on with `more` has the same ways as without it, as
long as they end before `more` begins and nothing in the pattern can tell what begins there from the end of the
text. If the last character that a pattern consumes does not occur in `more`, all its ways are of that
kind, and the matches in both texts are the same. -/

namespace Callsite

/-! ### Positions and ways in a longer text -/

def Cursor.extend (more : List Char) (cursor : Cursor) : Cursor :=
  ⟨cursor.before, cursor.rest ++ more, cursor.offset⟩

def Mark.extend (more : List Char) : Mark → Mark
  | .opened index position => .opened index (position.extend more)
  | .closed index position => .closed index (position.extend more)

def Way.extend (more : List Char) (way : Way) : Way :=
  ⟨way.marks.map (Mark.extend more), way.stop.extend more⟩

def Found.extend (more : List Char) (found : Found) : Found :=
  ⟨found.start.extend more, found.way.extend more⟩

section

variable {more : List Char}

@[simp] theorem Cursor.extend_before (cursor : Cursor) : (cursor.extend more).before = cursor.before := rfl

@[simp] theorem Cursor.extend_rest (cursor : Cursor) : (cursor.extend more).rest = cursor.rest ++ more := rfl

@[simp] theorem Cursor.extend_offset (cursor : Cursor) : (cursor.extend more).offset = cursor.offset := rfl

@[simp] theorem Cursor.extend_past (cursor : Cursor) (c : Char) (rest : List Char) :
    (cursor.past c rest).extend more = (cursor.extend more).past c (rest ++ more) := rfl

theorem Cursor.extend_inj {cursor other : Cursor} : cursor.extend more = other.extend more ↔ cursor = other := by
  rcases cursor with ⟨before, rest, offset⟩
  rcases other with ⟨before', rest', offset'⟩
  simp [extend]

theorem Cursor.textUpTo_extend (cursor stop : Cursor) :
    (cursor.extend more).textUpTo (stop.extend more) = cursor.textUpTo stop := by
  simp only [textUpTo, extend_rest, List.length_append, Nat.add_sub_add_right]
  exact List.take_append_of_le_length (Nat.sub_le _ _)

@[simp] theorem Way.extend_stop (way : Way) : (way.extend more).stop = way.stop.extend more := rfl

@[simp] theorem Way.extend_here (cursor : Cursor) :
    (Way.here cursor).extend more = .here (cursor.extend more) := rfl

@[simp] theorem Way.extend_append (first second : Way) :
    (first.append second).extend more = (first.extend more).append (second.extend more) := by
  simp [Way.extend, Way.append]

theorem Way.extend_around (way : Way) (index : Nat) (cursor : Cursor) :
    ((way.append (.closedAt index way.stop (.here way.stop))).openedAt index cursor).extend more =
      ((way.extend more).append (.closedAt index (way.extend more).stop
        (.here (way.extend more).stop))).openedAt index (cursor.extend more) := by
  simp [Way.extend, Way.append, openedAt, closedAt, here, Mark.extend]

theorem Way.opens_extend (way : Way) (index : Nat) :
    (way.extend more).opens index = (way.opens index).map (Cursor.extend more) := by
  rw [opens, opens, Way.extend, List.filterMap_map, List.map_filterMap]
  congr 1
  funext mark
  cases mark with
  | opened i position => by_cases same : i = index <;> simp [Mark.extend, same]
  | closed i position => rfl

theorem Way.closes_extend (way : Way) (index : Nat) :
    (way.extend more).closes index = (way.closes index).map (Cursor.extend more) := by
  rw [closes, closes, Way.extend, List.filterMap_map, List.map_filterMap]
  congr 1
  funext mark
  cases mark with
  | opened i position => rfl
  | closed i position => by_cases same : i = index <;> simp [Mark.extend, same]

theorem Way.group?_extend (way : Way) (index : Nat) :
    (way.extend more).group? index =
      (way.group? index).map fun (start, stop) => (start.extend more, stop.extend more) := by
  rw [group?_eq, group?_eq, opens_extend, closes_extend, List.getLast?_map, List.getLast?_map]
  cases (way.opens index).getLast? with
  | none => rfl
  | some start =>
      cases (way.closes index).getLast? with
      | none => rfl
      | some stop => rfl

end

namespace Pattern

def looks : Pattern → List Look
  | empty | chars _ => []
  | look condition => [condition]
  | seq first second | alt first second => first.looks ++ second.looks
  | group _ body | repeated _ body => body.looks

/-- Whether a pattern takes `more` for the end of the text. -/
def Overlooks (pattern : Pattern) (more : List Char) : Prop :=
  ∀ condition ∈ pattern.looks, ∀ before, condition.holds before more.head? = condition.holds before none

/-- Whether a way leaves `more` untouched. -/
def Spares (more : List Char) (way : Way) : Bool :=
  more.length ≤ way.stop.rest.length

section

variable {more : List Char}

theorem spares_extend (way : Way) : Spares more (way.extend more) = true := by
  simp [Spares]

theorem spares_append (first second : Way) : Spares more (first.append second) = Spares more second := rfl

theorem filter_spares_flatMap {ways : List Way} {further : Way → List Way}
    (late : ∀ way ∈ ways, ∀ next ∈ further way, next.stop.rest.length ≤ way.stop.rest.length) :
    (ways.flatMap further).filter (Spares more) =
      (ways.filter (Spares more)).flatMap fun way => (further way).filter (Spares more) := by
  induction ways with
  | nil => rfl
  | cons way rest ih =>
      obtain ⟨here, later⟩ := List.forall_mem_cons.mp late
      rw [List.flatMap_cons, List.filter_append, ih later]
      by_cases spares : Spares more way = true
      · rw [List.filter_cons_of_pos spares, List.flatMap_cons]
      · rw [List.filter_cons_of_neg spares, List.filter_eq_nil_iff.mpr, List.nil_append]
        intro next member
        have shorter := here next member
        simp only [Spares, decide_eq_true_eq] at spares ⊢
        omega

theorem AtOrAfter.length_le {cursor stop : Cursor} (late : AtOrAfter cursor stop) :
    stop.rest.length ≤ cursor.rest.length := by
  rcases late with rfl | shorter
  · exact Nat.le_refl _
  · exact Nat.le_of_lt shorter

theorem filter_spares_map_append {way : Way} {further longer : List Way}
    (same : longer.filter (Spares more) = further.map (Way.extend more)) :
    (longer.map (way.extend more).append).filter (Spares more) =
      (further.map way.append).map (Way.extend more) := by
  have spares : Spares more ∘ (way.extend more).append = Spares more :=
    funext fun next => spares_append (way.extend more) next
  have extends_ : Way.extend more ∘ way.append = (way.extend more).append ∘ Way.extend more :=
    funext fun next => Way.extend_append way next
  rw [List.filter_map, spares, same, List.map_map, List.map_map, extends_]

theorem length_le_of_mem_map_append {way next : Way} {further : List Way}
    (late : ∀ other ∈ further, AtOrAfter way.stop other.stop) (member : next ∈ further.map way.append) :
    next.stop.rest.length ≤ way.stop.rest.length := by
  obtain ⟨other, inFurther, rfl⟩ := List.mem_map.mp member
  exact (late other inFurther).length_le

theorem furtherWays_extend {body : Cursor → List Way} {greedy : Bool}
    (step : ∀ cursor, (body (cursor.extend more)).filter (Spares more) = (body cursor).map (Way.extend more))
    (cursor : Cursor) :
    (furtherWays body greedy (cursor.extend more)).filter (Spares more) =
      (furtherWays body greedy cursor).map (Way.extend more) := by
  induction cursor using (measure fun cursor : Cursor => cursor.rest.length).wf.induction with
  | _ cursor ih =>
    have rounds : ((body (cursor.extend more)).flatMap fun way =>
          if way.stop.rest.length < (cursor.extend more).rest.length then
            (furtherWays body greedy way.stop).map way.append
          else []).filter (Spares more) =
        ((body cursor).flatMap fun way =>
          if way.stop.rest.length < cursor.rest.length then (furtherWays body greedy way.stop).map way.append
          else []).map (Way.extend more) := by
      rw [filter_spares_flatMap, step, List.flatMap_map, List.map_flatMap]
      · apply List.flatMap_congr
        intro way _
        have shorter : (way.extend more).stop.rest.length < (cursor.extend more).rest.length ↔
            way.stop.rest.length < cursor.rest.length := by simp
        simp only [shorter]
        split
        · rename_i progress
          exact filter_spares_map_append (ih way.stop progress)
        · rfl
      · intro way _ next member
        split at member
        · exact length_le_of_mem_map_append (fun _ => mem_furtherWays) member
        · contradiction
    have leaves : [Way.here (cursor.extend more)].filter (Spares more) =
        [Way.here cursor].map (Way.extend more) :=
      List.filter_cons_of_pos (spares_extend (.here cursor))
    rw [furtherWays, furtherWays]
    cases greedy with
    | true => simp only [if_true, List.filter_append, List.map_append, rounds, leaves]
    | false =>
        rw [if_neg Bool.false_ne_true, if_neg Bool.false_ne_true, ← List.singleton_append,
          List.filter_append, rounds, leaves]
        rfl

/-- The ways of the longer text that leave `more` untouched are those of the text itself. -/
theorem ways_extend {pattern : Pattern} (overlooks : pattern.Overlooks more) (cursor : Cursor) :
    (pattern.ways (cursor.extend more)).filter (Spares more) =
      (pattern.ways cursor).map (Way.extend more) := by
  induction pattern generalizing cursor with
  | empty => exact List.filter_cons_of_pos (spares_extend (.here cursor))
  | chars set =>
      rcases cursor with ⟨before, rest, offset⟩
      cases rest with
      | nil =>
          -- A character of `more` is not spared.
          cases more with
          | nil => rfl
          | cons c further =>
              simp only [ways, Cursor.extend, List.nil_append]
              split
              · simp [Spares, Way.here, Cursor.past]
              · rfl
      | cons c rest =>
          simp only [ways, Cursor.extend, List.cons_append]
          split
          · exact List.filter_cons_of_pos (spares_extend (.here (Cursor.past ⟨before, c :: rest, offset⟩ c rest)))
          · rfl
  | look condition =>
      have same : condition.holds cursor.before (cursor.rest ++ more).head? =
          condition.holds cursor.before cursor.rest.head? := by
        cases cursor.rest with
        | nil => exact overlooks condition (List.mem_singleton_self condition) cursor.before
        | cons c rest => rfl
      simp only [ways, Cursor.extend_before, Cursor.extend_rest, same]
      split
      · exact List.filter_cons_of_pos (spares_extend (.here cursor))
      · rfl
  | seq first second ihFirst ihSecond =>
      obtain ⟨here, there⟩ := List.forall_mem_append.mp overlooks
      rw [ways, ways, filter_spares_flatMap, ihFirst here, List.flatMap_map, List.map_flatMap]
      · apply List.flatMap_congr
        intro way _
        exact filter_spares_map_append (ihSecond there way.stop)
      · intro way _ next member
        exact length_le_of_mem_map_append (fun _ => mem_ways) member
  | alt first second ihFirst ihSecond =>
      obtain ⟨here, there⟩ := List.forall_mem_append.mp overlooks
      rw [ways, ways, List.filter_append, List.map_append, ihFirst here, ihSecond there]
  | group index body ih =>
      have spares : Spares more ∘ (fun way : Way => (way.append
          (.closedAt index way.stop (.here way.stop))).openedAt index (cursor.extend more)) = Spares more := rfl
      rw [ways, ways, List.filter_map, spares, ih overlooks, List.map_map, List.map_map]
      apply List.map_congr_left
      intro way _
      exact (Way.extend_around way index cursor).symm
  | repeated greedy body ih =>
      rw [ways, ways, filter_spares_flatMap, ih overlooks, List.flatMap_map, List.map_flatMap]
      · apply List.flatMap_congr
        intro way _
        simp only [Way.extend_stop, Cursor.extend_inj]
        split
        · exact List.filter_cons_of_pos (spares_extend way)
        · exact filter_spares_map_append (furtherWays_extend (ih overlooks) way.stop)
      · intro way _ next member
        split at member
        · cases List.mem_singleton.mp member
          exact Nat.le_refl _
        · exact length_le_of_mem_map_append (fun _ => mem_furtherWays) member

/-! ### Searching a longer text -/

/-- Whether every way consumes something, and `last` as the last character. -/
def EndsWith (pattern : Pattern) (last : Char) : Prop :=
  ∀ cursor, ∀ way ∈ pattern.ways cursor, ∃ consumed, cursor.Reaches (consumed ++ [last]) way.stop

variable {pattern : Pattern} {last : Char}

theorem EndsWith.mem_rest (ends : pattern.EndsWith last) {cursor : Cursor} {way : Way}
    (member : way ∈ pattern.ways cursor) : last ∈ cursor.rest := by
  obtain ⟨consumed, reaches⟩ := ends cursor way member
  simp [reaches.rest_eq]

theorem EndsWith.spares (ends : pattern.EndsWith last) (absent : last ∉ more) {cursor : Cursor} {way : Way}
    (member : way ∈ pattern.ways (cursor.extend more)) : Spares more way = true := by
  obtain ⟨consumed, reaches⟩ := ends _ way member
  have split := reaches.rest_eq
  rw [Cursor.extend_rest, List.append_assoc] at split
  by_contra touched
  simp only [Spares, decide_eq_true_eq] at touched
  apply absent
  have long : ([last] ++ way.stop.rest).length ≤ more.length := by
    simp
    omega
  have within : [last] ++ way.stop.rest <:+ more :=
    List.suffix_of_suffix_length_le ⟨consumed, split.symm⟩ (List.suffix_append cursor.rest more) long
  exact within.subset List.mem_cons_self

theorem match?_extend (overlooks : pattern.Overlooks more) (ends : pattern.EndsWith last)
    (absent : last ∉ more) (cursor : Cursor) :
    pattern.match? (cursor.extend more) = (pattern.match? cursor).map (Way.extend more) := by
  have all : (pattern.ways (cursor.extend more)).filter (Spares more) = pattern.ways (cursor.extend more) :=
    List.filter_eq_self.mpr fun _ member => ends.spares absent member
  rw [match?, match?, ← all, ways_extend overlooks, List.head?_map]

theorem EndsWith.match?_eq_none (ends : pattern.EndsWith last) {cursor : Cursor}
    (absent : last ∉ cursor.rest) : pattern.match? cursor = none := by
  cases found : pattern.match? cursor with
  | none => rfl
  | some way => exact absurd (ends.mem_rest (List.mem_of_head? found)) absent

theorem exists_positions_append (text more : List Char) :
    ∀ before offset, ∃ further, positions (text ++ more) before offset =
      (positions text before offset).map (Cursor.extend more) ++ further ∧
        ∀ cursor ∈ further, cursor.rest <:+ more := by
  have behind (rest : List Char) : ∀ before offset, ∀ cursor ∈ positions rest before offset,
      cursor.rest <:+ rest := by
    intro before offset cursor member
    obtain ⟨consumed, reaches⟩ := exists_reaches_of_mem_positions member
    exact ⟨consumed, reaches.rest_eq.symm⟩
  induction text with
  | nil =>
      intro before offset
      cases more with
      | nil => exact ⟨[], by simp [positions, Cursor.extend], nofun⟩
      | cons c rest =>
          refine ⟨positions rest (some c) (offset + c.utf8Size), by simp [positions, Cursor.extend], ?_⟩
          intro cursor member
          exact (behind rest _ _ cursor member).trans (List.suffix_cons c rest)
  | cons c text ih =>
      intro before offset
      obtain ⟨further, split, rests⟩ := ih (some c) (offset + c.utf8Size)
      exact ⟨further, by simp [positions, split, Cursor.extend], rests⟩

private theorem select_of_none {cursors : List Cursor} (none : ∀ cursor ∈ cursors, pattern.match? cursor = none) :
    ∀ taken, select taken (cursors.map fun start => (start, Thunk.pure (pattern.match? start))) = [] := by
  induction cursors with
  | nil => exact fun _ => rfl
  | cons cursor rest ih =>
      intro taken
      obtain ⟨here, later⟩ := List.forall_mem_cons.mp none
      have nothing : (Thunk.pure (pattern.match? cursor)).get = Option.none := here
      rw [List.map_cons, select, nothing]
      simp only [ih later, ite_self]

private theorem select_extend {cursors further : List Cursor}
    (same : ∀ cursor, pattern.match? (cursor.extend more) = (pattern.match? cursor).map (Way.extend more))
    (none : ∀ cursor ∈ further, pattern.match? cursor = none) :
    ∀ taken, select taken ((cursors.map (Cursor.extend more) ++ further).map fun start =>
        (start, Thunk.pure (pattern.match? start))) =
      (select taken (cursors.map fun start => (start, Thunk.pure (pattern.match? start)))).map
        (Found.extend more) := by
  induction cursors with
  | nil => exact select_of_none none
  | cons cursor rest ih =>
      intro taken
      have matched : (Thunk.pure (pattern.match? (cursor.extend more))).get =
          (pattern.match? cursor).map (Way.extend more) := same cursor
      have found : (Thunk.pure (pattern.match? cursor)).get = pattern.match? cursor := rfl
      have free : overlaps taken (cursor.extend more) = overlaps taken cursor := rfl
      rw [List.map_cons, List.cons_append, List.map_cons, List.map_cons, select, select, matched, found, free]
      split
      · exact ih taken
      · cases pattern.match? cursor with
        | none => exact ih taken
        | some way =>
            rw [Option.map_some]
            dsimp only
            by_cases again : ((Found.mk cursor way).isEmpty && decide (taken = some cursor.offset)) = true
            · rw [if_pos again, if_pos (by exact again)]
              exact ih taken
            · rw [if_neg again, if_neg (by exact again), List.map_cons]
              exact congrArg (List.cons _) (ih (some way.stop.offset))

/-- What is added behind the reach of a pattern changes no match. -/
theorem findAll_append (overlooks : pattern.Overlooks more) (ends : pattern.EndsWith last)
    (absent : last ∉ more) (text : List Char) :
    pattern.findAll (text ++ more) = (pattern.findAll text).map (Found.extend more) := by
  obtain ⟨further, split, rests⟩ := exists_positions_append text more none 0
  rw [findAll_eq, findAll_eq, split]
  apply select_extend (match?_extend overlooks ends absent)
  intro cursor member
  exact ends.match?_eq_none fun inside => absent ((rests cursor member).subset inside)

theorem EndsWith.findAll_eq_nil (ends : pattern.EndsWith last) {text : List Char} (absent : last ∉ text) :
    pattern.findAll text = [] := by
  rw [findAll_eq]
  apply select_of_none
  intro cursor member
  obtain ⟨consumed, reaches⟩ := exists_reaches_of_mem_positions member
  apply ends.match?_eq_none
  intro inside
  apply absent
  rw [show text = consumed ++ cursor.rest from reaches.rest_eq]
  exact List.mem_append_right consumed inside

end

end Pattern

namespace Rule

variable {rule : Rule} {last : Char} {more : List Char}

theorem hit?_extend (found : Found) : rule.hit? (found.extend more) = rule.hit? found := by
  have group : (found.extend more).group? rule.group =
      (found.group? rule.group).map fun (start, stop) => (start.extend more, stop.extend more) := by
    unfold Found.group?
    split
    · rfl
    · exact Way.group?_extend found.way rule.group
  rw [hit?, hit?, group, Option.map_map]
  apply Option.map_congr
  intro captured _
  simp only [Function.comp_apply, Cursor.textUpTo_extend]
  rfl

/-- A rule sees nothing behind the last character that it can match. -/
theorem findAll_append (overlooks : rule.pattern.Overlooks more) (ends : rule.pattern.EndsWith last)
    (absent : last ∉ more) {line longer : String} (added : longer.toList = line.toList ++ more) :
    rule.findAll longer = rule.findAll line := by
  rw [findAll, findAll, allFound_eq, allFound_eq, added, Pattern.findAll_append overlooks ends absent,
    List.filterMap_map]
  exact congrArg (List.filterMap · _) (funext hit?_extend)

theorem findAll_eq_nil (ends : rule.pattern.EndsWith last) {line : String} (absent : last ∉ line.toList) :
    rule.findAll line = [] := by
  rw [findAll, allFound_eq, ends.findAll_eq_nil absent]
  rfl

end Rule

end Callsite

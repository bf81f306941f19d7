import Callsite.Proofs.Language.Names

set_option autoImplicit false

/-! Rules as frames. A rule is a frame around the group that captures the name: pieces in front of it and
pieces behind it, none of which captures anything. The ways of a rule for one name are those ways of the
rule for any name that capture it, in the same order. -/

namespace Callsite

namespace Pattern

/-! ### Patterns in a row -/

theorem ways_sequence_cons (first : Pattern) (rest : List Pattern) (cursor : Cursor) :
    (sequence (first :: rest)).ways cursor = (first.ways cursor).flatMap fun one =>
      ((sequence rest).ways one.stop).map one.append := by
  cases rest with
  | nil =>
      have alone (one : Way) : ((sequence []).ways one.stop).map one.append = [one] := by
        rw [sequence, ways, List.map_singleton, Way.append_here]
      simp only [alone, List.flatMap_singleton']
      rfl
  | cons second rest => rfl

theorem ways_sequence_append (first second : List Pattern) (cursor : Cursor) :
    (sequence (first ++ second)).ways cursor = ((sequence first).ways cursor).flatMap fun one =>
      ((sequence second).ways one.stop).map one.append := by
  induction first generalizing cursor with
  | nil =>
      have start : (sequence []).ways cursor = [.here cursor] := rfl
      have same : (Way.here cursor).append = id := funext (Way.here_append cursor)
      rw [start, List.flatMap_singleton, same, List.map_id]
      rfl
  | cons head rest ih =>
      rw [List.cons_append, ways_sequence_cons, ways_sequence_cons, List.flatMap_assoc]
      refine List.flatMap_congr fun one _ => ?_
      rw [ih, List.map_flatMap, List.flatMap_map]
      refine List.flatMap_congr fun two _ => ?_
      rw [List.map_map]
      refine List.map_congr_left fun three _ => ?_
      exact (Way.append_assoc one two three).symm

theorem groups_sequence (pieces : List Pattern) :
    (sequence pieces).groups = pieces.flatMap groups := by
  induction pieces with
  | nil => rfl
  | cons head rest ih =>
      rw [List.flatMap_cons, ← ih]
      cases rest with
      | nil => exact (List.append_nil _).symm
      | cons second rest => rfl

/-! ### Filling groups -/

section

variable (index : Nat) (inner : Pattern)

variable {inner}

theorem fillGroup_of_groups {pattern : Pattern} (plain : pattern.groups = []) :
    fillGroup index inner pattern = pattern := by
  induction pattern with
  | empty | chars | look => rfl
  | seq first second ihFirst ihSecond | alt first second ihFirst ihSecond =>
      obtain ⟨none, noneToo⟩ := List.append_eq_nil_iff.mp plain
      rw [fillGroup, ihFirst none, ihSecond noneToo]
  | group => contradiction
  | repeated greedy body ih => rw [fillGroup, ih plain]

theorem fillGroup_sequence (pieces : List Pattern) :
    fillGroup index inner (sequence pieces) = sequence (pieces.map (fillGroup index inner)) := by
  induction pieces with
  | nil => rfl
  | cons head rest ih =>
      cases rest with
      | nil => rfl
      | cons second rest => exact congrArg (seq _) ih

theorem map_fillGroup {pieces : List Pattern} (plain : ∀ piece ∈ pieces, piece.groups = []) :
    pieces.map (fillGroup index inner) = pieces := by
  have same (piece : Pattern) (member : piece ∈ pieces) : fillGroup index inner piece = id piece :=
    fillGroup_of_groups index (plain piece member)
  rw [List.map_congr_left same, List.map_id]

end

end Pattern

open Pattern

/-! ### Frames -/

/-- What stands around the group that captures the name. -/
structure Frame where
  front : List Pattern
  back : List Pattern
  /-- Nothing else is captured. -/
  plainFront : ∀ piece ∈ front, piece.groups = [] := by decide
  plainBack : ∀ piece ∈ back, piece.groups = [] := by decide

namespace Frame

/-- The pattern that captures what `body` matches. -/
def fill (frame : Frame) (body : Pattern) : Pattern :=
  sequence (frame.front ++ group 1 body :: frame.back)

end Frame

/-- The way through a filled frame that consists of one way through each of its three parts. -/
def Way.naming (ahead name behind : Way) : Way :=
  ahead.append (((name.append (.closedAt 1 name.stop (.here name.stop))).openedAt 1 ahead.stop).append
    behind)

def Way.names (name : List Char) (way : Way) : Bool :=
  (way.group? 1).any fun (start, stop) => start.textUpTo stop = name

namespace Frame

variable (frame : Frame) (body : Pattern)

theorem ways_fill (cursor : Cursor) :
    (frame.fill body).ways cursor = ((sequence frame.front).ways cursor).flatMap fun ahead =>
      (body.ways ahead.stop).flatMap fun name =>
        ((sequence frame.back).ways name.stop).map (ahead.naming name) := by
  rw [fill, ways_sequence_append]
  refine List.flatMap_congr fun ahead _ => ?_
  rw [ways_sequence_cons, ways, List.map_flatMap, List.flatMap_map]
  refine List.flatMap_congr fun name _ => ?_
  rw [List.map_map]
  rfl

variable {frame body}

structure Passes (frame : Frame) (body : Pattern) (cursor : Cursor) (ahead name behind : Way) : Prop where
  inFront : ahead ∈ (sequence frame.front).ways cursor
  inBody : name ∈ body.ways ahead.stop
  inBack : behind ∈ (sequence frame.back).ways name.stop

theorem mem_ways_fill_iff {cursor : Cursor} {way : Way} :
    way ∈ (frame.fill body).ways cursor ↔
      ∃ ahead name behind, frame.Passes body cursor ahead name behind ∧
        ahead.naming name behind = way := by
  rw [ways_fill, List.mem_flatMap]
  constructor
  · rintro ⟨ahead, inFront, member⟩
    obtain ⟨name, inBody, member⟩ := List.mem_flatMap.mp member
    obtain ⟨behind, inBack, same⟩ := List.mem_map.mp member
    exact ⟨ahead, name, behind, ⟨inFront, inBody, inBack⟩, same⟩
  · rintro ⟨ahead, name, behind, passes, same⟩
    refine ⟨ahead, passes.inFront, List.mem_flatMap.mpr ⟨name, passes.inBody, ?_⟩⟩
    exact List.mem_map.mpr ⟨behind, passes.inBack, same⟩

theorem opens_front {cursor : Cursor} {way : Way} (member : way ∈ (sequence frame.front).ways cursor) :
    way.opens 1 = [] ∧ way.closes 1 = [] := by
  refine opens_eq_nil (fun body inGroups => ?_) member
  rw [groups_sequence, List.flatMap_eq_nil_iff.mpr frame.plainFront] at inGroups
  contradiction

theorem opens_back {cursor : Cursor} {way : Way} (member : way ∈ (sequence frame.back).ways cursor) :
    way.opens 1 = [] ∧ way.closes 1 = [] := by
  refine opens_eq_nil (fun body inGroups => ?_) member
  rw [groups_sequence, List.flatMap_eq_nil_iff.mpr frame.plainBack] at inGroups
  contradiction

theorem Passes.group?_eq {cursor : Cursor} {ahead name behind : Way} (plain : body.groups = [])
    (passes : frame.Passes body cursor ahead name behind) :
    (ahead.naming name behind).group? 1 = some (ahead.stop, name.stop) := by
  obtain ⟨opensAhead, closesAhead⟩ := opens_front passes.inFront
  obtain ⟨opensBehind, closesBehind⟩ := opens_back passes.inBack
  have lacks (inner : Pattern) : (1, inner) ∉ body.groups := by
    rw [plain]
    exact List.not_mem_nil
  obtain ⟨opensName, closesName⟩ := opens_eq_nil lacks passes.inBody
  rw [Way.group?_eq, Way.naming, Way.opens_append, Way.opens_append, Way.opens_around,
    Way.closes_append, Way.closes_append, Way.closes_around, opensAhead, opensName, opensBehind,
    closesAhead, closesName, closesBehind]
  rfl

theorem Passes.names_eq {cursor : Cursor} {ahead name behind : Way} (plain : body.groups = [])
    (passes : frame.Passes body cursor ahead name behind) (text : List Char) :
    (ahead.naming name behind).names text = decide (ahead.stop.textUpTo name.stop = text) := by
  rw [Way.names, passes.group?_eq plain]
  rfl

end Frame

/-! ### Ways through names -/

theorem CharSet.has_single_iff {c d : Char} : (CharSet.single c).has d = true ↔ d = c := by
  rw [CharSet.single, CharSet.has, Bool.and_eq_true, decide_eq_true_eq, decide_eq_true_eq]
  constructor
  · rintro ⟨low, high⟩
    exact Char.le_antisymm high low
  · rintro rfl
    exact ⟨Char.le_refl d, Char.le_refl d⟩

namespace Pattern

theorem ways_chars_cons {set : CharSet} {cursor : Cursor} {c : Char} {rest : List Char}
    (split : cursor.rest = c :: rest) :
    (chars set).ways cursor = if set.has c then [.here (cursor.past c rest)] else [] := by
  rw [ways, split]

theorem ways_chars_nil {set : CharSet} {cursor : Cursor} (done : cursor.rest = []) :
    (chars set).ways cursor = [] := by
  rw [ways, done]

theorem mem_ways_look_iff {condition : Look} {start : Cursor} {way : Way} :
    way ∈ (look condition).ways start ↔
      way = .here start ∧ condition.holds start.before start.rest.head? = true := by
  rw [ways]
  split
  · rename_i holds
    rw [List.mem_singleton, and_iff_left holds]
  · rename_i fails
    exact iff_of_false List.not_mem_nil fun both => fails both.2

section

variable {set : CharSet} {cursor : Cursor}

private theorem ways_anyNumber (cursor : Cursor) :
    (anyNumber true (chars set)).ways cursor =
      ((chars set).ways cursor).flatMap (fun way =>
        if way.stop = cursor then [way]
        else (furtherWays (chars set).ways true way.stop).map way.append) ++ [.here cursor] := by
  rw [anyNumber, optional, if_pos rfl]
  rfl

private theorem furtherWays_chars (cursor : Cursor) :
    furtherWays (chars set).ways true cursor = (anyNumber true (chars set)).ways cursor := by
  rw [ways_anyNumber, furtherWays, if_pos rfl]
  congr 1
  refine List.flatMap_congr fun way member => ?_
  have later : way.stop.rest.length < cursor.rest.length := by
    rw [ways] at member
    split at member
    · contradiction
    · rename_i c rest split
      split at member
      · rw [List.mem_singleton.mp member, split]
        exact Nat.lt_succ_self _
      · contradiction
  have moved : way.stop ≠ cursor := by
    intro same
    rw [same] at later
    exact Nat.lt_irrefl _ later
  rw [if_pos later, if_neg moved]

theorem ways_anyNumber_cons {c : Char} {rest : List Char} (split : cursor.rest = c :: rest) :
    (anyNumber true (chars set)).ways cursor =
      if set.has c then (anyNumber true (chars set)).ways (cursor.past c rest) ++ [.here cursor]
      else [.here cursor] := by
  rw [ways_anyNumber, ways_chars_cons split]
  split
  · have moved : (Way.here (cursor.past c rest)).stop ≠ cursor := by
      intro same
      have shorter := congrArg (List.length ∘ Cursor.rest) same
      simp [Way.here, Cursor.past, split] at shorter
    have same : (Way.here (cursor.past c rest)).append = id := funext (Way.here_append _)
    rw [List.flatMap_singleton, if_neg moved, same, List.map_id, furtherWays_chars]
    rfl
  · rfl

theorem ways_anyNumber_nil (done : cursor.rest = []) :
    (anyNumber true (chars set)).ways cursor = [.here cursor] := by
  rw [ways_anyNumber, ways_chars_nil done]
  rfl

end

theorem ways_literals_cons (c : Char) (text : List Char) (cursor : Cursor) :
    (literals (c :: text)).ways cursor = ((chars (.single c)).ways cursor).flatMap fun one =>
      (literals text).ways one.stop := by
  have still (way : Way) (member : way ∈ (chars (.single c)).ways cursor) : way = .here way.stop := by
    rw [ways] at member
    split at member
    · contradiction
    · split at member
      · rw [List.mem_singleton.mp member]
        rfl
      · contradiction
  rw [literals, List.map_cons, ways_sequence_cons]
  refine List.flatMap_congr fun one member => ?_
  have same : one.append = id := by
    rw [still one member]
    exact funext (Way.here_append _)
  rw [same, List.map_id]
  rfl

private theorem textUpTo_past {pattern : Pattern} {cursor : Cursor} {c : Char} {rest : List Char}
    (split : cursor.rest = c :: rest) {way : Way} (member : way ∈ pattern.ways (cursor.past c rest)) :
    cursor.textUpTo way.stop = c :: (cursor.past c rest).textUpTo way.stop := by
  obtain ⟨consumed, reaches, _⟩ := exists_reaches_of_mem_ways member
  rw [reaches.textUpTo_eq]
  exact (Cursor.Reaches.past split reaches).textUpTo_eq

private theorem textUpTo_here (cursor : Cursor) : cursor.textUpTo (Way.here cursor).stop = [] :=
  (Cursor.Reaches.here cursor).textUpTo_eq

private theorem ways_literals_run {set : CharSet} {text : List Char} (parts : ∀ c ∈ text, set.has c) :
    ∀ cursor : Cursor, (literals text).ways cursor =
      ((anyNumber true (chars set)).ways cursor).filter fun way => cursor.textUpTo way.stop = text := by
  induction text with
  | nil =>
      intro cursor
      have alone : (literals []).ways cursor = [.here cursor] := rfl
      rw [alone]
      cases split : cursor.rest with
      | nil => rw [ways_anyNumber_nil split, List.filter_singleton, textUpTo_here]; rfl
      | cons c rest =>
          rw [ways_anyNumber_cons split]
          split
          · rw [List.filter_append, List.filter_singleton, textUpTo_here, List.filter_eq_nil_iff.mpr]
            · rfl
            · intro way member
              rw [textUpTo_past split member]
              simp
          · rw [List.filter_singleton, textUpTo_here]
            rfl
  | cons c text ih =>
      intro cursor
      obtain ⟨here, later⟩ := List.forall_mem_cons.mp parts
      rw [ways_literals_cons]
      cases split : cursor.rest with
      | nil =>
          rw [ways_chars_nil split, ways_anyNumber_nil split, List.filter_singleton, textUpTo_here]
          rfl
      | cons d rest =>
          have noHere : ([Way.here cursor].filter fun way => cursor.textUpTo way.stop = c :: text) = [] := by
            rw [List.filter_singleton, textUpTo_here]
            rfl
          rw [ways_chars_cons split, ways_anyNumber_cons split]
          by_cases same : d = c
          · subst same
            have only : (CharSet.single d).has d = true := CharSet.has_single_iff.mpr rfl
            rw [if_pos only, if_pos here, List.flatMap_singleton, List.filter_append, noHere,
              List.append_nil]
            refine (ih later _).trans (List.filter_congr fun way member => ?_)
            rw [textUpTo_past split member]
            simp only [List.cons.injEq, true_and]
            rfl
          · have other : ¬(CharSet.single c).has d = true := mt CharSet.has_single_iff.mp same
            rw [if_neg other, List.flatMap_nil]
            split
            · rw [List.filter_append, noHere, List.filter_eq_nil_iff.mpr]
              · rfl
              · intro way member
                rw [textUpTo_past split member]
                simp [same]
            · exact noHere.symm

theorem exists_mem_ways_literals {text : List Char} :
    ∀ {cursor stop : Cursor}, cursor.Reaches text stop →
      ∃ way ∈ (literals text).ways cursor, way.stop = stop := by
  induction text with
  | nil =>
      intro cursor stop reaches
      cases reaches
      exact ⟨.here cursor, List.mem_singleton_self _, rfl⟩
  | cons c text ih =>
      intro cursor stop reaches
      cases reaches with
      | past split later =>
          obtain ⟨way, member, ends⟩ := ih later
          rw [ways_literals_cons, ways_chars_cons split, if_pos (CharSet.has_single_iff.mpr rfl),
            List.flatMap_singleton]
          exact ⟨way, member, ends⟩

theorem ways_identifier (cursor : Cursor) :
    identifier.ways cursor = ((chars identifierStart).ways cursor).flatMap fun one =>
      ((anyNumber true (chars identifierPart)).ways one.stop).map one.append :=
  rfl

/-- The ways of a name are those ways of an identifier that take the whole name. -/
theorem ways_literals {name : List Char} (shape : isIdentifier name = true) (cursor : Cursor) :
    (literals name).ways cursor =
      (identifier.ways cursor).filter fun way => cursor.textUpTo way.stop = name := by
  cases name with
  | nil => contradiction
  | cons c text =>
      rw [isIdentifier, Bool.and_eq_true, List.all_eq_true] at shape
      obtain ⟨here, later⟩ := shape
      rw [ways_literals_cons, ways_identifier]
      cases split : cursor.rest with
      | nil => rw [ways_chars_nil split, ways_chars_nil split]; rfl
      | cons d rest =>
          rw [ways_chars_cons split, ways_chars_cons split]
          have onward : (Way.here (cursor.past d rest)).append = id := funext (Way.here_append _)
          by_cases same : d = c
          · subst same
            have only : (CharSet.single d).has d = true := CharSet.has_single_iff.mpr rfl
            rw [if_pos only, if_pos here, List.flatMap_singleton, List.flatMap_singleton, onward,
              List.map_id]
            refine (ways_literals_run later _).trans (List.filter_congr fun way member => ?_)
            rw [textUpTo_past split member]
            simp only [List.cons.injEq, true_and]
            rfl
          · have other : ¬(CharSet.single c).has d = true := mt CharSet.has_single_iff.mp same
            rw [if_neg other, List.flatMap_nil]
            split
            · rw [List.flatMap_singleton, onward, List.map_id, List.filter_eq_nil_iff.mpr]
              intro way member
              rw [textUpTo_past split member]
              simp [same]
            · rfl

theorem pairwise_ways_anyNumber (set : CharSet) (cursor : Cursor) :
    ((anyNumber true (chars set)).ways cursor).Pairwise fun first second =>
      first.stop.rest.length < second.stop.rest.length := by
  obtain ⟨rest, split⟩ : ∃ rest, cursor.rest = rest := ⟨_, rfl⟩
  induction rest generalizing cursor with
  | nil =>
      rw [ways_anyNumber_nil split]
      exact List.pairwise_singleton _ _
  | cons c rest ih =>
      rw [ways_anyNumber_cons split]
      split
      · refine List.pairwise_append.mpr ⟨ih _ rfl, List.pairwise_singleton _ _, ?_⟩
        intro way member last only
        obtain ⟨consumed, reaches, _⟩ := exists_reaches_of_mem_ways member
        have shorter := congrArg List.length reaches.rest_eq
        rw [List.mem_singleton.mp only]
        simp only [Way.here, Cursor.past, split, List.length_cons, List.length_append] at shorter ⊢
        omega
      · exact List.pairwise_singleton _ _

theorem pairwise_ways_identifier (cursor : Cursor) :
    (identifier.ways cursor).Pairwise fun first second =>
      first.stop.rest.length < second.stop.rest.length := by
  rw [ways_identifier]
  cases split : cursor.rest with
  | nil =>
      rw [ways_chars_nil split]
      exact List.Pairwise.nil
  | cons c rest =>
      rw [ways_chars_cons split]
      split
      · have onward : (Way.here (cursor.past c rest)).append = id := funext (Way.here_append _)
        rw [List.flatMap_singleton, onward, List.map_id]
        exact pairwise_ways_anyNumber _ _
      · exact List.Pairwise.nil

end Pattern

namespace Frame

variable {frame : Frame}

private theorem flatMap_filter {α β : Type} (stays : α → Bool) (images : α → List β) (items : List α) :
    (items.filter stays).flatMap images = items.flatMap fun item =>
      if stays item then images item else [] := by
  induction items with
  | nil => rfl
  | cons item rest ih =>
      rw [List.flatMap_cons, ← ih]
      by_cases stay : stays item = true
      · rw [List.filter_cons_of_pos stay, List.flatMap_cons, if_pos stay]
      · rw [List.filter_cons_of_neg stay, if_neg stay, List.nil_append]

/-- The ways of a rule for one name are the ways of the rule for any name that capture it. -/
theorem ways_fill_literals {name : List Char} (shape : isIdentifier name = true) (cursor : Cursor) :
    (frame.fill (literals name)).ways cursor =
      ((frame.fill identifier).ways cursor).filter (Way.names name) := by
  rw [ways_fill, ways_fill, List.filter_flatMap]
  refine List.flatMap_congr fun ahead inFront => ?_
  rw [List.filter_flatMap, ways_literals shape, flatMap_filter]
  refine List.flatMap_congr fun found inBody => ?_
  have same (way : Way) (member : way ∈ ((sequence frame.back).ways found.stop).map (ahead.naming found)) :
      way.names name = decide (ahead.stop.textUpTo found.stop = name) := by
    obtain ⟨behind, inBack, rfl⟩ := List.mem_map.mp member
    exact (Passes.mk inFront inBody inBack).names_eq rfl name
  rw [List.filter_congr same]
  split
  · rename_i whole
    rw [whole, List.filter_true]
  · rename_i part
    rw [Bool.eq_false_of_not_eq_true part, List.filter_false]

/-- The preferred way captures the longest name that any way captures from the same position on. -/
theorem exists_passes_of_match? {cursor : Cursor} {way : Way}
    (matched : (frame.fill identifier).match? cursor = some way) :
    ∃ ahead name behind, frame.Passes identifier cursor ahead name behind ∧
      ahead.naming name behind = way ∧
        ∀ other later last, frame.Passes identifier cursor other later last → other.stop = ahead.stop →
          name.stop.rest.length ≤ later.stop.rest.length := by
  rw [match?, ways_fill, List.head?_flatMap] at matched
  obtain ⟨ahead, inFront, matched⟩ := List.exists_of_findSome?_eq_some matched
  rw [List.head?_flatMap] at matched
  obtain ⟨before, name, after, names, matched, none⟩ := List.findSome?_eq_some_iff.mp matched
  obtain ⟨behind, inBack, same⟩ := List.mem_map.mp (List.mem_of_head? matched)
  have inBody : name ∈ identifier.ways ahead.stop := by
    rw [names]
    exact List.mem_append_right _ List.mem_cons_self
  refine ⟨ahead, name, behind, ⟨inFront, inBody, inBack⟩, same, fun other later last passes here => ?_⟩
  have inNames : later ∈ before ++ name :: after := by
    rw [← names, ← here]
    exact passes.inBody
  have order := pairwise_ways_identifier ahead.stop
  rw [names] at order
  rcases List.mem_append.mp inNames with early | late
  · have empty := none later early
    rw [List.head?_eq_none_iff, List.map_eq_nil_iff] at empty
    exact absurd passes.inBack (empty ▸ List.not_mem_nil)
  · rcases List.mem_cons.mp late with rfl | late
    · exact Nat.le_refl _
    · have sorted := (List.pairwise_append.mp order).2.1
      exact Nat.le_of_lt ((List.pairwise_cons.mp sorted).1 later late)

end Frame

/-! ### Templates -/

/-- A template that stands for the frame, filled with what is looked for. -/
structure RuleTemplate.FramedBy (template : RuleTemplate) (frame : Frame) : Prop where
  group : template.group = 1
  reads : ∀ target, Pattern.read (fillSlot (slot target) template.pattern.toList) =
    .ok (frame.fill (slotBody target))

theorem RuleTemplate.FramedBy.slotted {template : RuleTemplate} {frame : Frame}
    (framed : template.FramedBy frame) : template.Slotted := by
  have filled (body : Pattern) : fillGroup 1 body (frame.fill .empty) = frame.fill body := by
    rw [Frame.fill, fillGroup_sequence, List.map_append, List.map_cons, map_fillGroup 1 frame.plainFront,
      map_fillGroup 1 frame.plainBack, fillGroup, if_pos rfl, ← Frame.fill]
  refine ⟨frame.fill .empty, framed.group, fun target => ?_⟩
  rw [framed.reads target, filled]

theorem slotted_of_framed {templates : List RuleTemplate} {frames : List Frame}
    (framed : List.Forall₂ RuleTemplate.FramedBy templates frames) :
    ∀ template ∈ templates, template.Slotted := by
  induction framed with
  | nil => exact List.forall_mem_nil _
  | cons first _ ih => exact List.forall_mem_cons.mpr ⟨first.slotted, ih⟩

structure Rule.Fills (rule : Rule) (frame : Frame) (body : Pattern) : Prop where
  pattern : rule.pattern = frame.fill body
  group : rule.group = 1

/-- The rule that a template makes, given the frame that it stands for. -/
def RuleTemplate.ruleFor (template : RuleTemplate) (frame : Frame) (target : Option String) : Rule where
  text := fillSlot (slot target) template.pattern.toList
  pattern := frame.fill (slotBody target)
  kind := template.kind
  group := 1

theorem RuleTemplate.FramedBy.compile_eq {template : RuleTemplate} {frame : Frame}
    (framed : template.FramedBy frame) (target : Option String) :
    template.compile target = .ok (template.ruleFor frame target) := by
  rw [RuleTemplate.compile, framed.reads target, ruleFor]
  simp only [framed.group]
  rfl

theorem RuleTemplate.FramedBy.compile {template : RuleTemplate} {frame : Frame}
    (framed : template.FramedBy frame) (target : Option String) :
    ∃ rule, template.compile target = .ok rule ∧ rule.Fills frame (slotBody target) ∧
      rule.kind = template.kind :=
  ⟨_, framed.compile_eq target, ⟨rfl, rfl⟩, rfl⟩

theorem Rule.Fills.hit?_eq {rule : Rule} {frame : Frame} {body : Pattern} (fills : rule.Fills frame body)
    (plain : body.groups = []) {start : Cursor} {ahead name behind : Way}
    (passes : frame.Passes body start ahead name behind) :
    rule.hit? ⟨start, ahead.naming name behind⟩ = some
      ⟨String.ofList (ahead.stop.textUpTo name.stop), ahead.stop.offset, behind.stop.offset, rule.kind⟩ := by
  rw [Rule.hit?, Found.group?, fills.group, if_neg Nat.one_ne_zero, passes.group?_eq plain]
  rfl

def framedRules (templates : List RuleTemplate) (frames : List Frame) (target : Option String) : List Rule :=
  List.zipWith (fun template frame => template.ruleFor frame target) templates frames

theorem compileAll_eq_of_framed {templates : List RuleTemplate} {frames : List Frame}
    (framed : List.Forall₂ RuleTemplate.FramedBy templates frames) (target : Option String) :
    compileAll templates target = .ok (framedRules templates frames target) := by
  induction framed with
  | nil => rfl
  | cons first _ ih => exact compileAll_cons (first.compile_eq target) ih

theorem compileAll_of_framed {templates : List RuleTemplate} {frames : List Frame}
    (framed : List.Forall₂ RuleTemplate.FramedBy templates frames) (target : Option String) :
    ∃ rules, compileAll templates target = .ok rules ∧
      List.Forall₂ (fun rule frame => rule.Fills frame (slotBody target)) rules frames := by
  induction framed with
  | nil => exact ⟨[], rfl, .nil⟩
  | cons first _ ih =>
      obtain ⟨rule, compiled, fills, _⟩ := first.compile target
      obtain ⟨rules, compiledRest, fillRest⟩ := ih
      exact ⟨rule :: rules, compileAll_cons compiled compiledRest, .cons fills fillRest⟩

end Callsite

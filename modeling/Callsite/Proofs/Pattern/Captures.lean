import Mathlib.Data.List.Forall2
import Callsite.Language.Rule

set_option autoImplicit false

/-! What groups capture. A way through a pattern moves over a stretch of the text; if every group of an
index has the same body, then a capture of the index is a stretch that the body matched. -/

namespace Callsite

/-- `stop` is the position after `consumed`, which begins at `cursor`. -/
inductive Cursor.Reaches : Cursor → List Char → Cursor → Prop where
  | here (cursor : Cursor) : Reaches cursor [] cursor
  | past {cursor stop : Cursor} {c : Char} {rest consumed : List Char} :
      cursor.rest = c :: rest → Reaches (cursor.past c rest) consumed stop →
        Reaches cursor (c :: consumed) stop

namespace Cursor.Reaches

variable {cursor middle stop : Cursor} {consumed more : List Char}

theorem trans (first : Reaches cursor consumed middle) (second : Reaches middle more stop) :
    Reaches cursor (consumed ++ more) stop := by
  induction first with
  | here => exact second
  | past split _ ih => exact .past split (ih second)

theorem rest_eq (reaches : Reaches cursor consumed stop) : cursor.rest = consumed ++ stop.rest := by
  induction reaches with
  | here => rfl
  | past split _ ih => rw [split, List.cons_append, ← ih]; rfl

theorem textUpTo_eq (reaches : Reaches cursor consumed stop) : cursor.textUpTo stop = consumed := by
  have split := reaches.rest_eq
  rw [Cursor.textUpTo, split, List.length_append, Nat.add_sub_cancel_right, List.take_left]

end Cursor.Reaches

theorem exists_reaches_of_mem_positions {text : List Char} {cursor : Cursor} :
    ∀ {before : Option Char} {offset : Nat}, cursor ∈ positions text before offset →
      ∃ consumed, Cursor.Reaches ⟨before, text, offset⟩ consumed cursor := by
  induction text with
  | nil =>
      intro before offset member
      rw [positions, List.mem_singleton] at member
      exact ⟨[], member ▸ .here _⟩
  | cons c rest ih =>
      intro before offset member
      rw [positions] at member
      rcases List.mem_cons.mp member with rfl | later
      · exact ⟨[], .here _⟩
      · obtain ⟨consumed, reaches⟩ := ih later
        exact ⟨c :: consumed, .past rfl reaches⟩

namespace Way

def Moves (cursor : Cursor) (way : Way) : Prop :=
  ∃ consumed, cursor.Reaches consumed way.stop

theorem Moves.here (cursor : Cursor) : Moves cursor (.here cursor) :=
  ⟨[], .here cursor⟩

theorem Moves.append {cursor : Cursor} {first second : Way} (early : first.Moves cursor)
    (late : second.Moves first.stop) : (first.append second).Moves cursor := by
  obtain ⟨consumed, early⟩ := early
  obtain ⟨more, late⟩ := late
  exact ⟨consumed ++ more, early.trans late⟩

def opens (way : Way) (index : Nat) : List Cursor :=
  way.marks.filterMap fun
    | .opened i position => if i = index then some position else none
    | .closed _ _ => none

def closes (way : Way) (index : Nat) : List Cursor :=
  way.marks.filterMap fun
    | .closed i position => if i = index then some position else none
    | .opened _ _ => none

theorem opens_append (first second : Way) (index : Nat) :
    (first.append second).opens index = first.opens index ++ second.opens index :=
  List.filterMap_append

theorem closes_append (first second : Way) (index : Nat) :
    (first.append second).closes index = first.closes index ++ second.closes index :=
  List.filterMap_append

theorem opens_around (way : Way) (index other : Nat) (cursor : Cursor) :
    ((way.append (.closedAt other way.stop (.here way.stop))).openedAt other cursor).opens index =
      if other = index then cursor :: way.opens index else way.opens index := by
  by_cases same : other = index <;> simp [opens, openedAt, closedAt, append, here, same]

theorem closes_around (way : Way) (index other : Nat) (cursor : Cursor) :
    ((way.append (.closedAt other way.stop (.here way.stop))).openedAt other cursor).closes index =
      if other = index then way.closes index ++ [way.stop] else way.closes index := by
  by_cases same : other = index <;> simp [closes, openedAt, closedAt, append, here, same]

theorem group?_eq (way : Way) (index : Nat) :
    way.group? index = (way.opens index).getLast?.bind fun start =>
      (way.closes index).getLast?.bind fun stop => some (start, stop) := by
  rw [opens, closes, ← List.head?_reverse, ← List.head?_reverse, ← List.filterMap_reverse,
    ← List.filterMap_reverse, List.head?_filterMap, List.head?_filterMap]
  rfl

end Way

namespace Pattern

def groups : Pattern → List (Nat × Pattern)
  | empty | chars _ | look _ => []
  | seq first second | alt first second => first.groups ++ second.groups
  | group index body => (index, body) :: body.groups
  | repeated _ body => body.groups

def sets : Pattern → List CharSet
  | empty | look _ => []
  | chars set => [set]
  | seq first second | alt first second => first.sets ++ second.sets
  | group _ body | repeated _ body => body.sets

section

variable (holds : Cursor → Way → Prop) (here : ∀ cursor, holds cursor (.here cursor))
  (append : ∀ {cursor first second}, holds cursor first → holds first.stop second →
    holds cursor (first.append second))

include here append

private theorem furtherWays_induction {body : Cursor → List Way}
    (round : ∀ cursor, ∀ way ∈ body cursor, holds cursor way) {greedy : Bool} {cursor : Cursor}
    {way : Way} (member : way ∈ furtherWays body greedy cursor) : holds cursor way := by
  induction cursor using (measure fun cursor : Cursor => cursor.rest.length).wf.induction
    generalizing way with
  | _ cursor ih =>
    rcases mem_furtherWays_iff.mp member with rfl | ⟨first, inBody, shorter, later, inFurther, rfl⟩
    · exact here cursor
    · exact append (round cursor first inBody) (ih first.stop shorter inFurther)

/-- A property of ways holds of all ways through a pattern if it holds of the way that goes nowhere and
of those past one character, of two ways in a row, and of a way through a group if it holds of the way
through its body. -/
theorem ways_induction {pattern : Pattern}
    (past : ∀ set ∈ pattern.sets, ∀ cursor c rest, set.has c = true → cursor.rest = c :: rest →
      holds cursor (.here (cursor.past c rest)))
    (around : ∀ index body, (index, body) ∈ pattern.groups → ∀ cursor, ∀ way ∈ body.ways cursor,
      holds cursor way →
        holds cursor ((way.append (.closedAt index way.stop (.here way.stop))).openedAt index cursor))
    {cursor : Cursor} {way : Way} (member : way ∈ pattern.ways cursor) : holds cursor way := by
  induction pattern generalizing cursor way with
  | empty =>
      rw [ways, List.mem_singleton] at member
      exact member ▸ here cursor
  | chars set =>
      rw [ways] at member
      split at member
      · contradiction
      · rename_i c rest split
        split at member
        · rename_i has
          rw [List.mem_singleton] at member
          exact member ▸ past set List.mem_cons_self cursor c rest has split
        · contradiction
  | look condition =>
      rw [ways] at member
      split at member
      · rw [List.mem_singleton] at member
        exact member ▸ here cursor
      · contradiction
  | seq first second ihFirst ihSecond =>
      rw [ways, List.mem_flatMap] at member
      obtain ⟨one, inFirst, member⟩ := member
      obtain ⟨two, inSecond, rfl⟩ := List.mem_map.mp member
      refine append (ihFirst ?_ ?_ inFirst) (ihSecond ?_ ?_ inSecond)
      · exact fun set inSets => past set (List.mem_append_left _ inSets)
      · exact fun index body inGroups => around index body (List.mem_append_left _ inGroups)
      · exact fun set inSets => past set (List.mem_append_right _ inSets)
      · exact fun index body inGroups => around index body (List.mem_append_right _ inGroups)
  | alt first second ihFirst ihSecond =>
      rw [ways, List.mem_append] at member
      refine member.elim (ihFirst ?_ ?_) (ihSecond ?_ ?_)
      · exact fun set inSets => past set (List.mem_append_left _ inSets)
      · exact fun index body inGroups => around index body (List.mem_append_left _ inGroups)
      · exact fun set inSets => past set (List.mem_append_right _ inSets)
      · exact fun index body inGroups => around index body (List.mem_append_right _ inGroups)
  | group index body ih =>
      rw [ways] at member
      obtain ⟨inner, inBody, rfl⟩ := List.mem_map.mp member
      refine around index body List.mem_cons_self cursor inner inBody (ih past ?_ inBody)
      exact fun other within inGroups => around other within (List.mem_cons_of_mem _ inGroups)
  | repeated greedy body ih =>
      rw [ways, List.mem_flatMap] at member
      obtain ⟨round, inBody, member⟩ := member
      split at member
      · rw [List.mem_singleton] at member
        exact member ▸ ih past around inBody
      · obtain ⟨further, inFurther, rfl⟩ := List.mem_map.mp member
        exact append (ih past around inBody)
          (furtherWays_induction holds here append (fun _ _ => ih past around) inFurther)

end

theorem exists_reaches_of_mem_ways {pattern : Pattern} {cursor : Cursor} {way : Way}
    (member : way ∈ pattern.ways cursor) :
    ∃ consumed, cursor.Reaches consumed way.stop ∧
      ∀ c ∈ consumed, ∃ set ∈ pattern.sets, set.has c = true := by
  refine ways_induction
    (fun cursor way => ∃ consumed, cursor.Reaches consumed way.stop ∧
      ∀ c ∈ consumed, ∃ set ∈ pattern.sets, set.has c = true)
    (fun cursor => ⟨[], .here cursor, nofun⟩) ?_ ?_ (fun _ _ _ _ _ _ inside => inside) member
  · rintro cursor first second ⟨one, early, inFirst⟩ ⟨two, late, inSecond⟩
    refine ⟨one ++ two, early.trans late, fun c inBoth => ?_⟩
    exact (List.mem_append.mp inBoth).elim (inFirst c) (inSecond c)
  · intro set inSets start c rest has split
    refine ⟨[c], .past split (.here _), fun other only => ?_⟩
    rw [List.mem_singleton.mp only]
    exact ⟨set, inSets, has⟩

end Pattern

/-- From `cursor` on, `inner` matches the text from `start` to `stop`. -/
def Captured (inner : Pattern) (cursor start stop : Cursor) : Prop :=
  (∃ skipped, cursor.Reaches skipped start) ∧ ∃ way ∈ inner.ways start, way.stop = stop

structure Way.Captures (index : Nat) (inner : Pattern) (cursor : Cursor) (way : Way) : Prop where
  moves : way.Moves cursor
  captured : List.Forall₂ (Captured inner cursor) (way.opens index) (way.closes index)

namespace Way.Captures

variable {index : Nat} {inner : Pattern}

theorem here (cursor : Cursor) : Captures index inner cursor (.here cursor) :=
  ⟨.here cursor, .nil⟩

theorem append {cursor : Cursor} {first second : Way} (early : first.Captures index inner cursor)
    (late : second.Captures index inner first.stop) :
    (first.append second).Captures index inner cursor := by
  refine ⟨early.moves.append late.moves, ?_⟩
  obtain ⟨consumed, reached⟩ := early.moves
  rw [opens_append, closes_append]
  refine List.rel_append early.captured (late.captured.imp ?_)
  rintro start stop ⟨⟨skipped, further⟩, matched⟩
  exact ⟨⟨consumed ++ skipped, reached.trans further⟩, matched⟩

end Way.Captures

namespace Pattern

theorem opens_eq_nil {index : Nat} {pattern : Pattern}
    (lacks : ∀ body, (index, body) ∉ pattern.groups) {cursor : Cursor} {way : Way}
    (member : way ∈ pattern.ways cursor) : way.opens index = [] ∧ way.closes index = [] := by
  refine ways_induction (fun _ way => way.opens index = [] ∧ way.closes index = [])
    (fun _ => ⟨rfl, rfl⟩) ?_ (fun _ _ _ _ _ _ _ => ⟨rfl, rfl⟩) ?_ member
  · rintro _ first second ⟨noOpens, noCloses⟩ ⟨noMore, neither⟩
    rw [Way.opens_append, Way.closes_append, noOpens, noMore, noCloses, neither]
    exact ⟨rfl, rfl⟩
  · intro other body inGroups start inner _ unmarked
    have different : other ≠ index := fun same => lacks body (same ▸ inGroups)
    rw [Way.opens_around, Way.closes_around, if_neg different, if_neg different]
    exact unmarked

theorem captures_of_mem_ways {index : Nat} {inner : Pattern}
    (plain : ∀ body, (index, body) ∉ inner.groups) {pattern : Pattern}
    (all : ∀ body, (index, body) ∈ pattern.groups → body = inner) {cursor : Cursor} {way : Way}
    (member : way ∈ pattern.ways cursor) : way.Captures index inner cursor := by
  refine ways_induction (Way.Captures index inner) Way.Captures.here Way.Captures.append ?_ ?_ member
  · exact fun _ _ _ c _ _ split => ⟨⟨[c], .past split (.here _)⟩, .nil⟩
  · intro other body inGroups start within inBody captures
    refine ⟨captures.moves, ?_⟩
    rw [Way.opens_around, Way.closes_around]
    by_cases same : other = index
    · subst same
      cases all body inGroups
      obtain ⟨noOpens, noCloses⟩ := opens_eq_nil plain inBody
      rw [if_pos rfl, if_pos rfl, noOpens, noCloses]
      exact .cons ⟨⟨[], .here start⟩, within, inBody, rfl⟩ .nil
    · rw [if_neg same, if_neg same]
      exact captures.captured

private theorem rel_getLast {α β : Type} {related : α → β → Prop} {firsts : List α}
    {seconds : List β} (all : List.Forall₂ related firsts seconds) {first : α} {second : β}
    (left : firsts.getLast? = some first) (right : seconds.getLast? = some second) :
    related first second := by
  have backward := List.rel_reverse all
  rw [← List.head?_reverse] at left right
  generalize firsts.reverse = firsts at backward left
  generalize seconds.reverse = seconds at backward right
  cases backward with
  | nil => contradiction
  | cons last _ =>
      cases left
      cases right
      exact last

theorem captured_of_group? {index : Nat} {inner : Pattern}
    (plain : ∀ body, (index, body) ∉ inner.groups) {pattern : Pattern}
    (all : ∀ body, (index, body) ∈ pattern.groups → body = inner) {cursor start stop : Cursor}
    {way : Way} (member : way ∈ pattern.ways cursor)
    (captured : way.group? index = some (start, stop)) : Captured inner cursor start stop := by
  rw [Way.group?_eq, Option.bind_eq_some_iff] at captured
  obtain ⟨first, opened, closed⟩ := captured
  obtain ⟨last, closed, same⟩ := Option.bind_eq_some_iff.mp closed
  cases same
  exact rel_getLast (captures_of_mem_ways plain all member).captured opened closed

/-! ### Bodies of the name group -/

/-- The pattern of a text that stands for itself. -/
def literals (text : List Char) : Pattern :=
  sequence (text.map fun c => chars (.single c))

theorem groups_literals (text : List Char) : (literals text).groups = [] := by
  induction text with
  | nil => rfl
  | cons c rest ih =>
      cases rest with
      | nil => rfl
      | cons d rest => exact ih

private theorem reaches_of_mem_single {c : Char} {cursor : Cursor} {way : Way}
    (member : way ∈ (chars (.single c)).ways cursor) : cursor.Reaches [c] way.stop := by
  rw [ways] at member
  split at member
  · contradiction
  · rename_i d rest split
    split at member
    · rename_i has
      rw [List.mem_singleton] at member
      have only : (CharSet.single c).only? = some c := if_pos rfl
      have same : d = c := CharSet.eq_of_only? only has
      rw [member, ← same]
      exact .past split (.here _)
    · contradiction

theorem reaches_of_mem_literals {text : List Char} :
    ∀ {cursor : Cursor} {way : Way}, way ∈ (literals text).ways cursor →
      cursor.Reaches text way.stop := by
  induction text with
  | nil =>
      intro cursor way member
      have still : way = .here cursor := List.mem_singleton.mp member
      exact still ▸ .here cursor
  | cons c rest ih =>
      intro cursor way member
      cases rest with
      | nil => exact reaches_of_mem_single member
      | cons d rest =>
          have both : way ∈ (seq (chars (.single c)) (literals (d :: rest))).ways cursor := member
          rw [ways, List.mem_flatMap] at both
          obtain ⟨one, inFirst, both⟩ := both
          obtain ⟨two, inSecond, rfl⟩ := List.mem_map.mp both
          have later : one.stop.Reaches (d :: rest) two.stop := ih inSecond
          exact (reaches_of_mem_single inFirst).trans later

def identifierStart : CharSet :=
  .union (.union (.union (.union .nothing (.range 'A' 'Z')) (.range 'a' 'z')) (.single '_'))
    (.single '$')

def identifierPart : CharSet :=
  .union (.union (.union (.union (.union .nothing (.range 'A' 'Z')) (.range 'a' 'z'))
    (.range '0' '9')) (.single '_')) (.single '$')

def identifier : Pattern :=
  seq (chars identifierStart) (anyNumber true (chars identifierPart))

def isIdentifier : List Char → Bool
  | [] => false
  | first :: rest => identifierStart.has first && rest.all identifierPart.has

theorem isIdentifier_of_mem_ways {cursor : Cursor} {way : Way}
    (member : way ∈ identifier.ways cursor) :
    ∃ name, cursor.Reaches name way.stop ∧ isIdentifier name = true := by
  rw [identifier, ways, List.mem_flatMap] at member
  obtain ⟨one, inFirst, member⟩ := member
  obtain ⟨two, inSecond, rfl⟩ := List.mem_map.mp member
  obtain ⟨more, reached, parts⟩ := exists_reaches_of_mem_ways inSecond
  have all : more.all identifierPart.has = true := by
    rw [List.all_eq_true]
    intro c inMore
    obtain ⟨set, inSets, has⟩ := parts c inMore
    rwa [List.mem_singleton.mp inSets] at has
  rw [ways] at inFirst
  split at inFirst
  · contradiction
  · rename_i c rest split
    split at inFirst
    · rename_i has
      rw [List.mem_singleton] at inFirst
      subst inFirst
      exact ⟨c :: more, .past split reached, by rw [isIdentifier, has, all]; rfl⟩
    · contradiction

/-- The pattern with `inner` as the body of every group with the index. -/
def fillGroup (index : Nat) (inner : Pattern) : Pattern → Pattern
  | seq first second => seq (fillGroup index inner first) (fillGroup index inner second)
  | alt first second => alt (fillGroup index inner first) (fillGroup index inner second)
  | group i body => group i (if i = index then inner else fillGroup index inner body)
  | repeated greedy body => repeated greedy (fillGroup index inner body)
  | pattern => pattern

theorem eq_of_mem_groups_fillGroup {index : Nat} {inner : Pattern}
    (plain : ∀ body, (index, body) ∉ inner.groups) {body pattern : Pattern}
    (member : (index, body) ∈ (fillGroup index inner pattern).groups) : body = inner := by
  induction pattern with
  | empty | chars | look => contradiction
  | seq first second ihFirst ihSecond | alt first second ihFirst ihSecond =>
      exact (List.mem_append.mp member).elim ihFirst ihSecond
  | group other within ih =>
      rw [fillGroup, groups] at member
      by_cases same : other = index
      · rw [if_pos same] at member
        rcases List.mem_cons.mp member with here | inside
        · exact (Prod.mk.inj here).2
        · exact absurd inside (plain body)
      · rw [if_neg same] at member
        rcases List.mem_cons.mp member with here | inside
        · exact absurd (Prod.mk.inj here).1.symm same
        · exact ih inside
  | repeated greedy within ih => exact ih member

end Pattern

end Callsite

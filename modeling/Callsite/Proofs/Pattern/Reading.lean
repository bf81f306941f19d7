import Mathlib.Logic.Relation
import Callsite.Proofs.Pattern.Frame
import Callsite.Proofs.Text.Words

set_option autoImplicit false

/-! What a pattern takes off a text. Conditions on the neighbours of a position are forgotten, but for the
end of the text: what remains says which texts a rule can match at all. -/

namespace Callsite

open Text

namespace Pattern

/-- Some way through the pattern, wherever `text` stands, leaves `rest` of it. -/
def Takes (pattern : Pattern) (text rest : List Char) : Prop :=
  ∃ cursor : Cursor, cursor.rest = text ∧ ∃ way ∈ pattern.ways cursor, way.stop.rest = rest

theorem takes_of_mem {pattern : Pattern} {cursor : Cursor} {way : Way} (member : way ∈ pattern.ways cursor) :
    pattern.Takes cursor.rest way.stop.rest :=
  ⟨cursor, rfl, way, member, rfl⟩

namespace Takes

variable {text rest : List Char}

theorem look {condition : Look} (takes : (look condition).Takes text rest) : text = rest := by
  obtain ⟨cursor, rfl, way, member, rfl⟩ := takes
  rw [ways] at member
  split at member
  · rw [List.mem_singleton.mp member]
    rfl
  · contradiction

theorem textEnd (takes : (Pattern.look .textEnd).Takes text rest) : rest = [] := by
  obtain ⟨cursor, rfl, way, member, rfl⟩ := takes
  rw [ways] at member
  split at member
  · rename_i ended
    rw [List.mem_singleton.mp member]
    exact List.head?_eq_none_iff.mp (of_decide_eq_true ended)
  · contradiction

theorem chars {set : CharSet} (takes : (chars set).Takes text rest) :
    ∃ c, text = c :: rest ∧ set.has c = true := by
  obtain ⟨cursor, rfl, way, member, rfl⟩ := takes
  rw [ways] at member
  split at member
  · contradiction
  · rename_i c more split
    split at member
    · rename_i has
      rw [List.mem_singleton.mp member]
      exact ⟨c, split, has⟩
    · contradiction

theorem single {c : Char} (takes : (Pattern.chars (.single c)).Takes text rest) : text = c :: rest := by
  obtain ⟨d, split, has⟩ := takes.chars
  rw [split, CharSet.has_single_iff.mp has]

theorem literals {word : List Char} (takes : (literals word).Takes text rest) : text = word ++ rest := by
  obtain ⟨cursor, rfl, way, member, rfl⟩ := takes
  exact (reaches_of_mem_literals member).rest_eq

theorem seq {first second : Pattern} (takes : (seq first second).Takes text rest) :
    ∃ middle, first.Takes text middle ∧ second.Takes middle rest := by
  obtain ⟨cursor, rfl, way, member, rfl⟩ := takes
  obtain ⟨one, inFirst, member⟩ := List.mem_flatMap.mp member
  obtain ⟨two, inSecond, rfl⟩ := List.mem_map.mp member
  have late : second.Takes one.stop.rest two.stop.rest := takes_of_mem inSecond
  exact ⟨one.stop.rest, takes_of_mem inFirst, late⟩

theorem alt {first second : Pattern} (takes : (alt first second).Takes text rest) :
    first.Takes text rest ∨ second.Takes text rest := by
  obtain ⟨cursor, rfl, way, member, rfl⟩ := takes
  exact (List.mem_append.mp member).imp takes_of_mem takes_of_mem

theorem empty (takes : Pattern.empty.Takes text rest) : text = rest := by
  obtain ⟨cursor, rfl, way, member, rfl⟩ := takes
  rw [List.mem_singleton.mp member]
  rfl

theorem optional {greedy : Bool} {body : Pattern} (takes : (optional greedy body).Takes text rest) :
    body.Takes text rest ∨ text = rest := by
  rw [Pattern.optional] at takes
  cases greedy with
  | true => exact takes.alt.imp_right empty
  | false => exact takes.alt.symm.imp_right empty

/-! ### Patterns in a row -/

theorem sequence_cons {head : Pattern} {pieces : List Pattern}
    (takes : (sequence (head :: pieces)).Takes text rest) :
    ∃ middle, head.Takes text middle ∧ (sequence pieces).Takes middle rest := by
  obtain ⟨cursor, rfl, way, member, rfl⟩ := takes
  rw [ways_sequence_cons] at member
  obtain ⟨one, inHead, member⟩ := List.mem_flatMap.mp member
  obtain ⟨two, inPieces, rfl⟩ := List.mem_map.mp member
  have late : (sequence pieces).Takes one.stop.rest two.stop.rest := takes_of_mem inPieces
  exact ⟨one.stop.rest, takes_of_mem inHead, late⟩

theorem sequence_append {first second : List Pattern}
    (takes : (sequence (first ++ second)).Takes text rest) :
    ∃ middle, (sequence first).Takes text middle ∧ (sequence second).Takes middle rest := by
  obtain ⟨cursor, rfl, way, member, rfl⟩ := takes
  rw [ways_sequence_append] at member
  obtain ⟨one, inFirst, member⟩ := List.mem_flatMap.mp member
  obtain ⟨two, inSecond, rfl⟩ := List.mem_map.mp member
  have late : (sequence second).Takes one.stop.rest two.stop.rest := takes_of_mem inSecond
  exact ⟨one.stop.rest, takes_of_mem inFirst, late⟩

/-! ### Repetitions -/

private theorem further {body : Pattern} {greedy : Bool} {cursor : Cursor} {way : Way}
    (member : way ∈ furtherWays body.ways greedy cursor) :
    Relation.ReflTransGen body.Takes cursor.rest way.stop.rest := by
  induction cursor using (measure fun cursor : Cursor => cursor.rest.length).wf.induction
    generalizing way with
  | _ cursor ih =>
    rcases mem_furtherWays_iff.mp member with rfl | ⟨round, inBody, shorter, later, inFurther, rfl⟩
    · exact .refl
    · have late : Relation.ReflTransGen body.Takes round.stop.rest later.stop.rest :=
        ih round.stop shorter inFurther
      exact .head (takes_of_mem inBody) late

theorem repeated {greedy : Bool} {body : Pattern} (takes : (repeated greedy body).Takes text rest) :
    ∃ middle, body.Takes text middle ∧ Relation.ReflTransGen body.Takes middle rest := by
  obtain ⟨cursor, rfl, way, member, rfl⟩ := takes
  obtain ⟨round, inBody, member⟩ := List.mem_flatMap.mp member
  refine ⟨round.stop.rest, takes_of_mem inBody, ?_⟩
  split at member
  · rw [List.mem_singleton.mp member]
  · obtain ⟨later, inFurther, rfl⟩ := List.mem_map.mp member
    have late : Relation.ReflTransGen body.Takes round.stop.rest later.stop.rest := further inFurther
    exact late

theorem anyNumber {greedy : Bool} {body : Pattern} (takes : (anyNumber greedy body).Takes text rest) :
    Relation.ReflTransGen body.Takes text rest := by
  rcases takes.optional with some | rfl
  · obtain ⟨middle, first, later⟩ := some.repeated
    exact .head first later
  · exact .refl

private theorem run_of_closure {set : CharSet}
    (takes : Relation.ReflTransGen (Pattern.chars set).Takes text rest) :
    ∃ run, text = run ++ rest ∧ ∀ c ∈ run, set.has c = true := by
  induction takes using Relation.ReflTransGen.head_induction_on with
  | refl => exact ⟨[], rfl, nofun⟩
  | head first _ ih =>
      obtain ⟨c, rfl, has⟩ := first.chars
      obtain ⟨run, rfl, all⟩ := ih
      exact ⟨c :: run, rfl, List.forall_mem_cons.mpr ⟨has, all⟩⟩

theorem anyNumber_chars {greedy : Bool} {set : CharSet}
    (takes : (Pattern.anyNumber greedy (.chars set)).Takes text rest) :
    ∃ run, text = run ++ rest ∧ ∀ c ∈ run, set.has c = true :=
  run_of_closure takes.anyNumber

theorem repeated_chars {greedy : Bool} {set : CharSet}
    (takes : (Pattern.repeated greedy (.chars set)).Takes text rest) :
    ∃ run, run ≠ [] ∧ text = run ++ rest ∧ ∀ c ∈ run, set.has c = true := by
  obtain ⟨middle, first, later⟩ := takes.repeated
  obtain ⟨c, rfl, has⟩ := first.chars
  obtain ⟨run, rfl, all⟩ := run_of_closure later
  exact ⟨c :: run, List.cons_ne_nil c run, rfl, List.forall_mem_cons.mpr ⟨has, all⟩⟩

end Takes

/-! ### Characters that a pattern takes -/

theorem Takes.needed {pattern : Pattern} {text rest : List Char} (takes : pattern.Takes text rest) {c : Char}
    (member : c ∈ pattern.needed) : c ∈ text := by
  obtain ⟨cursor, rfl, way, inWays, rfl⟩ := takes
  obtain ⟨consumed, split, has⟩ := exists_consumed inWays
  rw [split]
  exact List.mem_append_left _ (has c member)

theorem Takes.avoids {pattern : Pattern} {text rest : List Char} (takes : pattern.Takes text rest) {c : Char}
    (none : ∀ set ∈ pattern.sets, set.has c = false) : ∃ run, text = run ++ rest ∧ c ∉ run := by
  obtain ⟨cursor, rfl, way, inWays, rfl⟩ := takes
  obtain ⟨consumed, reaches, taken⟩ := exists_reaches_of_mem_ways inWays
  refine ⟨consumed, reaches.rest_eq, fun member => ?_⟩
  obtain ⟨set, inSets, has⟩ := taken c member
  rw [none set inSets] at has
  contradiction

/-! ### Pieces of rules -/

def blanks : Pattern :=
  anyNumber true (chars (.named .blank))

theorem Takes.blanks {text rest : List Char} (takes : blanks.Takes text rest) :
    ∃ space, text = space ++ rest ∧ Blanks space :=
  takes.anyNumber_chars

/-! ### Characters of identifiers -/

theorem of_identifierPart (holds : Char → Prop)
    (all : ∀ code < 128, identifierPart.has (Char.ofNat code) = true → holds (Char.ofNat code)) {c : Char}
    (part : identifierPart.has c = true) : holds c := by
  have small : c.toNat < 128 := by
    simp only [identifierPart, CharSet.has, Bool.or_eq_true, Bool.and_eq_true, decide_eq_true_eq] at part
    rcases part with ((((none | ⟨_, high⟩) | ⟨_, high⟩) | ⟨_, high⟩) | only) | only
    · contradiction
    · exact Nat.lt_of_le_of_lt high (by decide)
    · exact Nat.lt_of_le_of_lt high (by decide)
    · exact Nat.lt_of_le_of_lt high (by decide)
    · rw [CharSet.has_single_iff.mp only]
      decide
    · rw [CharSet.has_single_iff.mp only]
      decide
  have known := all c.toNat small
  rw [Char.ofNat_toNat] at known
  exact known part

theorem isBlank_of_identifierPart {c : Char} (part : identifierPart.has c = true) : isBlank c = false := by
  by_contra blank
  rw [Bool.not_eq_false] at blank
  have other := of_isBlank (fun c => identifierPart.has c = false) (by decide +kernel) blank
  rw [part] at other
  contradiction

theorem identifierPart_of_isIdentifier {name : List Char} (shape : isIdentifier name = true) :
    name ≠ [] ∧ ∀ c ∈ name, identifierPart.has c = true := by
  cases name with
  | nil => contradiction
  | cons c rest =>
      rw [isIdentifier, Bool.and_eq_true, List.all_eq_true] at shape
      refine ⟨List.cons_ne_nil c rest, List.forall_mem_cons.mpr ⟨?_, shape.2⟩⟩
      have start := shape.1
      simp only [identifierStart, identifierPart, CharSet.has, Bool.or_eq_true] at start ⊢
      tauto

theorem notPart_head {space : List Char} (blank : Blanks space) {c : Char}
    (other : identifierPart.has c = false) (rest : List Char) :
    ∀ d ∈ (space ++ c :: rest).head?, identifierPart.has d = false := by
  intro d first
  cases space with
  | nil =>
      rw [← Option.some.inj first]
      exact other
  | cons b space =>
      rw [← Option.some.inj first]
      by_contra part
      rw [Bool.not_eq_false] at part
      have plain := isBlank_of_identifierPart part
      rw [blank b List.mem_cons_self] at plain
      contradiction

theorem solid_of_isIdentifier {name : List Char} (shape : isIdentifier name = true) : Solid name := by
  obtain ⟨filled, parts⟩ := identifierPart_of_isIdentifier shape
  exact ⟨filled, fun c member => isBlank_of_identifierPart (parts c member)⟩

end Pattern

end Callsite

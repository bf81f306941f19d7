import Callsite.Proofs.Pattern.Reading

set_option autoImplicit false

/-! The edges of what a pattern takes. The sets that the first and the last character of a match come from can
be read off the pattern. Where none of them has a character of identifiers, a name next to the match does not
go on into it. -/

namespace Callsite

namespace Pattern

def mayBeEmpty : Pattern → Bool
  | empty | look _ => true
  | chars _ => false
  | seq first second => first.mayBeEmpty && second.mayBeEmpty
  | alt first second => first.mayBeEmpty || second.mayBeEmpty
  | group _ body | repeated _ body => body.mayBeEmpty

def firsts : Pattern → List CharSet
  | empty | look _ => []
  | chars set => [set]
  | seq first second => first.firsts ++ if first.mayBeEmpty then second.firsts else []
  | alt first second => first.firsts ++ second.firsts
  | group _ body | repeated _ body => body.firsts

def lasts : Pattern → List CharSet
  | empty | look _ => []
  | chars set => [set]
  | seq first second => second.lasts ++ if second.mayBeEmpty then first.lasts else []
  | alt first second => first.lasts ++ second.lasts
  | group _ body | repeated _ body => body.lasts

/-- What is known of a text that the pattern takes: whether it may be empty, and where its first and its last
character come from. -/
structure Borders (pattern : Pattern) (taken : List Char) : Prop where
  empty : taken = [] → pattern.mayBeEmpty = true
  first : ∀ c ∈ taken.head?, ∃ set ∈ pattern.firsts, set.has c = true
  last : ∀ c ∈ taken.getLast?, ∃ set ∈ pattern.lasts, set.has c = true

namespace Borders

variable {first second body : Pattern} {one two : List Char}

theorem nil {pattern : Pattern} (empty : pattern.mayBeEmpty = true) : pattern.Borders [] :=
  ⟨fun _ => empty, nofun, nofun⟩

theorem seq (early : first.Borders one) (late : second.Borders two) :
    (seq first second).Borders (one ++ two) := by
  refine ⟨fun none => ?_, fun c begins => ?_, fun c ends => ?_⟩
  · obtain ⟨noneFirst, noneSecond⟩ := List.append_eq_nil_iff.mp none
    rw [mayBeEmpty, early.empty noneFirst, late.empty noneSecond]
    rfl
  · rw [firsts]
    cases one with
    | nil =>
        obtain ⟨set, member, has⟩ := late.first c begins
        rw [if_pos (early.empty rfl)]
        exact ⟨set, List.mem_append_right _ member, has⟩
    | cons d one =>
        obtain ⟨set, member, has⟩ := early.first c begins
        exact ⟨set, List.mem_append_left _ member, has⟩
  · rw [lasts]
    rcases List.eq_nil_or_concat' two with rfl | ⟨two, d, rfl⟩
    · rw [List.append_nil] at ends
      obtain ⟨set, member, has⟩ := early.last c ends
      rw [if_pos (late.empty rfl)]
      exact ⟨set, List.mem_append_right _ member, has⟩
    · rw [← List.append_assoc, List.getLast?_concat, ← List.getLast?_concat] at ends
      obtain ⟨set, member, has⟩ := late.last c ends
      exact ⟨set, List.mem_append_left _ member, has⟩

theorem alt_left (borders : first.Borders one) : (alt first second).Borders one := by
  refine ⟨fun none => ?_, fun c begins => ?_, fun c ends => ?_⟩
  · rw [mayBeEmpty, borders.empty none, Bool.true_or]
  · obtain ⟨set, member, has⟩ := borders.first c begins
    exact ⟨set, List.mem_append_left _ member, has⟩
  · obtain ⟨set, member, has⟩ := borders.last c ends
    exact ⟨set, List.mem_append_left _ member, has⟩

theorem alt_right (borders : second.Borders one) : (alt first second).Borders one := by
  refine ⟨fun none => ?_, fun c begins => ?_, fun c ends => ?_⟩
  · rw [mayBeEmpty, borders.empty none, Bool.or_true]
  · obtain ⟨set, member, has⟩ := borders.first c begins
    exact ⟨set, List.mem_append_right _ member, has⟩
  · obtain ⟨set, member, has⟩ := borders.last c ends
    exact ⟨set, List.mem_append_right _ member, has⟩

theorem round (early : body.Borders one) (late : two = [] ∨ body.Borders two) : body.Borders (one ++ two) := by
  rcases late with rfl | late
  · rw [List.append_nil]
    exact early
  · obtain ⟨empty, first, last⟩ := early.seq late
    refine ⟨fun none => (Bool.and_eq_true_iff.mp (empty none)).1, fun c begins => ?_, fun c ends => ?_⟩
    · obtain ⟨set, member, has⟩ := first c begins
      rw [firsts] at member
      refine ⟨set, (List.mem_append.mp member).elim id fun inSecond => ?_, has⟩
      split at inSecond
      · exact inSecond
      · contradiction
    · obtain ⟨set, member, has⟩ := last c ends
      rw [lasts] at member
      refine ⟨set, (List.mem_append.mp member).elim id fun inFirst => ?_, has⟩
      split at inFirst
      · exact inFirst
      · contradiction

end Borders

theorem Takes.group {index : Nat} {body : Pattern} {text rest : List Char}
    (takes : (group index body).Takes text rest) : body.Takes text rest := by
  obtain ⟨cursor, rfl, way, member, rfl⟩ := takes
  obtain ⟨inner, inBody, rfl⟩ := List.mem_map.mp member
  have same : body.Takes cursor.rest inner.stop.rest := takes_of_mem inBody
  exact same

theorem Takes.exists_borders {pattern : Pattern} {text rest : List Char} (takes : pattern.Takes text rest) :
    ∃ taken, text = taken ++ rest ∧ pattern.Borders taken := by
  induction pattern generalizing text rest with
  | empty => exact ⟨[], takes.empty, .nil rfl⟩
  | look condition => exact ⟨[], takes.look, .nil rfl⟩
  | chars set =>
      obtain ⟨c, rfl, has⟩ := takes.chars
      have only (d : Char) (here : d ∈ some c) : ∃ other ∈ [set], other.has d = true := by
        rw [← Option.some.inj here]
        exact ⟨set, List.mem_singleton_self set, has⟩
      exact ⟨[c], rfl, nofun, only, only⟩
  | seq first second ihFirst ihSecond =>
      obtain ⟨middle, early, late⟩ := takes.seq
      obtain ⟨one, rfl, bordersFirst⟩ := ihFirst early
      obtain ⟨two, rfl, bordersSecond⟩ := ihSecond late
      exact ⟨one ++ two, (List.append_assoc _ _ _).symm, bordersFirst.seq bordersSecond⟩
  | alt first second ihFirst ihSecond =>
      rcases takes.alt with one | two
      · obtain ⟨taken, split, borders⟩ := ihFirst one
        exact ⟨taken, split, borders.alt_left⟩
      · obtain ⟨taken, split, borders⟩ := ihSecond two
        exact ⟨taken, split, borders.alt_right⟩
  | group index body ih =>
      obtain ⟨taken, split, borders⟩ := ih takes.group
      exact ⟨taken, split, borders.empty, borders.first, borders.last⟩
  | repeated greedy body ih =>
      obtain ⟨middle, early, rounds⟩ := takes.repeated
      have later : ∃ taken, middle = taken ++ rest ∧ (taken = [] ∨ body.Borders taken) := by
        clear early
        induction rounds using Relation.ReflTransGen.head_induction_on with
        | refl => exact ⟨[], rfl, .inl rfl⟩
        | head first _ ihRounds =>
            obtain ⟨one, rfl, borders⟩ := ih first
            obtain ⟨two, rfl, more⟩ := ihRounds
            exact ⟨one ++ two, (List.append_assoc _ _ _).symm, .inr (borders.round more)⟩
      obtain ⟨one, rfl, borders⟩ := ih early
      obtain ⟨two, rfl, more⟩ := later
      have whole := borders.round more
      exact ⟨one ++ two, (List.append_assoc _ _ _).symm, whole.empty, whole.first, whole.last⟩

/-! ### Characters of identifiers -/

/-- No set has a character of identifiers. -/
def Nameless (sets : List CharSet) : Prop :=
  ∀ set ∈ sets, ∀ c, identifierPart.has c = true → set.has c = false

instance (sets : List CharSet) : Decidable (Nameless sets) :=
  decidable_of_iff (∀ set ∈ sets, ∀ code < 128, identifierPart.has (Char.ofNat code) = true →
      set.has (Char.ofNat code) = false)
    ⟨fun all set member _ => of_identifierPart (fun c => set.has c = false) (all set member),
      fun nameless set member code _ => nameless set member (Char.ofNat code)⟩

theorem Nameless.notPart {sets : List CharSet} (nameless : Nameless sets) {c : Char}
    (known : ∃ set ∈ sets, set.has c = true) : identifierPart.has c = false := by
  obtain ⟨set, member, has⟩ := known
  by_contra part
  rw [Bool.not_eq_false] at part
  rw [nameless set member c part] at has
  contradiction

theorem Takes.notPart_last {pattern : Pattern} {taken rest : List Char} (nameless : Nameless pattern.lasts)
    (takes : pattern.Takes (taken ++ rest) rest) : ∀ c ∈ taken.getLast?, identifierPart.has c = false := by
  obtain ⟨same, split, borders⟩ := takes.exists_borders
  cases List.append_cancel_right split
  exact fun c ends => nameless.notPart (borders.last c ends)

theorem Takes.notPart_head {pattern : Pattern} {text rest : List Char} (nameless : Nameless pattern.firsts)
    (some : pattern.mayBeEmpty = false) (takes : pattern.Takes text rest) :
    ∀ c ∈ text.head?, identifierPart.has c = false := by
  obtain ⟨taken, rfl, borders⟩ := takes.exists_borders
  cases taken with
  | nil =>
      rw [borders.empty rfl] at some
      contradiction
  | cons d taken => exact fun c begins => nameless.notPart (borders.first c begins)

end Pattern

end Callsite

import Callsite.Proofs.Pattern.Edges

set_option autoImplicit false

/-! Kinds of characters that no match does without. From the sets of a pattern it can be read off that every match
takes a character of some kind, or a character of one kind and further on one of another. -/

namespace Callsite

namespace Pattern

/-- Whether every match takes a character out of a set of the kind. -/
def alwaysTakes (kind : CharSet → Bool) : Pattern → Bool
  | empty | look _ => false
  | chars set => kind set
  | seq first second => first.alwaysTakes kind || second.alwaysTakes kind
  | alt first second => first.alwaysTakes kind && second.alwaysTakes kind
  | group _ body | repeated _ body => body.alwaysTakes kind

/-- Whether every match takes a character out of a set of one kind and, behind it, one out of a set of another
kind. -/
def takesInOrder (early late : CharSet → Bool) : Pattern → Bool
  | empty | look _ | chars _ => false
  | seq first second =>
      first.takesInOrder early late || second.takesInOrder early late ||
        (first.alwaysTakes early && second.alwaysTakes late)
  | alt first second => first.takesInOrder early late && second.takesInOrder early late
  | group _ body | repeated _ body => body.takesInOrder early late

def HasKind (kind : CharSet → Bool) (text : List Char) : Prop :=
  ∃ c ∈ text, ∃ set, kind set = true ∧ set.has c = true

def HasInOrder (early late : CharSet → Bool) (text : List Char) : Prop :=
  ∃ first second, text = first ++ second ∧ HasKind early first ∧ HasKind late second

section

variable {kind early late : CharSet → Bool} {one two : List Char}

theorem HasKind.append_left (has : HasKind kind one) (two : List Char) : HasKind kind (one ++ two) := by
  obtain ⟨c, member, known⟩ := has
  exact ⟨c, List.mem_append_left two member, known⟩

theorem HasKind.append_right (has : HasKind kind two) (one : List Char) : HasKind kind (one ++ two) := by
  obtain ⟨c, member, known⟩ := has
  exact ⟨c, List.mem_append_right one member, known⟩

theorem HasInOrder.append_left (has : HasInOrder early late one) (two : List Char) :
    HasInOrder early late (one ++ two) := by
  obtain ⟨first, second, rfl, inFirst, inSecond⟩ := has
  exact ⟨first, second ++ two, List.append_assoc _ _ _, inFirst, inSecond.append_left two⟩

theorem HasInOrder.append_right (has : HasInOrder early late two) (one : List Char) :
    HasInOrder early late (one ++ two) := by
  obtain ⟨first, second, rfl, inFirst, inSecond⟩ := has
  exact ⟨one ++ first, second, (List.append_assoc _ _ _).symm, inFirst.append_right one, inSecond⟩

end

/-- A text that has all kinds of characters that the pattern always takes, in their order. -/
structure KeepsKinds (pattern : Pattern) (taken : List Char) : Prop where
  always : ∀ {kind}, pattern.alwaysTakes kind = true → HasKind kind taken
  inOrder : ∀ {early late}, pattern.takesInOrder early late = true → HasInOrder early late taken

namespace KeepsKinds

variable {first second body : Pattern} {one two : List Char}

theorem seq (keeps : first.KeepsKinds one) (keepsToo : second.KeepsKinds two) :
    (seq first second).KeepsKinds (one ++ two) := by
  refine ⟨fun {kind} always => ?_, fun {early late} ordered => ?_⟩
  · rcases Bool.or_eq_true_iff.mp always with inFirst | inSecond
    · exact (keeps.always inFirst).append_left two
    · exact (keepsToo.always inSecond).append_right one
  · rw [takesInOrder, Bool.or_eq_true, Bool.or_eq_true, Bool.and_eq_true] at ordered
    rcases ordered with (inFirst | inSecond) | ⟨before, behind⟩
    · exact (keeps.inOrder inFirst).append_left two
    · exact (keepsToo.inOrder inSecond).append_right one
    · exact ⟨one, two, rfl, keeps.always before, keepsToo.always behind⟩

theorem alt_left (keeps : first.KeepsKinds one) : (alt first second).KeepsKinds one :=
  ⟨fun always => keeps.always (Bool.and_eq_true_iff.mp always).1,
    fun ordered => keeps.inOrder (Bool.and_eq_true_iff.mp ordered).1⟩

theorem alt_right (keeps : second.KeepsKinds one) : (alt first second).KeepsKinds one :=
  ⟨fun always => keeps.always (Bool.and_eq_true_iff.mp always).2,
    fun ordered => keeps.inOrder (Bool.and_eq_true_iff.mp ordered).2⟩

theorem append (keeps : body.KeepsKinds one) (two : List Char) : body.KeepsKinds (one ++ two) :=
  ⟨fun always => (keeps.always always).append_left two, fun ordered => (keeps.inOrder ordered).append_left two⟩

end KeepsKinds

theorem Takes.exists_keepsKinds {pattern : Pattern} {text rest : List Char} (takes : pattern.Takes text rest) :
    ∃ taken, text = taken ++ rest ∧ pattern.KeepsKinds taken := by
  induction pattern generalizing text rest with
  | empty => exact ⟨[], takes.empty, nofun, nofun⟩
  | look condition => exact ⟨[], takes.look, nofun, nofun⟩
  | chars set =>
      obtain ⟨c, rfl, has⟩ := takes.chars
      exact ⟨[c], rfl, fun known => ⟨c, List.mem_singleton_self c, set, known, has⟩, nofun⟩
  | seq first second ihFirst ihSecond =>
      obtain ⟨middle, early, late⟩ := takes.seq
      obtain ⟨one, rfl, keeps⟩ := ihFirst early
      obtain ⟨two, rfl, keepsToo⟩ := ihSecond late
      exact ⟨one ++ two, (List.append_assoc _ _ _).symm, keeps.seq keepsToo⟩
  | alt first second ihFirst ihSecond =>
      rcases takes.alt with one | two
      · obtain ⟨taken, split, keeps⟩ := ihFirst one
        exact ⟨taken, split, keeps.alt_left⟩
      · obtain ⟨taken, split, keeps⟩ := ihSecond two
        exact ⟨taken, split, keeps.alt_right⟩
  | group index body ih =>
      obtain ⟨taken, split, keeps⟩ := ih takes.group
      exact ⟨taken, split, keeps.always, keeps.inOrder⟩
  | repeated greedy body ih =>
      obtain ⟨middle, early, rounds⟩ := takes.repeated
      have later : ∃ taken, middle = taken ++ rest := by
        clear early
        induction rounds using Relation.ReflTransGen.head_induction_on with
        | refl => exact ⟨[], rfl⟩
        | head first _ ihRounds =>
            obtain ⟨one, rfl, _⟩ := ih first
            obtain ⟨two, rfl⟩ := ihRounds
            exact ⟨one ++ two, (List.append_assoc _ _ _).symm⟩
      obtain ⟨one, rfl, keeps⟩ := ih early
      obtain ⟨two, rfl⟩ := later
      have whole := keeps.append two
      exact ⟨one ++ two, (List.append_assoc _ _ _).symm, whole.always, whole.inOrder⟩

end Pattern

end Callsite

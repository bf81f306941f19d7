import Callsite.Pattern.Basic

set_option autoImplicit false

/-! What matching means. `Pattern.ways` lists every way to match at a cursor in the order of preference;
the first of them is the match. A repetition makes progress: after its first round, a round that
consumes nothing is no round. `Pattern.mem_ways` says that a way ends where it begins or later. -/

namespace Callsite

namespace Pattern

/-- The ways to go on after a round of a repetition, by further rounds or by leaving it. -/
def furtherWays (body : Cursor → List Way) (greedy : Bool) (cursor : Cursor) : List Way :=
  let rounds := (body cursor).flatMap fun way =>
    if way.stop.rest.length < cursor.rest.length then
      (furtherWays body greedy way.stop).map way.append
    else []
  if greedy then rounds ++ [.here cursor] else .here cursor :: rounds
termination_by cursor.rest.length

/-- The ways to match at `cursor`, in the order of preference. -/
def ways : Pattern → Cursor → List Way
  | empty, cursor => [.here cursor]
  | chars set, cursor =>
      match cursor.rest with
      | [] => []
      | c :: rest => if set.has c then [.here (cursor.past c rest)] else []
  | look condition, cursor =>
      if condition.holds cursor.before cursor.rest.head? then [.here cursor] else []
  | seq first second, cursor =>
      (first.ways cursor).flatMap fun way => (second.ways way.stop).map way.append
  | alt first second, cursor => first.ways cursor ++ second.ways cursor
  | group index body, cursor =>
      (body.ways cursor).map fun way =>
        (way.append (.closedAt index way.stop (.here way.stop))).openedAt index cursor
  | repeated greedy body, cursor =>
      (body.ways cursor).flatMap fun way =>
        if way.stop = cursor then [way]
        else (furtherWays body.ways greedy way.stop).map way.append

def AtOrAfter (cursor stop : Cursor) : Prop :=
  stop = cursor ∨ stop.rest.length < cursor.rest.length

theorem AtOrAfter.trans {first second third : Cursor} (early : AtOrAfter first second)
    (late : AtOrAfter second third) : AtOrAfter first third := by
  rcases early with rfl | early
  · exact late
  · rcases late with rfl | late
    · exact .inr early
    · exact .inr (Nat.lt_trans late early)

theorem mem_furtherWays_iff {body : Cursor → List Way} {greedy : Bool} {cursor : Cursor} {way : Way} :
    way ∈ furtherWays body greedy cursor ↔ way = .here cursor ∨ ∃ round ∈ body cursor,
      round.stop.rest.length < cursor.rest.length ∧
        ∃ further ∈ furtherWays body greedy round.stop, round.append further = way := by
  have inRounds : (way ∈ (body cursor).flatMap fun round =>
        if round.stop.rest.length < cursor.rest.length then
          (furtherWays body greedy round.stop).map round.append
        else []) ↔
      ∃ round ∈ body cursor, round.stop.rest.length < cursor.rest.length ∧
        ∃ further ∈ furtherWays body greedy round.stop, round.append further = way := by
    rw [List.mem_flatMap]
    refine exists_congr fun round => and_congr_right fun _ => ?_
    split
    · rename_i shorter
      simp [shorter]
    · rename_i longer
      simp [longer]
  rw [furtherWays, ← inRounds]
  cases greedy
  · simp
  · simp [or_comm]

theorem mem_furtherWays {body : Cursor → List Way} {greedy : Bool} {cursor : Cursor}
    {way : Way} (member : way ∈ furtherWays body greedy cursor) : AtOrAfter cursor way.stop := by
  induction cursor using (measure fun cursor : Cursor => cursor.rest.length).wf.induction
    generalizing way with
  | _ cursor ih =>
    rcases mem_furtherWays_iff.mp member with rfl | ⟨round, _, shorter, further, inFurther, rfl⟩
    · exact .inl rfl
    · have late : AtOrAfter round.stop further.stop := ih round.stop shorter inFurther
      exact AtOrAfter.trans (.inr shorter) late

theorem mem_ways {pattern : Pattern} {cursor : Cursor} {way : Way}
    (member : way ∈ pattern.ways cursor) : AtOrAfter cursor way.stop := by
  induction pattern generalizing cursor way with
  | empty =>
      simp only [ways, List.mem_singleton] at member
      exact .inl (by rw [member]; rfl)
  | chars set =>
      rw [ways] at member
      split at member
      · simp at member
      · rename_i c rest here
        split at member
        · simp only [List.mem_singleton] at member
          exact .inr (by rw [member, here]; simp [Way.here, Cursor.past])
        · simp at member
  | look condition =>
      rw [ways] at member
      split at member
      · simp only [List.mem_singleton] at member
        exact .inl (by rw [member]; rfl)
      · simp at member
  | seq first second ihFirst ihSecond =>
      simp only [ways, List.mem_flatMap, List.mem_map] at member
      obtain ⟨one, inFirst, two, inSecond, rfl⟩ := member
      have late : AtOrAfter one.stop two.stop := ihSecond inSecond
      exact (ihFirst inFirst).trans late
  | alt first second ihFirst ihSecond =>
      simp only [ways, List.mem_append] at member
      exact member.elim ihFirst ihSecond
  | group index body ih =>
      simp only [ways, List.mem_map] at member
      obtain ⟨inner, inBody, rfl⟩ := member
      have late : AtOrAfter cursor inner.stop := ih inBody
      exact late
  | repeated greedy body ih =>
      simp only [ways, List.mem_flatMap] at member
      obtain ⟨round, inBody, member⟩ := member
      split at member
      · simp only [List.mem_singleton] at member
        exact member ▸ ih inBody
      · simp only [List.mem_map] at member
        obtain ⟨further, inFurther, rfl⟩ := member
        have late : AtOrAfter round.stop further.stop := mem_furtherWays inFurther
        exact (ih inBody).trans late

end Pattern

end Callsite

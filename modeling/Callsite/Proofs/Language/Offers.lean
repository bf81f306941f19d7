import Callsite.Proofs.Language.LiteralTargets
import Callsite.Proofs.Language.ShippedFrames

set_option autoImplicit false

/-! Texts that a pattern can take. Where every piece of a rule can take its part of a line, there is a way through
the rule, and so the rule finds something on the line: along this way, or along one that it prefers. Whatever it
finds, its pieces have taken the line apart. -/

namespace Callsite

open Pattern Text

namespace Pattern

/-- Wherever `taken` stands in front of `rest`, some way through the pattern takes it. -/
def Offers (pattern : Pattern) (taken rest : List Char) : Prop :=
  ∀ ⦃cursor stop : Cursor⦄, cursor.Reaches taken stop → stop.rest = rest →
    ∃ way ∈ pattern.ways cursor, way.stop = stop

/-- A text in rounds of the pattern, none of which is empty. -/
inductive Rounds (body : Pattern) (rest : List Char) : List Char → Prop where
  | here : Rounds body rest []
  | round {one two : List Char} : one ≠ [] → body.Offers one (two ++ rest) → Rounds body rest two →
      Rounds body rest (one ++ two)

namespace Offers

variable {pattern first second body : Pattern} {pieces : List Pattern} {one two run rest : List Char}
  {greedy : Bool}

theorem empty : Pattern.empty.Offers [] rest := by
  intro cursor stop reaches _
  cases reaches
  exact ⟨.here cursor, List.mem_singleton_self _, rfl⟩

theorem chars {set : CharSet} {c : Char} (has : set.has c = true) : (Pattern.chars set).Offers [c] rest := by
  intro cursor stop reaches _
  cases reaches with
  | past split onward =>
      cases onward
      rw [ways_chars_cons split, if_pos has]
      exact ⟨_, List.mem_singleton_self _, rfl⟩

theorem single (c : Char) : (Pattern.chars (.single c)).Offers [c] rest :=
  chars (CharSet.has_single_iff.mpr rfl)

theorem textEnd : (look .textEnd).Offers [] [] := by
  intro cursor stop reaches ended
  cases reaches
  refine ⟨.here cursor, mem_ways_look_iff.mpr ⟨rfl, ?_⟩, rfl⟩
  rw [ended]
  rfl

theorem literals (word : List Char) : (literals word).Offers word rest :=
  fun _ _ reaches _ => exists_mem_ways_literals reaches

theorem identifier {name : List Char} (shape : isIdentifier name = true) : identifier.Offers name rest := by
  intro cursor stop reaches split
  obtain ⟨way, member, ends⟩ := literals name reaches split
  rw [ways_literals shape] at member
  exact ⟨way, (List.mem_filter.mp member).1, ends⟩

theorem alt_left (offers : first.Offers run rest) : (alt first second).Offers run rest := by
  intro cursor stop reaches split
  obtain ⟨way, member, ends⟩ := offers reaches split
  exact ⟨way, List.mem_append_left _ member, ends⟩

theorem alt_right (offers : second.Offers run rest) : (alt first second).Offers run rest := by
  intro cursor stop reaches split
  obtain ⟨way, member, ends⟩ := offers reaches split
  exact ⟨way, List.mem_append_right _ member, ends⟩

theorem optional_some (offers : body.Offers run rest) : (optional greedy body).Offers run rest := by
  cases greedy with
  | true => exact offers.alt_left
  | false => exact offers.alt_right

theorem optional_none : (optional greedy body).Offers [] rest := by
  cases greedy with
  | true => exact empty.alt_right
  | false => exact empty.alt_left

/-! ### Patterns in a row -/

theorem seq (early : first.Offers one (two ++ rest)) (late : second.Offers two rest) :
    (seq first second).Offers (one ++ two) rest := by
  intro cursor stop reaches split
  obtain ⟨middle, ahead, behind⟩ := reaches.split
  obtain ⟨way, inFirst, rfl⟩ := early ahead (split ▸ behind.rest_eq)
  obtain ⟨other, inSecond, rfl⟩ := late behind split
  exact ⟨_, List.mem_flatMap.mpr ⟨way, inFirst, List.mem_map.mpr ⟨other, inSecond, rfl⟩⟩, rfl⟩

theorem sequence_nil : (sequence []).Offers [] rest :=
  empty

theorem sequence_cons (early : pattern.Offers one (two ++ rest)) (late : (sequence pieces).Offers two rest) :
    (sequence (pattern :: pieces)).Offers (one ++ two) rest := by
  intro cursor stop reaches split
  obtain ⟨middle, ahead, behind⟩ := reaches.split
  obtain ⟨way, inFirst, rfl⟩ := early ahead (split ▸ behind.rest_eq)
  obtain ⟨other, inSecond, rfl⟩ := late behind split
  rw [ways_sequence_cons]
  exact ⟨_, List.mem_flatMap.mpr ⟨way, inFirst, List.mem_map.mpr ⟨other, inSecond, rfl⟩⟩, rfl⟩

/-! ### Repetitions -/

private theorem further (rounds : Rounds body rest run) {cursor stop : Cursor}
    (reaches : cursor.Reaches run stop) (split : stop.rest = rest) :
    ∃ way ∈ furtherWays body.ways greedy cursor, way.stop = stop := by
  induction rounds generalizing cursor with
  | here =>
      cases reaches
      exact ⟨.here stop, mem_furtherWays_iff.mpr (.inl rfl), rfl⟩
  | @round one two filled offers _ ih =>
      obtain ⟨middle, ahead, behind⟩ := reaches.split
      obtain ⟨round, inBody, rfl⟩ := offers ahead (split ▸ behind.rest_eq)
      obtain ⟨later, inFurther, rfl⟩ := ih behind
      refine ⟨_, mem_furtherWays_iff.mpr (.inr ⟨round, inBody, ?_, later, inFurther, rfl⟩), rfl⟩
      rw [ahead.rest_eq, List.length_append]
      exact Nat.lt_add_of_pos_left (List.length_pos_iff.mpr filled)

theorem repeated (filled : one ≠ []) (early : body.Offers one (two ++ rest)) (rounds : Rounds body rest two) :
    (repeated greedy body).Offers (one ++ two) rest := by
  intro cursor stop reaches split
  obtain ⟨middle, ahead, behind⟩ := reaches.split
  obtain ⟨round, inBody, rfl⟩ := early ahead (split ▸ behind.rest_eq)
  obtain ⟨later, inFurther, rfl⟩ := further rounds behind split
  have moved : round.stop ≠ cursor := by
    intro same
    have lengths := congrArg List.length ahead.rest_eq
    rw [same, List.length_append] at lengths
    exact filled (List.length_eq_zero_iff.mp (by omega))
  refine ⟨round.append later, List.mem_flatMap.mpr ⟨round, inBody, ?_⟩, rfl⟩
  rw [if_neg moved]
  exact List.mem_map.mpr ⟨later, inFurther, rfl⟩

theorem anyNumber (rounds : Rounds body rest run) : (anyNumber greedy body).Offers run rest := by
  cases rounds with
  | here => exact optional_none
  | round filled early later => exact (repeated filled early later).optional_some

private theorem rounds_chars {set : CharSet} (all : ∀ c ∈ run, set.has c = true) :
    Rounds (.chars set) rest run := by
  induction run with
  | nil => exact .here
  | cons c run ih =>
      obtain ⟨here, later⟩ := List.forall_mem_cons.mp all
      have one : Rounds (.chars set) rest ([c] ++ run) := .round (List.cons_ne_nil c []) (chars here) (ih later)
      exact one

theorem anyNumber_chars {set : CharSet} (all : ∀ c ∈ run, set.has c = true) :
    (Pattern.anyNumber greedy (.chars set)).Offers run rest :=
  anyNumber (rounds_chars all)

theorem repeated_chars {set : CharSet} (filled : run ≠ []) (all : ∀ c ∈ run, set.has c = true) :
    (Pattern.repeated greedy (.chars set)).Offers run rest := by
  obtain ⟨c, run, rfl⟩ := List.exists_cons_of_ne_nil filled
  obtain ⟨here, later⟩ := List.forall_mem_cons.mp all
  have one : (Pattern.repeated greedy (.chars set)).Offers ([c] ++ run) rest :=
    repeated (List.cons_ne_nil c []) (chars here) (rounds_chars later)
  exact one

/-! ### Pieces of rules -/

theorem blanks {space : List Char} (blank : Blanks space) : blanks.Offers space rest :=
  anyNumber_chars blank

theorem gap {space : List Char} (spaced : Gap space) : gap.Offers space rest :=
  repeated_chars spaced.filled spaced.blanks

theorem anyOf {words : List String} {word : String} (member : word ∈ words) :
    (anyOf words).Offers word.toList rest := by
  induction words with
  | nil => contradiction
  | cons head others ih =>
      cases others with
      | nil =>
          cases List.mem_singleton.mp member
          exact literals _
      | cons other others =>
          rcases List.mem_cons.mp member with rfl | later
          · exact (literals _).alt_left
          · exact (ih later).alt_right

theorem modifiers {words : List String} {text : List Char} (shapes : Identifiers words)
    (led : Led words rest text) : ∃ run, text = run ++ rest ∧ (modifiers words).Offers run rest := by
  have rounds : ∃ run, text = run ++ rest ∧ Rounds (.seq (Pattern.anyOf words) Pattern.gap) rest run := by
    induction led with
    | here => exact ⟨[], rfl, .here⟩
    | @word word space text member spaced _ ih =>
        obtain ⟨run, rfl, rounds⟩ := ih
        refine ⟨word.toList ++ space ++ run, by simp only [List.append_assoc], ?_⟩
        refine .round ?_ ((anyOf member).seq (gap spaced)) rounds
        exact List.append_ne_nil_of_left_ne_nil (shapes.solid word member).filled _
  obtain ⟨run, split, rounds⟩ := rounds
  exact ⟨run, split, anyNumber rounds⟩

theorem paren {space : List Char} (blank : Blanks space) :
    (sequence [Pattern.blanks, Pattern.chars (.single '(')]).Offers (space ++ ['(']) rest :=
  (blanks blank).sequence_cons ((single '(').sequence_cons sequence_nil)

theorem unfinishedLine {space : List Char} (blank : Blanks space) (none : ';' ∉ run) :
    (sequence unfinishedLine).Offers (space ++ '(' :: run) [] := by
  have others : ∀ c ∈ run, (noneOf [';']).has c = true := by
    intro c member
    have other : (CharSet.single ';').has c = false :=
      Bool.eq_false_of_not_eq_true fun same => none (CharSet.has_single_iff.mp same ▸ member)
    simp [noneOf, oneOf, CharSet.has, other]
  have inner : (sequence [Pattern.anyNumber true (.chars (noneOf [';'])), look .textEnd]).Offers (run ++ []) [] :=
    (anyNumber_chars others).sequence_cons (textEnd.sequence_cons sequence_nil)
  rw [List.append_nil] at inner
  exact (blanks blank).sequence_cons ((single '(').sequence_cons inner)

end Offers

end Pattern

/-! ### Rules -/

theorem Frame.exists_mem_ways_fill {frame : Frame} {body : Pattern} {start : Cursor} {ahead : Way}
    {name after rest : List Char} (inFront : ahead ∈ (sequence frame.front).ways start)
    (split : ahead.stop.rest = name ++ (after ++ rest)) (called : body.Offers name (after ++ rest))
    (behind : (sequence frame.back).Offers after rest) : ∃ way, way ∈ (frame.fill body).ways start := by
  obtain ⟨stop, reachesStop, restStop⟩ := Cursor.exists_reaches split
  obtain ⟨last, reachesLast, restLast⟩ := Cursor.exists_reaches restStop
  obtain ⟨second, inBody, rfl⟩ := called reachesStop restStop
  obtain ⟨third, inBack, _⟩ := behind reachesLast restLast
  exact ⟨_, Frame.mem_ways_fill_iff.mpr ⟨ahead, second, third, ⟨inFront, inBody, inBack⟩, rfl⟩⟩

namespace Rule.Fills

variable {rule : Rule} {frame : Frame} {body : Pattern} {line : String} {hit : Hit}

theorem exists_hit (fills : rule.Fills frame body) (plain : body.groups = []) {pieces : List Pattern}
    (front : frame.front = look .textStart :: pieces) {before name after rest : List Char}
    (whole : line.toList = before ++ (name ++ (after ++ rest)))
    (ahead : (sequence pieces).Offers before (name ++ (after ++ rest))) (called : body.Offers name (after ++ rest))
    (behind : (sequence frame.back).Offers after rest) : ∃ hit, rule.find? line = some hit := by
  have anchored : frame.Anchored := by
    rw [Frame.Anchored, front]
    rfl
  have text : (Cursor.start line.toList).rest = before ++ (name ++ (after ++ rest)) := whole
  obtain ⟨start, reaches, split⟩ := Cursor.exists_reaches text
  obtain ⟨first, inPieces, rfl⟩ := ahead reaches split
  have inFront : first ∈ (sequence frame.front).ways (.start line.toList) := by
    have starts : Way.here (.start line.toList) ∈ (look .textStart).ways (.start line.toList) :=
      mem_ways_look_iff.mpr ⟨rfl, rfl⟩
    rw [front, ways_sequence_cons]
    exact List.mem_flatMap.mpr ⟨_, starts, List.mem_map.mpr ⟨first, inPieces, Way.here_append _ first⟩⟩
  obtain ⟨way, member⟩ := Frame.exists_mem_ways_fill inFront split called behind
  obtain ⟨way, matched⟩ := Option.isSome_iff_exists.mp (List.isSome_head?.mpr (List.ne_nil_of_mem member))
  obtain ⟨_, _, _, passes, rfl⟩ := Frame.mem_ways_fill_iff.mp (List.mem_of_head? matched)
  exact ⟨_, fills.find?_eq anchored plain matched passes⟩

theorem exists_before (fills : rule.Fills frame body) (anchored : frame.Anchored) (plain : body.groups = [])
    (hits : rule.find? line = some hit) :
    ∃ before after rest, line.toList = before ++ (hit.name.toList ++ after) ∧ hit.start = byteLength before ∧
      (sequence frame.front).Takes line.toList (hit.name.toList ++ after) ∧
        (sequence frame.back).Takes after rest := by
  obtain ⟨ahead, called, behind, _, passes, rfl⟩ := fills.exists_passes_of_find? anchored plain hits
  obtain ⟨before, reaches, _⟩ := exists_reaches_of_mem_ways passes.inFront
  have whole : line.toList = before ++ ahead.stop.rest := reaches.rest_eq
  have rest := passes.rest_eq
  refine ⟨before, called.stop.rest, behind.stop.rest, ?_, ?_, ?_, takes_of_mem passes.inBack⟩
  · rw [String.toList_ofList, ← rest, whole]
  · rw [reaches.offset_eq]
    exact Nat.zero_add _
  · rw [String.toList_ofList, ← rest]
    exact takes_of_mem passes.inFront

theorem isIdentifier_of_find? (fills : rule.Fills frame identifier) (anchored : frame.Anchored)
    (hits : rule.find? line = some hit) : isIdentifier hit.name.toList = true := by
  obtain ⟨ahead, called, behind, _, passes, rfl⟩ := fills.exists_passes_of_find? anchored rfl hits
  rw [String.toList_ofList]
  exact passes.reads.isIdentifier

end Rule.Fills

end Callsite

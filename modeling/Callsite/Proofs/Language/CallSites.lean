import Callsite.Calls
import Callsite.Proofs.Language.ShippedFrames
import Callsite.Proofs.Language.ShippedRegistry
import Callsite.Proofs.Pattern.Cover
import Callsite.Proofs.Pattern.Reading

set_option autoImplicit false

/-! Two views of the calls on a line. The rules for any name list the calls, the rules for one name look for
it. What they look for is among the calls, or ends one of them, in which case it begins next to a dollar
sign: a dollar sign belongs to an identifier but not to a word. -/

namespace Callsite

open Pattern Text

/-- White space at most stands between the name, with which the text begins, and a parenthesis. -/
def IsCalled (name text : List Char) : Prop :=
  ∃ space rest, text = name ++ (space ++ '(' :: rest) ∧ Blanks space

theorem IsCalled.unique {name other text : List Char} (parts : ∀ c ∈ name, identifierPart.has c = true)
    (partsToo : ∀ c ∈ other, identifierPart.has c = true) (called : IsCalled name text)
    (calledToo : IsCalled other text) : name = other := by
  obtain ⟨space, rest, rfl, blank⟩ := called
  obtain ⟨gap, tail, same, blankToo⟩ := calledToo
  exact (append_run_inj parts partsToo (notPart_head blank (by decide) rest)
    (notPart_head blankToo (by decide) tail) same).1

private theorem isCalled_nil {before after space rest : List Char} (blank : Blanks space)
    (some : after ≠ []) (split : space ++ ['('] = before ++ after) : IsCalled [] (after ++ rest) := by
  rcases List.append_eq_append_iff.mp split with ⟨more, _, last⟩ | ⟨more, within, rfl⟩
  · cases more with
    | nil =>
        subst last
        exact ⟨[], rest, rfl, nofun⟩
    | cons c more =>
        have none := (List.append_eq_nil_iff.mp (List.cons.inj last).2.symm).2
        contradiction
  · refine ⟨more, rest, by simp, fun c member => blank c ?_⟩
    rw [within]
    exact List.mem_append_right _ member

/-- A call that begins within the name of another one ends with it. -/
theorem IsCalled.eq_append {name other before after space rest : List Char}
    (filled : other ≠ []) (parts : ∀ c ∈ name, identifierPart.has c = true)
    (partsToo : ∀ c ∈ other, identifierPart.has c = true) (blank : Blanks space) (some : after ≠ [])
    (split : before ++ after = name ++ (space ++ ['('])) (called : IsCalled other (after ++ rest)) :
    name = before ++ other := by
  rcases List.append_eq_append_iff.mp split with ⟨ending, rfl, rfl⟩ | ⟨more, _, left⟩
  · have ends : IsCalled ending (ending ++ (space ++ ['(']) ++ rest) := ⟨space, rest, by simp, blank⟩
    have same := ends.unique (fun c member => parts c (List.mem_append_right _ member)) partsToo called
    rw [same]
  · have empty := (isCalled_nil blank some left).unique (List.forall_mem_nil _) partsToo called
    exact absurd empty.symm filled

theorem IsCalled.not_dotted {name space rest : List Char} (parts : ∀ c ∈ name, identifierPart.has c = true)
    (blank : Blanks space) : ¬IsCalled name (space ++ '.' :: rest) := by
  rintro ⟨gap, tail, same, blankToo⟩
  have split : [] ++ (space ++ '.' :: rest) = name ++ (gap ++ '(' :: tail) := same
  obtain ⟨_, same⟩ := append_run_inj (List.forall_mem_nil _) parts (notPart_head blank (by decide) rest)
    (notPart_head blankToo (by decide) tail) split
  have other := (append_blanks_inj blank blankToo (.cons (by decide) _) (.cons (by decide) _) same).2
  exact absurd (List.cons.inj other).1 (by decide)

private theorem exists_cut {before after space rest : List Char} (blank : Blanks space) (some : after ≠ [])
    (flush : Flush after) (split : before ++ after = space ++ rest) : ∃ gone, gone ++ after = rest := by
  rcases List.append_eq_append_iff.mp split with ⟨more, rfl, rfl⟩ | ⟨more, _, rfl⟩
  · cases more with
    | nil => exact ⟨[], rfl⟩
    | cons c more =>
        have plain := flush c rfl
        rw [blank c (List.mem_append_right _ List.mem_cons_self)] at plain
        contradiction
  · exact ⟨more, rfl⟩

namespace Frame

variable {frame : Frame} {start : Cursor} {called : List Char}

/-- A way through a frame that takes `called` for a name in front of a parenthesis. -/
structure Calls (frame : Frame) (start : Cursor) (called : List Char) (ahead name behind : Way) : Prop where
  passes : frame.Passes identifier start ahead name behind
  shape : isIdentifier called = true
  reaches : ahead.stop.Reaches called name.stop
  space : ∃ space, Blanks space ∧ name.stop.Reaches (space ++ ['(']) behind.stop

theorem exists_space {body : Pattern} (back : frame.back = [blanks, .chars (.single '(')])
    {ahead name behind : Way} (passes : frame.Passes body start ahead name behind) :
    ∃ space, Blanks space ∧ name.stop.Reaches (space ++ ['(']) behind.stop := by
  have inBack := passes.inBack
  rw [back] at inBack
  obtain ⟨consumed, reaches, _⟩ := exists_reaches_of_mem_ways inBack
  obtain ⟨middle, first, second⟩ := (takes_of_mem inBack).sequence_cons
  obtain ⟨space, split, blank⟩ := first.blanks
  have last : middle = '(' :: behind.stop.rest := Takes.single second
  have same : consumed = space ++ ['('] := reaches.eq_of_rest (by rw [split, last]; simp)
  exact ⟨space, blank, same ▸ reaches⟩

theorem Passes.calls (back : frame.back = [blanks, .chars (.single '(')]) {ahead name behind : Way}
    (passes : frame.Passes identifier start ahead name behind) :
    ∃ called, frame.Calls start called ahead name behind := by
  obtain ⟨called, reaches, shape⟩ := isIdentifier_of_mem_ways passes.inBody
  exact ⟨called, passes, shape, reaches, exists_space back passes⟩

namespace Calls

variable {ahead name behind : Way} (calls : frame.Calls start called ahead name behind)

include calls

theorem isCalled : IsCalled called ahead.stop.rest := by
  obtain ⟨space, blank, reaches⟩ := calls.space
  refine ⟨space, behind.stop.rest, ?_, blank⟩
  rw [calls.reaches.rest_eq, reaches.rest_eq, List.append_assoc]
  rfl

theorem parts : ∀ c ∈ called, identifierPart.has c = true :=
  (identifierPart_of_isIdentifier calls.shape).2

theorem moves : start.offset < behind.stop.offset := by
  obtain ⟨consumed, early, _⟩ := exists_reaches_of_mem_ways calls.passes.inFront
  obtain ⟨space, _, late⟩ := calls.space
  have filled : called ≠ [] := (identifierPart_of_isIdentifier calls.shape).1
  exact Nat.lt_of_le_of_lt early.offset_le
    (Nat.lt_of_lt_of_le (calls.reaches.offset_lt filled) late.offset_le)

end Calls

theorem exists_calls_of_mem (back : frame.back = [blanks, .chars (.single '(')])
    (shape : isIdentifier called = true) {way : Way}
    (member : way ∈ (frame.fill (literals called)).ways start) :
    ∃ ahead name behind, frame.Calls start called ahead name behind ∧ ahead.naming name behind = way := by
  have inFree := member
  rw [ways_fill_literals shape, List.mem_filter] at inFree
  obtain ⟨inFree, names⟩ := inFree
  obtain ⟨ahead, name, behind, passes, rfl⟩ := mem_ways_fill_iff.mp inFree
  obtain ⟨other, calls⟩ := passes.calls back
  rw [passes.names_eq rfl, calls.reaches.textUpTo_eq, decide_eq_true_eq] at names
  exact ⟨ahead, name, behind, names ▸ calls, rfl⟩

theorem Calls.mem_ways {ahead name behind : Way} (calls : frame.Calls start called ahead name behind) :
    ahead.naming name behind ∈ (frame.fill (literals called)).ways start := by
  rw [ways_fill_literals calls.shape, List.mem_filter]
  refine ⟨mem_ways_fill_iff.mpr ⟨ahead, name, behind, calls.passes, rfl⟩, ?_⟩
  rw [calls.passes.names_eq rfl, calls.reaches.textUpTo_eq, decide_eq_true_eq]

/-- Where the rule for one name finds a call, the rule for any name finds one that is the same, or that
begins before it and ends behind its beginning. -/
theorem exists_cover (back : frame.back = [blanks, .chars (.single '(')])
    (shape : isIdentifier called = true) {text leading : List Char}
    (reached : (Cursor.start text).Reaches leading start) {way : Way}
    (member : way ∈ (frame.fill (literals called)).ways start) :
    ∃ cover ∈ (frame.fill identifier).findAll text, ∃ listed ahead name behind,
      frame.Calls cover.start listed ahead name behind ∧ ahead.naming name behind = cover.way ∧
        (cover.start = start ∨ ∃ before after, before ≠ [] ∧ after ≠ [] ∧
          cover.start.Reaches before start ∧ start.Reaches after behind.stop) := by
  rw [ways_fill_literals shape, List.mem_filter] at member
  obtain ⟨first, matched⟩ := Option.isSome_iff_exists.mp
    (List.isSome_head?.mpr (List.ne_nil_of_mem member.1))
  obtain ⟨_, _, _, passes, rfl⟩ := mem_ways_fill_iff.mp (List.mem_of_head? matched)
  obtain ⟨_, calls⟩ := passes.calls back
  obtain ⟨cover, found, place⟩ := exists_cover_of_match? reached matched calls.moves
  have stands := stands_of_mem_findAll found
  obtain ⟨ahead, name, behind, passes, same⟩ := mem_ways_fill_iff.mp stands.way
  obtain ⟨listed, calls⟩ := passes.calls back
  refine ⟨cover, found, listed, ahead, name, behind, calls, same, ?_⟩
  rcases place with rfl | ⟨earlier, later⟩
  · exact .inl rfl
  · obtain ⟨_, early⟩ := stands.start
    obtain ⟨before, some, reaches⟩ := early.between reached earlier
    obtain ⟨consumed, whole, _⟩ := exists_reaches_of_mem_ways stands.way
    rw [← same] at whole
    rw [Found.stop, ← same] at later
    obtain ⟨after, someToo, onward⟩ := reaches.between whole later
    exact .inr ⟨before, after, some, someToo, reaches, onward⟩

end Frame

/-! ### Dollar signs -/

theorem isWordPart_of_identifierPart {c : Char} (part : identifierPart.has c = true) :
    isWordPart c = decide (c ≠ '$') :=
  of_identifierPart (fun c => isWordPart c = decide (c ≠ '$')) (by decide +kernel) part

theorem isWordPart_ne_iff {c d : Char} (part : identifierPart.has c = true)
    (partToo : identifierPart.has d = true) :
    isWordPart c ≠ isWordPart d ↔ (c = '$' ↔ d ≠ '$') := by
  rw [isWordPart_of_identifierPart part, isWordPart_of_identifierPart partToo]
  by_cases dollar : c = '$' <;> simp [dollar]

/-- A name that ends another one. Where it begins, just one of the two neighbours is a dollar sign. -/
def EndsAtDollar (part name : List Char) : Prop :=
  ∃ before last first rest, name = before ++ last :: first :: rest ∧ part = first :: rest ∧
    (last = '$' ↔ first ≠ '$')

namespace Shipped

variable {start : Cursor} {called : List Char} {ahead name behind : Way}

theorem mem_front_plainCall_iff : ahead ∈ (sequence plainCall.front).ways start ↔
    ahead = .here start ∧
      Look.inWord false start.before ≠ Look.inWord false start.rest.head? := by
  have alone : (sequence plainCall.front).ways start =
      if (Look.wordBoundary false).holds start.before start.rest.head? then [.here start] else [] := rfl
  rw [alone, Look.holds]
  split
  · rename_i differ
    rw [List.mem_singleton, and_iff_left (bne_iff_ne.mp differ)]
  · rename_i alike
    simp only [List.not_mem_nil, false_iff, not_and]
    exact fun _ => mt bne_iff_ne.mpr alike

theorem endsAtDollar_of_boundary {before : List Char} {cursor : Cursor} (some : before ≠ [])
    (reaches : cursor.Reaches before start) (filled : called ≠ []) {rest : List Char}
    (split : start.rest = called ++ rest) (parts : ∀ c ∈ before ++ called, identifierPart.has c = true)
    (boundary : Look.inWord false start.before ≠ Look.inWord false start.rest.head?) :
    EndsAtDollar called (before ++ called) := by
  obtain ⟨init, last, rfl⟩ := List.eq_nil_or_concat' before |>.resolve_left some
  obtain ⟨first, more, rfl⟩ := List.exists_cons_of_ne_nil filled
  refine ⟨init, last, first, more, by simp, rfl, ?_⟩
  refine (isWordPart_ne_iff (parts last (by simp)) (parts first (by simp))).mp ?_
  rw [reaches.before_eq, split] at boundary
  exact boundary

theorem exists_listed_end (shape : isIdentifier called = true) {text leading : List Char}
    (reached : (Cursor.start text).Reaches leading start) {way : Way}
    (member : way ∈ (plainCall.fill (literals called)).ways start) :
    ∃ cover ∈ (plainCall.fill identifier).findAll text, ∃ more ahead name behind,
      plainCall.Calls cover.start (more ++ called) ahead name behind ∧
        ahead.naming name behind = cover.way ∧ cover.start.Reaches more start := by
  obtain ⟨filled, parts⟩ := identifierPart_of_isIdentifier shape
  obtain ⟨ahead, name, behind, calls, _⟩ := Frame.exists_calls_of_mem rfl shape member
  obtain ⟨rfl, _⟩ := mem_front_plainCall_iff.mp calls.passes.inFront
  obtain ⟨cover, found, listed, front, other, back, covers, same, place⟩ :=
    Frame.exists_cover rfl shape reached member
  obtain ⟨rfl, _⟩ := mem_front_plainCall_iff.mp covers.passes.inFront
  rcases place with here | ⟨before, after, some, someToo, early, late⟩
  · have there := covers.isCalled
    rw [Way.here, here] at there
    cases there.unique covers.parts parts calls.isCalled
    exact ⟨cover, found, [], _, other, back, covers, same, here ▸ .here start⟩
  · obtain ⟨space, blank, last⟩ := covers.space
    have whole := (covers.reaches.trans last).eq_of_rest ((early.trans late).rest_eq)
    have called_ : IsCalled called (after ++ back.stop.rest) := by
      rw [← late.rest_eq]
      exact calls.isCalled
    have ends := IsCalled.eq_append filled covers.parts parts blank someToo whole.symm called_
    exact ⟨cover, found, before, _, other, back, ends ▸ covers, same, early⟩

theorem exists_listed_plain (shape : isIdentifier called = true) {text leading : List Char}
    (reached : (Cursor.start text).Reaches leading start) {way : Way}
    (member : way ∈ (plainCall.fill (literals called)).ways start) :
    ∃ cover ∈ (plainCall.fill identifier).findAll text, ∃ listed ahead name behind,
      plainCall.Calls cover.start listed ahead name behind ∧ ahead.naming name behind = cover.way ∧
        (listed = called ∨ EndsAtDollar called listed) := by
  obtain ⟨ahead, name, behind, calls, _⟩ := Frame.exists_calls_of_mem rfl shape member
  obtain ⟨rfl, boundary⟩ := mem_front_plainCall_iff.mp calls.passes.inFront
  obtain ⟨cover, found, more, front, other, back, covers, same, early⟩ :=
    exists_listed_end shape reached member
  refine ⟨cover, found, more ++ called, front, other, back, covers, same, ?_⟩
  cases more with
  | nil => exact .inl rfl
  | cons c more =>
      have filled := (identifierPart_of_isIdentifier shape).1
      exact .inr (endsAtDollar_of_boundary (List.cons_ne_nil c more) early filled calls.reaches.rest_eq
        covers.parts boundary)

theorem exists_dotted (member : ahead ∈ (sequence memberCall.front).ways start) :
    ∃ first space gap, start.rest = first :: (space ++ '.' :: (gap ++ ahead.stop.rest)) ∧
      (isWordPart first = true ∨ first = '$') ∧ Blanks space ∧ Blanks gap := by
  obtain ⟨_, first, takes⟩ := (takes_of_mem member).sequence_cons
  obtain ⟨_, second, takes⟩ := takes.sequence_cons
  obtain ⟨_, third, fourth⟩ := takes.sequence_cons
  obtain ⟨c, split, has⟩ := first.chars
  obtain ⟨space, rfl, blank⟩ := second.blanks
  obtain ⟨gap, rfl, blankToo⟩ := Takes.blanks fourth
  refine ⟨c, space, gap, by rw [split, third.single], ?_, blank, blankToo⟩
  simpa [CharSet.has, CharSet.has_single_iff, CharClass.has] using has

private theorem not_of_wordPart {c : Char} (wordly : isWordPart c = true ∨ c = '$') :
    isBlank c = false ∧ c ≠ '.' ∧ c ≠ '(' := by
  rcases wordly with part | rfl
  · refine ⟨?_, ?_, ?_⟩
    · by_contra blank
      rw [Bool.not_eq_false] at blank
      have other := of_isBlank (fun c => isWordPart c = false) (by decide +kernel) blank
      rw [part] at other
      contradiction
    · rintro rfl
      exact absurd part (by decide +kernel)
    · rintro rfl
      exact absurd part (by decide +kernel)
  · decide

/-- No call behind a dot begins within another one. -/
theorem not_within_dotted {listed before after space gap spaceEnd next nextGap rest tail : List Char}
    {first head : Char} (blank : Blanks space) (blankGap : Blanks gap) (blankEnd : Blanks spaceEnd)
    (blankNext : Blanks next) (parts : ∀ c ∈ listed, identifierPart.has c = true) (some : before ≠ [])
    (someToo : after ≠ []) (wordly : isWordPart head = true ∨ head = '$')
    (split : before ++ after = first :: (space ++ '.' :: (gap ++ (listed ++ (spaceEnd ++ ['('])))))
    (onward : after ++ rest = head :: (next ++ '.' :: (nextGap ++ tail))) : False := by
  obtain ⟨plain, noDot, noParen⟩ := not_of_wordPart wordly
  obtain ⟨d, after, rfl⟩ := List.exists_cons_of_ne_nil someToo
  obtain ⟨rfl, behind⟩ := List.cons.inj onward
  have flush : Flush (d :: after) := .cons plain after
  have notBehind : d ∉ spaceEnd ++ ['('] := by
    intro member
    rcases List.mem_append.mp member with inSpace | only
    · rw [blankEnd d inSpace] at plain
      contradiction
    · exact noParen (List.mem_singleton.mp only)
  obtain ⟨c, before, rfl⟩ := List.exists_cons_of_ne_nil some
  obtain ⟨toDot, cut⟩ := exists_cut blank someToo flush (List.cons.inj split).2
  obtain ⟨dot, afterDot, rfl⟩ : ∃ dot afterDot, toDot = dot :: afterDot := by
    refine List.exists_cons_of_ne_nil ?_
    rintro rfl
    exact noDot (List.cons.inj cut).1
  obtain ⟨toName, cut⟩ := exists_cut blankGap someToo flush (List.cons.inj cut).2
  rcases List.append_eq_append_iff.mp cut with ⟨ending, rfl, left⟩ | ⟨more, _, left⟩
  · cases ending with
    | nil => exact notBehind (left ▸ List.mem_cons_self)
    | cons e ending =>
        obtain ⟨rfl, rfl⟩ := List.cons.inj left
        have endParts (c : Char) (member : c ∈ ending) : identifierPart.has c = true :=
          parts c (List.mem_append_right _ (List.mem_cons_of_mem _ member))
        have called : IsCalled ending (next ++ '.' :: (nextGap ++ tail)) := by
          refine ⟨spaceEnd, rest, ?_, blankEnd⟩
          rw [← behind]
          simp
        exact IsCalled.not_dotted endParts blankNext called
  · rw [left] at notBehind
    exact notBehind (List.mem_append_right _ List.mem_cons_self)

theorem exists_listed_member (shape : isIdentifier called = true) {text leading : List Char}
    (reached : (Cursor.start text).Reaches leading start) {way : Way}
    (member : way ∈ (memberCall.fill (literals called)).ways start) :
    ∃ cover ∈ (memberCall.fill identifier).findAll text, ∃ listed ahead name behind,
      memberCall.Calls cover.start listed ahead name behind ∧ ahead.naming name behind = cover.way ∧
        listed = called := by
  have parts := (identifierPart_of_isIdentifier shape).2
  obtain ⟨ahead, name, behind, calls, _⟩ := Frame.exists_calls_of_mem rfl shape member
  obtain ⟨head, next, nextGap, split, wordly, blankNext, blankGap⟩ := exists_dotted calls.passes.inFront
  obtain ⟨cover, found, listed, front, other, back, covers, same, place⟩ :=
    Frame.exists_cover rfl shape reached member
  obtain ⟨first, space, gap, splitToo, _, blank, blankToo⟩ := exists_dotted covers.passes.inFront
  refine ⟨cover, found, listed, front, other, back, covers, same, ?_⟩
  rcases place with here | ⟨before, after, some, someToo, early, late⟩
  · rw [here, split] at splitToo
    have flush {name : List Char} (shape : isIdentifier name = true) {text : List Char}
        (called : IsCalled name text) : Flush text := by
      obtain ⟨_, _, rfl, _⟩ := called
      exact (solid_of_isIdentifier shape).flush _
    obtain ⟨_, dotted⟩ := append_blanks_inj blankNext blank (.cons (by decide) _) (.cons (by decide) _)
      (List.cons.inj splitToo).2
    obtain ⟨_, there⟩ := append_blanks_inj blankGap blankToo (flush shape calls.isCalled)
      (flush covers.shape covers.isCalled) (List.cons.inj dotted).2
    exact covers.isCalled.unique covers.parts parts (there ▸ calls.isCalled)
  · obtain ⟨spaceEnd, blankEnd, last⟩ := covers.space
    have whole : before ++ after =
        first :: (space ++ '.' :: (gap ++ (listed ++ (spaceEnd ++ ['('])))) := by
      refine (early.trans late).eq_of_rest ?_
      rw [splitToo, covers.reaches.rest_eq, last.rest_eq]
      simp
    exact (not_within_dotted blank blankToo blankEnd blankNext covers.parts some someToo wordly whole
      (late.rest_eq.symm.trans split)).elim

end Shipped

/-! ### Rules -/

theorem TargetRules.isSome_firstCallFrom?_iff {rules : TargetRules} {line : String} :
    (rules.firstCallFrom? line 0).isSome = true ↔
      ∃ rule ∈ rules.calls, (rule.find? line).isSome = true := by
  have leftmostOf : ∀ hits : List Hit, (leftmost hits).isSome = true ↔ hits ≠ [] := by
    intro hits
    cases hits with
    | nil => exact iff_of_false Bool.false_ne_true (not_not_intro rfl)
    | cons hit rest =>
        refine iff_of_true ?_ (List.cons_ne_nil hit rest)
        rw [leftmost]
        split
        · rfl
        · split <;> rfl
  have whole : dropBytes? line.toList 0 = some line.toList := by
    rw [dropBytes?]
  have same : (rules.firstCallFrom? line 0).isSome =
      (leftmost (rules.calls.filterMap (·.find? line))).isSome := by
    rw [firstCallFrom?, whole, Option.bind_eq_bind, Option.bind_some, String.ofList_toList]
    dsimp only
    cases leftmost (rules.calls.filterMap (·.find? line)) <;> rfl
  rw [same, leftmostOf, Ne, List.filterMap_eq_nil_iff]
  push Not
  simp only [Option.ne_none_iff_isSome]

namespace Rule.Fills

variable {rule : Rule} {frame : Frame} {line : String}

theorem isSome_find?_iff {body : Pattern} (plain : body.groups = []) (fills : rule.Fills frame body) :
    (rule.find? line).isSome = true ↔ ∃ leading start way,
      (Cursor.start line.toList).Reaches leading start ∧ way ∈ (frame.fill body).ways start := by
  rw [Rule.find?, Rule.found?_eq, fills.pattern]
  constructor
  · intro hits
    obtain ⟨hit, hits⟩ := Option.isSome_iff_exists.mp hits
    obtain ⟨found, finds, _⟩ := Option.bind_eq_some_iff.mp hits
    have stands := stands_of_find? finds
    obtain ⟨leading, reached⟩ := stands.start
    exact ⟨leading, found.start, found.way, reached, stands.way⟩
  · rintro ⟨leading, start, way, reached, member⟩
    obtain ⟨found, finds⟩ := Option.isSome_iff_exists.mp (isSome_find?_of_mem reached member)
    obtain ⟨ahead, name, behind, passes, same⟩ :=
      Frame.mem_ways_fill_iff.mp (stands_of_find? finds).way
    rw [finds, Option.bind_some]
    have hits := fills.hit?_eq plain passes
    rw [same] at hits
    exact Option.isSome_iff_exists.mpr ⟨_, hits⟩

variable (fills : rule.Fills frame identifier)

include fills

theorem exists_hit_iff (back : frame.back = [blanks, .chars (.single '(')]) {called : List Char} :
    (∃ hit ∈ rule.findAll line, hit.name.toList = called) ↔
      ∃ found ∈ (frame.fill identifier).findAll line.toList, ∃ ahead name behind,
        frame.Calls found.start called ahead name behind ∧ ahead.naming name behind = found.way := by
  rw [Rule.findAll, Rule.allFound_eq, fills.pattern]
  constructor
  · rintro ⟨hit, member, rfl⟩
    obtain ⟨found, finds, hits⟩ := List.mem_filterMap.mp member
    obtain ⟨ahead, name, behind, passes, same⟩ :=
      Frame.mem_ways_fill_iff.mp (stands_of_mem_findAll finds).way
    obtain ⟨called, calls⟩ := passes.calls back
    have expected := fills.hit?_eq rfl passes
    rw [same] at expected
    have spelled : hit.name.toList = called := by
      rw [← Option.some.inj (expected.symm.trans hits)]
      exact String.toList_ofList.trans calls.reaches.textUpTo_eq
    exact ⟨found, finds, ahead, name, behind, spelled ▸ calls, same⟩
  · rintro ⟨found, finds, ahead, name, behind, calls, same⟩
    have hits := fills.hit?_eq rfl calls.passes
    rw [same] at hits
    exact ⟨_, List.mem_filterMap.mpr ⟨found, finds, hits⟩,
      String.toList_ofList.trans calls.reaches.textUpTo_eq⟩

end Rule.Fills

namespace Shipped

/-- Where a listed name ends with a part that begins next to a dollar sign, the part is called by name. -/
theorem exists_plain_of_ends {frame : Frame} (back : frame.back = [blanks, .chars (.single '(')])
    {start : Cursor} {listed part text leading : List Char} {ahead name behind : Way}
    (reached : (Cursor.start text).Reaches leading start)
    (calls : frame.Calls start listed ahead name behind) (ends : EndsAtDollar part listed) :
    ∃ leading start way, (Cursor.start text).Reaches leading start ∧
      way ∈ (plainCall.fill (literals part)).ways start := by
  obtain ⟨before, last, first, rest, rfl, rfl, dollar⟩ := ends
  have differ : isWordPart last ≠ isWordPart first :=
    (isWordPart_ne_iff (calls.parts last (by simp)) (calls.parts first (by simp))).mpr dollar
  have reaches : ahead.stop.Reaches ((before ++ [last]) ++ first :: rest) name.stop := by
    rw [List.append_assoc]
    exact calls.reaches
  obtain ⟨middle, early, late⟩ := reaches.split
  obtain ⟨skipped, ahead, _⟩ := exists_reaches_of_mem_ways calls.passes.inFront
  obtain ⟨way, inBody, stop⟩ := exists_mem_ways_literals late
  have inBack : behind ∈ (sequence plainCall.back).ways way.stop := by
    show behind ∈ (sequence [blanks, .chars (.single '(')]).ways way.stop
    rw [stop, ← back]
    exact calls.passes.inBack
  have inFront : Way.here middle ∈ (sequence plainCall.front).ways middle := by
    refine mem_front_plainCall_iff.mpr ⟨rfl, ?_⟩
    rw [early.before_eq, late.rest_eq]
    exact differ
  have member := Frame.mem_ways_fill_iff.mpr ⟨_, _, _, ⟨inFront, inBody, inBack⟩, rfl⟩
  exact ⟨_, middle, _, (reached.trans ahead).trans early, member⟩

theorem exists_pair {α β : Type} {related : α → β → Prop} {items : List α} {first second : β}
    (all : List.Forall₂ related items [first, second]) :
    ∃ one two, items = [one, two] ∧ related one first ∧ related two second := by
  obtain ⟨one, others, here, later, rfl⟩ := List.forall₂_cons_right_iff.mp all
  obtain ⟨two, none, there, done, rfl⟩ := List.forall₂_cons_right_iff.mp later
  cases done
  exact ⟨one, two, rfl, here, there⟩

/-- What the call rules for one name find against what the call rules for any name list. -/
theorem exists_rule_iff_exists_hit {name : List Char} (shape : isIdentifier name = true) {line : String}
    {targeted free : List Rule}
    (targetedFills : List.Forall₂ (fun rule frame => rule.Fills frame (literals name)) targeted
      [plainCall, memberCall])
    (freeFills : List.Forall₂ (fun rule frame => rule.Fills frame identifier) free
      [plainCall, memberCall]) :
    (∃ rule ∈ targeted, (rule.find? line).isSome = true) ↔
      ∃ hit ∈ free.flatMap (·.findAll line),
        hit.name.toList = name ∨ EndsAtDollar name hit.name.toList := by
  obtain ⟨plain, member, rfl, plainFills, memberFills⟩ := exists_pair targetedFills
  obtain ⟨plainFree, memberFree, rfl, plainFreeFills, memberFreeFills⟩ := exists_pair freeFills
  have noGroups : (literals name).groups = [] := groups_literals name
  simp only [List.mem_cons, List.not_mem_nil, or_false, exists_eq_or_imp, exists_eq_left,
    List.flatMap_cons, List.flatMap_nil, List.append_nil, List.mem_append,
    plainFills.isSome_find?_iff noGroups, memberFills.isSome_find?_iff noGroups]
  constructor
  · rintro (⟨leading, start, way, reached, member⟩ | ⟨leading, start, way, reached, member⟩)
    · obtain ⟨cover, found, listed, _, _, _, calls, same, ends⟩ :=
        exists_listed_plain shape reached member
      obtain ⟨hit, inRule, spelled⟩ :=
        (plainFreeFills.exists_hit_iff rfl).mpr ⟨cover, found, _, _, _, calls, same⟩
      exact ⟨hit, .inl inRule, spelled ▸ ends⟩
    · obtain ⟨cover, found, listed, _, _, _, calls, same, ends⟩ :=
        exists_listed_member shape reached member
      obtain ⟨hit, inRule, spelled⟩ :=
        (memberFreeFills.exists_hit_iff rfl).mpr ⟨cover, found, _, _, _, calls, same⟩
      exact ⟨hit, .inr inRule, .inl (spelled.trans ends)⟩
  · rintro ⟨hit, inRule | inRule, named⟩
    · obtain ⟨found, finds, _, _, _, calls, _⟩ := (plainFreeFills.exists_hit_iff rfl).mp ⟨hit, inRule, rfl⟩
      obtain ⟨leading, reached⟩ := (stands_of_mem_findAll finds).start
      rcases named with rfl | ends
      · exact .inl ⟨leading, found.start, _, reached, calls.mem_ways⟩
      · exact .inl (exists_plain_of_ends rfl reached calls ends)
    · obtain ⟨found, finds, _, _, _, calls, _⟩ := (memberFreeFills.exists_hit_iff rfl).mp ⟨hit, inRule, rfl⟩
      obtain ⟨leading, reached⟩ := (stands_of_mem_findAll finds).start
      rcases named with rfl | ends
      · exact .inr ⟨leading, found.start, _, reached, calls.mem_ways⟩
      · exact .inl (exists_plain_of_ends rfl reached calls ends)

/-- The rules of a language for one name find a call on a line just if the name is among the calls that the
rules for any name list there, or ends one of them and begins next to a dollar sign. -/
def AgreesOnCalls (name line : String) (language : Language) : Prop :=
  ∃ rules, language.rulesFor name = .ok rules ∧
    ((rules.firstCallFrom? line 0).isSome = true ↔
      ∃ hit ∈ language.callHits line, hit.name = name ∨ EndsAtDollar name.toList hit.name.toList)

theorem exists_rulesFor {table : LanguageTable} (member : table ∈ generic :: tables) (name : String) :
    ∃ declarations calls,
      table.language.rulesFor name = .ok ⟨declarations, calls, table.statementWords⟩ ∧
        compileAll table.declarations (some name) = .ok declarations ∧
          compileAll callTemplates (some name) = .ok calls := by
  have slotted := templates_slotted table member
  rw [LanguageTable.templates, List.append_assoc, List.forall_mem_append] at slotted
  obtain ⟨declarations, compiled, _⟩ := compileAll_of_slotted slotted.1 (some name)
  obtain ⟨calls, compiledCalls, _⟩ := compileAll_of_slotted (slotted_of_framed callTemplates_framed) (some name)
  refine ⟨declarations, calls, ?_, compiled, compiledCalls⟩
  rw [← calls_eq table member] at compiledCalls
  show (compileAll table.declarations (some name) >>= fun declarations =>
    compileAll table.calls (some name) >>= fun calls => _) = _
  rw [compiled, compiledCalls]
  rfl

theorem callRules_eq {table : LanguageTable} (member : table ∈ generic :: tables) {rules : List Rule}
    (compiled : compileAll callTemplates none = .ok rules) : table.language.callRules = rules := by
  show rulesOf table.calls = rules
  rw [calls_eq table member, rulesOf_eq compiled]

theorem agreesOnCalls {name : String} (shape : Pattern.isIdentifier name.toList = true) (line : String)
    {table : LanguageTable} (member : table ∈ generic :: tables) : AgreesOnCalls name line table.language := by
  obtain ⟨_, targeted, compiled, _, compiledCalls⟩ := exists_rulesFor member name
  obtain ⟨calls, compiledToo, targetedFills⟩ := compileAll_of_framed callTemplates_framed (some name)
  cases Except.ok.inj (compiledCalls.symm.trans compiledToo)
  obtain ⟨free, compiledFree, freeFills⟩ := compileAll_of_framed callTemplates_framed none
  have listed : table.language.callRules = free := callRules_eq member compiledFree
  refine ⟨_, compiled, ?_⟩
  rw [TargetRules.isSome_firstCallFrom?_iff, exists_rule_iff_exists_hit shape targetedFills freeFills]
  simp only [Language.callHits, List.mem_mergeSort, listed, String.toList_inj]

/-- All shipped languages agree with themselves on calls. -/
theorem firstCallFrom?_isSome_iff (languageName line name : String)
    (shape : Pattern.isIdentifier name.toList = true) :
    ∃ rules, (registry.language languageName).rulesFor name = .ok rules ∧
      ((rules.firstCallFrom? line 0).isSome = true ↔
        ∃ hit ∈ (registry.language languageName).callHits line,
          hit.name = name ∨ EndsAtDollar name.toList hit.name.toList) := by
  have every : registry.Every (AgreesOnCalls name line) :=
    registry_every fun _ member => agreesOnCalls shape line member
  exact every.language languageName

end Shipped

namespace Shout

/-- A line on which an identifier with a dollar sign inside is called. -/
def line : String :=
  "x$foo("

theorem listed :
    ((Shipped.registry.language "javascript").callRules.flatMap (·.findAll line)).map Hit.name =
      ["x$foo"] := by
  decide +kernel

theorem part_found :
    ∃ rules, (Shipped.registry.language "javascript").rulesFor "foo" = .ok rules ∧
      (rules.firstCallFrom? line 0).isSome = true := by
  obtain ⟨rules, compiled, found⟩ :=
    Shipped.firstCallFrom?_isSome_iff "javascript" line "foo" (by decide)
  refine ⟨rules, compiled, found.mpr ?_⟩
  obtain ⟨hit, member, name⟩ := List.exists_of_mem_map (listed ▸ List.mem_singleton_self "x$foo")
  refine ⟨hit, List.mem_mergeSort.mpr member, .inr ⟨['x'], '$', 'f', ['o', 'o'], ?_, by decide, by decide⟩⟩
  rw [name]
  decide

theorem finds : (compileAll Shipped.callTemplates (some "foo")).toOption.map (fun calls =>
    calls.any fun rule => (rule.find? line).isSome) = some true := by
  decide +kernel

/-- The rules for one name can find a name that the rules for any name do not list. -/
theorem found_unlisted : Pattern.isIdentifier "foo".toList = true ∧
    ∃ rules, (Shipped.registry.language "javascript").rulesFor "foo" = .ok rules ∧
      (rules.firstCallFrom? line 0).isSome = true ∧
      ∀ hit ∈ (Shipped.registry.language "javascript").callHits line, hit.name ≠ "foo" := by
  have shipped : Shipped.javascript ∈ Shipped.generic :: Shipped.tables :=
    List.mem_cons_of_mem _ List.mem_cons_self
  obtain ⟨_, _, compiled, _, compiledCalls⟩ := Shipped.exists_rulesFor shipped "foo"
  refine ⟨by decide, _, compiled, ?_, fun hit member => ?_⟩
  · have found := finds
    rw [compiledCalls] at found
    exact TargetRules.isSome_firstCallFrom?_iff.mpr (List.any_eq_true.mp (Option.some.inj found))
  · have name := List.mem_map_of_mem (f := Hit.name) (List.mem_mergeSort.mp member)
    rw [listed, List.mem_singleton] at name
    rw [name]
    decide

end Shout

end Callsite

import Callsite.Proofs.Language.Scopes
import Callsite.Proofs.Pattern.Cover
import Callsite.Proofs.Pattern.Reading

set_option autoImplicit false

/-! Rules for any name and rules for one name. A rule for any name that captures a name prefers a way that the
rule for this name prefers too. So what the rules for any name find, one after the other, the rules for the name
found find again, unless an earlier one comes in between: one that had captured another name. -/

namespace Callsite

open Pattern Text

namespace Frame

/-- The rule looks at the beginning of a line only. -/
def Anchored (frame : Frame) : Prop :=
  frame.front.head? = some (.look .textStart)

instance (frame : Frame) : Decidable frame.Anchored :=
  inferInstanceAs (Decidable (_ = _))

/-- The rule takes the text apart into its front, a name, and its back, which `after` begins with. -/
structure Reads (frame : Frame) (text name after : List Char) : Prop where
  isIdentifier : Pattern.isIdentifier name = true
  front : (sequence frame.front).Takes text (name ++ after)
  back : ∃ rest, (sequence frame.back).Takes after rest

/-- A name that both rules read is the longest of the names that the earlier rule reads, and stands where all of
them stand. -/
def Yields (earlier later : Frame) : Prop :=
  ∀ ⦃text other name after tail behind : List Char⦄, earlier.Reads text other tail →
    earlier.Reads text name after → later.Reads text name behind →
      other ++ tail = name ++ after ∧ other.length ≤ name.length

section

variable {frame : Frame} {body : Pattern}

theorem Passes.rest_eq {start ahead name behind} (passes : frame.Passes body start ahead name behind) :
    ahead.stop.rest = ahead.stop.textUpTo name.stop ++ name.stop.rest := by
  obtain ⟨consumed, onward, _⟩ := exists_reaches_of_mem_ways passes.inBody
  rw [onward.textUpTo_eq]
  exact onward.rest_eq

theorem Passes.reads {start ahead name behind} (passes : frame.Passes identifier start ahead name behind) :
    frame.Reads start.rest (ahead.stop.textUpTo name.stop) name.stop.rest := by
  obtain ⟨consumed, onward, shape⟩ := isIdentifier_of_mem_ways passes.inBody
  refine ⟨onward.textUpTo_eq ▸ shape, ?_, behind.stop.rest, takes_of_mem passes.inBack⟩
  rw [← passes.rest_eq]
  exact takes_of_mem passes.inFront

/-! ### The beginning of a line -/

theorem Anchored.ways_eq_nil (anchored : frame.Anchored) {cursor : Cursor} (inside : cursor.before ≠ none) :
    (frame.fill body).ways cursor = [] := by
  obtain ⟨pieces, front⟩ := List.head?_eq_some_iff.mp anchored
  have closed : (look .textStart).ways cursor = [] := by
    rw [ways, Look.holds, decide_eq_false inside]
    rfl
  rw [ways_fill, front, ways_sequence_cons, closed]
  rfl

private theorem before_of_mem_positions {rest : List Char} {cursor : Cursor} :
    ∀ {c : Char} {offset : Nat}, cursor ∈ positions rest (some c) offset → cursor.before ≠ none := by
  induction rest with
  | nil =>
      intro c offset member
      rw [List.mem_singleton.mp member]
      exact Option.some_ne_none c
  | cons d rest ih =>
      intro c offset member
      rcases List.mem_cons.mp member with rfl | later
      · exact Option.some_ne_none c
      · exact ih later

theorem Anchored.find?_eq (anchored : frame.Anchored) (text : List Char) :
    (frame.fill body).find? text =
      ((frame.fill body).match? (.start text)).map (Found.mk (.start text)) := by
  rw [Pattern.find?_eq]
  cases text with
  | nil =>
      rw [positions, List.findSome?_singleton]
      rfl
  | cons c rest =>
      have here : (⟨none, c :: rest, 0⟩ : Cursor) = .start (c :: rest) := rfl
      rw [positions, here, List.findSome?_cons]
      have later : (positions rest (some c) (0 + c.utf8Size)).findSome? (fun start =>
          ((frame.fill body).match? start).map (Found.mk start)) = none := by
        rw [List.findSome?_eq_none_iff]
        intro cursor member
        rw [match?, anchored.ways_eq_nil (before_of_mem_positions member)]
        rfl
      rw [later]
      cases (frame.fill body).match? (.start (c :: rest)) with
      | none => rfl
      | some way => rfl

end

/-! ### One name among all -/

variable {frame : Frame} {cursor : Cursor} {ahead called behind : Way} {name : List Char}

theorem passes_literals_iff (shape : isIdentifier name = true) :
    frame.Passes (literals name) cursor ahead called behind ↔
      frame.Passes identifier cursor ahead called behind ∧ ahead.stop.textUpTo called.stop = name := by
  constructor
  · rintro ⟨inFront, inBody, inBack⟩
    rw [ways_literals shape, List.mem_filter, decide_eq_true_eq] at inBody
    exact ⟨⟨inFront, inBody.1, inBack⟩, inBody.2⟩
  · rintro ⟨⟨inFront, inBody, inBack⟩, same⟩
    refine ⟨inFront, ?_, inBack⟩
    rw [ways_literals shape, List.mem_filter, decide_eq_true_eq]
    exact ⟨inBody, same⟩

theorem match?_literals (shape : isIdentifier name = true) {way : Way}
    (matched : (frame.fill identifier).match? cursor = some way) (names : way.names name = true) :
    (frame.fill (literals name)).match? cursor = some way := by
  rw [match?] at matched ⊢
  obtain ⟨others, ways⟩ := List.head?_eq_some_iff.mp matched
  rw [ways_fill_literals shape, ways, List.filter_cons_of_pos names]
  rfl

/-- Where the earlier rule could capture a name of the later one, it captures it. -/
theorem Yields.exists_passes {earlier later : Frame} (yields : earlier.Yields later)
    (passes : earlier.Passes identifier cursor ahead called behind)
    (same : ahead.stop.textUpTo called.stop = name) {after : List Char}
    (reads : later.Reads cursor.rest name after) :
    ∃ front found back, (earlier.fill identifier).match? cursor = some (front.naming found back) ∧
      earlier.Passes identifier cursor front found back ∧ front.stop = ahead.stop ∧
        front.stop.textUpTo found.stop = name := by
  have member : ahead.naming called behind ∈ (earlier.fill identifier).ways cursor :=
    mem_ways_fill_iff.mpr ⟨ahead, called, behind, passes, rfl⟩
  obtain ⟨way, matched⟩ := Option.isSome_iff_exists.mp (List.isSome_head?.mpr (List.ne_nil_of_mem member))
  obtain ⟨front, found, back, passesFirst, rfl, longest⟩ := exists_passes_of_match? matched
  have own : earlier.Reads cursor.rest name called.stop.rest := same ▸ passes.reads
  obtain ⟨whole, shorter⟩ := yields passesFirst.reads own reads
  obtain ⟨taken, reaches, _⟩ := exists_reaches_of_mem_ways passesFirst.inFront
  obtain ⟨takenToo, reachesToo, _⟩ := exists_reaches_of_mem_ways passes.inFront
  have here : front.stop = ahead.stop := by
    have rests : front.stop.rest = ahead.stop.rest := by
      rw [passesFirst.rest_eq, whole, passes.rest_eq, same]
    have takes : taken = takenToo := reaches.eq_of_rest (rests ▸ reachesToo.rest_eq)
    exact reaches.unique (takes ▸ reachesToo)
  have late := longest ahead called behind passes here.symm
  have lengths := congrArg List.length whole
  rw [List.length_append, List.length_append] at lengths
  have names : front.stop.textUpTo found.stop = name :=
    (List.append_inj whole (by omega)).1
  exact ⟨front, found, back, matched, passesFirst, here, names⟩

end Frame

namespace Rule

variable {frame : Frame} {free target : Rule} {name : String}

theorem Fills.exists_passes_of_find? {rule : Rule} {body : Pattern} (fills : rule.Fills frame body)
    (anchored : frame.Anchored) (plain : body.groups = []) {line : String} {hit : Hit}
    (hits : rule.find? line = some hit) :
    ∃ ahead name behind, (frame.fill body).match? (.start line.toList) = some (ahead.naming name behind) ∧
      frame.Passes body (.start line.toList) ahead name behind ∧
        hit = ⟨String.ofList (ahead.stop.textUpTo name.stop), ahead.stop.offset, behind.stop.offset,
          rule.kind⟩ := by
  rw [find?, found?_eq, fills.pattern, anchored.find?_eq, Option.bind_eq_some_iff] at hits
  obtain ⟨found, matched, hits⟩ := hits
  obtain ⟨way, first, rfl⟩ := Option.map_eq_some_iff.mp matched
  obtain ⟨ahead, called, behind, passes, rfl⟩ := Frame.mem_ways_fill_iff.mp (List.mem_of_head? first)
  rw [fills.hit?_eq plain passes] at hits
  exact ⟨ahead, called, behind, first, passes, (Option.some.inj hits).symm⟩

theorem Fills.find?_eq {rule : Rule} {body : Pattern} (fills : rule.Fills frame body)
    (anchored : frame.Anchored) (plain : body.groups = []) {line : String} {ahead called behind : Way}
    (matched : (frame.fill body).match? (.start line.toList) = some (ahead.naming called behind))
    (passes : frame.Passes body (.start line.toList) ahead called behind) :
    rule.find? line = some
      ⟨String.ofList (ahead.stop.textUpTo called.stop), ahead.stop.offset, behind.stop.offset, rule.kind⟩ := by
  rw [find?, found?_eq, fills.pattern, anchored.find?_eq, matched]
  exact fills.hit?_eq plain passes

theorem Fills.find?_of_find? (fillsFree : free.Fills frame identifier)
    (fillsTarget : target.Fills frame (literals name.toList)) (kinds : free.kind = target.kind)
    (anchored : frame.Anchored) {line : String} {hit : Hit} (named : hit.name = name)
    (hits : free.find? line = some hit) : target.find? line = some hit := by
  obtain ⟨ahead, called, behind, matched, passes, rfl⟩ := fillsFree.exists_passes_of_find? anchored rfl hits
  have same : ahead.stop.textUpTo called.stop = name.toList := by
    rw [← named, String.toList_ofList]
  have shape : isIdentifier name.toList = true := same ▸ passes.reads.isIdentifier
  have names : (ahead.naming called behind).names name.toList = true := by
    rw [passes.names_eq rfl, decide_eq_true same]
  rw [kinds]
  exact fillsTarget.find?_eq anchored (groups_literals _) (Frame.match?_literals shape matched names)
    ((Frame.passes_literals_iff shape).mpr ⟨passes, same⟩)

theorem Fills.hit_eq (fillsTarget : target.Fills frame (literals name.toList)) (anchored : frame.Anchored)
    {line : String} {hit : Hit} (hits : target.find? line = some hit) :
    hit.name = name ∧ hit.kind = target.kind := by
  obtain ⟨ahead, called, behind, _, passes, rfl⟩ :=
    fillsTarget.exists_passes_of_find? anchored (groups_literals _) hits
  refine ⟨?_, rfl⟩
  have spelled : ahead.stop.textUpTo called.stop = name.toList :=
    (reaches_of_mem_literals passes.inBody).textUpTo_eq
  rw [spelled, String.ofList_toList]

/-- Where an earlier rule for one name finds that name, and a later rule for any name does, the earlier rule for
any name finds it in the same place. -/
theorem Fills.exists_hit_of_yields {later : Frame} (fillsFree : free.Fills frame identifier)
    (fillsTarget : target.Fills frame (literals name.toList)) (anchored : frame.Anchored)
    (yields : frame.Yields later) {line : String} {after : List Char}
    (reads : later.Reads line.toList name.toList after) {hit : Hit} (hits : target.find? line = some hit) :
    ∃ found, free.find? line = some found ∧ found.name = name ∧ found.start = hit.start := by
  obtain ⟨ahead, called, behind, _, passes, rfl⟩ :=
    fillsTarget.exists_passes_of_find? anchored (groups_literals _) hits
  obtain ⟨passes, same⟩ := (Frame.passes_literals_iff reads.isIdentifier).mp passes
  obtain ⟨front, found, back, matched, passesFirst, here, names⟩ := yields.exists_passes passes same reads
  refine ⟨_, fillsFree.find?_eq anchored rfl matched passesFirst, ?_, ?_⟩
  · rw [names, String.ofList_toList]
  · rw [here]

end Rule

/-! ### Rules in order -/

/-- Rules for any name beside the rules for one name that were made from the same templates, with their
frames and kinds. -/
inductive Paired (name : String) : List (RuleKind × Frame) → List Rule → List Rule → Prop where
  | nil : Paired name [] [] []
  | cons {kind : RuleKind} {frame : Frame} {free target : Rule} {frames : List (RuleKind × Frame)}
      {frees targets : List Rule} : free.Fills frame identifier → target.Fills frame (literals name.toList) →
      free.kind = kind → target.kind = kind → frame.Anchored → Paired name frames frees targets →
      Paired name ((kind, frame) :: frames) (free :: frees) (target :: targets)

/-- A rule gives way to the later rules of another kind. -/
def Ranked (frames : List (RuleKind × Frame)) : Prop :=
  frames.Pairwise fun earlier later => earlier.1 = later.1 ∨ earlier.2.Yields later.2

namespace Language

variable {language : Language} {rule : Rule} {rules : List Rule} {line : String} {hit : Hit}

/-- A rule opens a line by its hit, or leaves the line to the rules behind it. -/
theorem openerHit?_cons (opened : language.openerHit? (rule :: rules) line = some hit) :
    rule.find? line = some hit ∧ language.isKeyword hit.name = false ∧
        language.isStatementLed line hit.start = false ∨
      language.openerHit? rules line = some hit ∧ ∀ other, rule.find? line = some other →
        language.isKeyword other.name = true ∨ language.isStatementLed line other.start = true := by
  rw [openerHit?, List.findSome?_cons] at opened
  split at opened
  · rename_i found kept
    cases Option.some.inj opened
    obtain ⟨finds, accepted⟩ := Option.filter_eq_some_iff.mp kept
    rw [Bool.and_eq_true, Bool.not_eq_true', Bool.not_eq_true'] at accepted
    exact .inl ⟨finds, accepted⟩
  · rename_i left
    refine .inr ⟨opened, fun other finds => ?_⟩
    have rejected := Option.filter_eq_none_iff.mp left other finds
    rw [Bool.and_eq_true, Bool.not_eq_true', Bool.not_eq_true', not_and_or] at rejected
    simpa using rejected

end Language

namespace Paired

variable {name : String} {frames : List (RuleKind × Frame)} {frees targets : List Rule} {language : Language}
  {line : String} {hit : Hit}

theorem exists_reads (paired : Paired name frames frees targets)
    (opened : language.openerHit? frees line = some hit) (named : hit.name = name) :
    ∃ frame ∈ frames, frame.1 = hit.kind ∧ ∃ after, frame.2.Reads line.toList name.toList after := by
  induction paired with
  | nil => contradiction
  | @cons kind frame free target frames frees targets fillsFree _ kindFree _ anchored _ ih =>
      rcases language.openerHit?_cons opened with ⟨finds, _⟩ | ⟨later, _⟩
      · obtain ⟨ahead, called, behind, _, passes, rfl⟩ := fillsFree.exists_passes_of_find? anchored rfl finds
        have same : ahead.stop.textUpTo called.stop = name.toList := by
          rw [← named, String.toList_ofList]
        exact ⟨(kind, frame), List.mem_cons_self, kindFree.symm, called.stop.rest, same ▸ passes.reads⟩
      · obtain ⟨other, member, reads⟩ := ih later
        exact ⟨other, List.mem_cons_of_mem _ member, reads⟩

/-- The rules for one name declare what the rules for any name open under that name. The induction goes through
the rules in order: a rule that let the line pass, although it reads the name, is of the same kind, or would have
opened the line itself. -/
theorem exists_declaration (paired : Paired name frames frees targets) (ranked : Ranked frames)
    (opened : language.openerHit? frees line = some hit) (named : hit.name = name) :
    ∃ found, firstDeclaration targets line language.table.statementWords = some found ∧ found.name = name ∧
      found.kind = hit.kind := by
  induction paired with
  | nil => contradiction
  | @cons kind frame free target frames frees targets fillsFree fillsTarget kindFree kindTarget anchored rest
      ih =>
      obtain ⟨yields, rankedRest⟩ := List.pairwise_cons.mp ranked
      rw [firstDeclaration, List.findSome?_cons]
      rcases language.openerHit?_cons opened with ⟨finds, _, free⟩ | ⟨later, rejected⟩
      · have findsToo :=
          fillsFree.find?_of_find? fillsTarget (kindFree.trans kindTarget.symm) anchored named finds
        have kept : (!precededByWord line hit.start language.table.statementWords) = true := by
          rw [Bool.not_eq_true']
          exact free
        rw [findsToo, Option.filter_some, if_pos kept]
        exact ⟨hit, rfl, named, rfl⟩
      · split
        · rename_i found kept
          obtain ⟨findsToo, free⟩ := Option.filter_eq_some_iff.mp kept
          rw [Bool.not_eq_true'] at free
          obtain ⟨other, member, kinds, after, reads⟩ := rest.exists_reads later named
          rcases yields other member with same | before
          · have called := fillsTarget.hit_eq anchored findsToo
            exact ⟨found, rfl, called.1, (called.2.trans kindTarget).trans (same.trans kinds)⟩
          · obtain ⟨first, findsFirst, calledFirst, starts⟩ :=
              fillsFree.exists_hit_of_yields fillsTarget anchored before reads findsToo
            exfalso
            rcases rejected first findsFirst with keyword | led
            · obtain ⟨_, _, _, plain, _⟩ := Language.exists_rule_of_openerHit? later
              rw [calledFirst, ← named, plain] at keyword
              contradiction
            · rw [starts] at led
              exact absurd led (ne_true_of_eq_false free)
        · exact ih rankedRest later

end Paired

end Callsite

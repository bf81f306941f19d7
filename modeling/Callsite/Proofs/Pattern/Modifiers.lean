import Callsite.Proofs.Pattern.Reading

set_option autoImplicit false

/-! Declarations led by modifiers. Several rules take any of some words, each with white space behind it, off
the beginning of a line, and one of these rules asks for a key word behind them. Another such rule, which does
not know the key word, stops in front of the key word or in front of a modifier. What it has to take for a
name then is a whole word, or a part of one, and what comes behind that is not what comes behind a name. -/

namespace Callsite

open Text

namespace Pattern

/-! ### Pieces of rules -/

def gap : Pattern :=
  repeated true (chars (.named .blank))

def spelled (word : String) : List Pattern :=
  word.toList.map fun c => chars (.single c)

def anyOf (words : List String) : Pattern :=
  choice (words.map fun word => literals word.toList)

def optionalWord (word : String) : Pattern :=
  optional true (sequence (spelled word ++ [gap]))

def modifiers (words : List String) : Pattern :=
  anyNumber true (seq (anyOf words) gap)

/-- Some of the words, any number of times, at the beginning of a line. -/
def modifiedLine (words : List String) (pieces : List Pattern) : List Pattern :=
  .look .textStart :: blanks :: modifiers words :: pieces

/-- Some of the words, any number of times, and then the word `abstract`, at the beginning of a line. -/
def abstractLine (words : List String) (pieces : List Pattern) : List Pattern :=
  modifiedLine words (spelled "abstract" ++ gap :: pieces)

def Modified (words : List String) (text behind : List Char) : Prop :=
  ∃ space lead, text = space ++ lead ∧ Blanks space ∧ Led words behind lead

def Abstracts (words : List String) (text behind : List Char) : Prop :=
  ∃ gap, Gap gap ∧ Modified words text ("abstract".toList ++ (gap ++ behind))

/-- A line that some of the words and then a type, or what is taken for one, lead, up to `behind`. -/
def Typed (words : List String) (text behind : List Char) : Prop :=
  ∃ type gap, Solid type ∧ Gap gap ∧ Modified words text (type ++ (gap ++ behind))

namespace Takes

variable {words : List String} {pieces : List Pattern} {text rest : List Char}

theorem gap (takes : gap.Takes text rest) : Spaced text rest := by
  obtain ⟨space, filled, split, blank⟩ := takes.repeated_chars
  exact ⟨space, split, filled, blank⟩

theorem spelled {word : String} (takes : (sequence (spelled word ++ pieces)).Takes text rest) :
    ∃ middle, text = word.toList ++ middle ∧ (sequence pieces).Takes middle rest := by
  obtain ⟨middle, first, second⟩ := takes.sequence_append
  exact ⟨middle, Takes.literals first, second⟩

theorem anyOf (some : words ≠ []) (takes : (anyOf words).Takes text rest) :
    ∃ word ∈ words, text = word.toList ++ rest := by
  induction words with
  | nil => contradiction
  | cons word others ih =>
      cases others with
      | nil => exact ⟨word, List.mem_singleton_self word, Takes.literals takes⟩
      | cons other others =>
          rcases Takes.alt takes with first | later
          · exact ⟨word, List.mem_cons_self, first.literals⟩
          · obtain ⟨found, member, split⟩ := ih (List.cons_ne_nil _ _) later
            exact ⟨found, List.mem_cons_of_mem word member, split⟩

theorem modifiers (some : words ≠ []) (takes : (modifiers words).Takes text rest) :
    Led words rest text := by
  have rounds := takes.anyNumber
  clear takes
  induction rounds using Relation.ReflTransGen.head_induction_on with
  | refl => exact .here
  | head first _ ih =>
      obtain ⟨middle, word, space⟩ := first.seq
      obtain ⟨word, member, rfl⟩ := word.anyOf some
      obtain ⟨space, rfl, spaced⟩ := space.gap
      exact .word member spaced ih

theorem optionalWord {word : String} (takes : (sequence (optionalWord word :: pieces)).Takes text rest) :
    word.toList <+: text ∨ (sequence pieces).Takes text rest := by
  obtain ⟨_, first, later⟩ := takes.sequence_cons
  rcases first.optional with inner | rfl
  · obtain ⟨more, rfl, _⟩ := inner.spelled
    exact .inl (List.prefix_append _ more)
  · exact .inr later

theorem lineStart (takes : (sequence (.look .textStart :: Pattern.blanks :: pieces)).Takes text rest) :
    ∃ space lead, text = space ++ lead ∧ Blanks space ∧ (sequence pieces).Takes lead rest := by
  obtain ⟨_, start, takes⟩ := takes.sequence_cons
  obtain ⟨lead, space, takes⟩ := takes.sequence_cons
  obtain ⟨space, split, blank⟩ := space.blanks
  exact ⟨space, lead, start.look.trans split, blank, takes⟩

theorem modifiedLine (some : words ≠ []) (takes : (sequence (modifiedLine words pieces)).Takes text rest) :
    ∃ behind, Modified words text behind ∧ (sequence pieces).Takes behind rest := by
  obtain ⟨space, lead, split, blank, takes⟩ := takes.lineStart
  obtain ⟨behind, led, takes⟩ := takes.sequence_cons
  exact ⟨behind, ⟨space, lead, split, blank, led.modifiers some⟩, takes⟩

theorem abstractLine (some : words ≠ []) (takes : (sequence (abstractLine words pieces)).Takes text rest) :
    ∃ behind, Abstracts words text behind ∧ (sequence pieces).Takes behind rest := by
  obtain ⟨_, modified, takes⟩ := takes.modifiedLine some
  obtain ⟨_, rfl, later⟩ := takes.spelled
  obtain ⟨behind, between, onward⟩ := later.sequence_cons
  obtain ⟨gap, rfl, spaced⟩ := between.gap
  exact ⟨behind, ⟨gap, spaced, modified⟩, onward⟩

end Takes

end Pattern

open Pattern

/-! ### What stands behind a name -/

/-- White space, or none, and then one of `stops`. -/
def Stopped (stops text : List Char) : Prop :=
  ∃ space c rest, text = space ++ c :: rest ∧ Blanks space ∧ c ∈ stops

/-- The text begins with a character that is neither white space nor one of `stops`. -/
def Opens (stops text : List Char) : Prop :=
  ∃ c rest, text = c :: rest ∧ isBlank c = false ∧ c ∉ stops

/-- The text does not begin with an identifier that is stopped. -/
def Unnamed (stops text : List Char) : Prop :=
  ∀ name after, isIdentifier name = true → Stopped stops after → text ≠ name ++ after

/-- Characters that end a name. -/
def Apart (stops : List Char) : Prop :=
  ∀ c ∈ stops, identifierPart.has c = false ∧ isBlank c = false

instance (stops : List Char) : Decidable (Apart stops) :=
  inferInstanceAs (Decidable (∀ c ∈ stops, _))

section

variable {stops name gap text rest : List Char}

theorem Apart.notMem (apart : Apart stops) (shape : isIdentifier name = true) :
    ∀ c ∈ name, c ∉ stops := by
  intro c inName inStops
  have part := (identifierPart_of_isIdentifier shape).2 c inName
  rw [(apart c inStops).1] at part
  contradiction

theorem Opens.flush (opens : Opens stops text) : Flush text := by
  obtain ⟨c, rest, rfl, plain, _⟩ := opens
  exact .cons plain rest

theorem Opens.notMem {c : Char} (opens : Opens stops (c :: rest)) : c ∉ stops := by
  obtain ⟨d, more, same, _, other⟩ := opens
  rw [(List.cons.inj same).1]
  exact other

theorem opens_of_solid {word : List Char} (solid : Solid word) (within : ∀ c ∈ word, c ∉ stops)
    (rest : List Char) : Opens stops (word ++ rest) := by
  obtain ⟨c, more, rfl⟩ := List.exists_cons_of_ne_nil solid.filled
  exact ⟨c, more ++ rest, rfl, solid.plain c List.mem_cons_self, within c List.mem_cons_self⟩

theorem Apart.opens (apart : Apart stops) (shape : isIdentifier name = true) (rest : List Char) :
    Opens stops (name ++ rest) :=
  opens_of_solid (solid_of_isIdentifier shape) (apart.notMem shape) rest

theorem Apart.notPart_head (apart : Apart stops) (stopped : Stopped stops text) :
    ∀ d ∈ text.head?, identifierPart.has d = false := by
  obtain ⟨space, c, rest, rfl, blank, member⟩ := stopped
  exact Pattern.notPart_head blank (apart c member).1 rest

theorem Stopped.mono {more : List Char} (subset : stops ⊆ more) (stopped : Stopped stops text) :
    Stopped more text := by
  obtain ⟨space, c, rest, split, blank, member⟩ := stopped
  exact ⟨space, c, rest, split, blank, subset member⟩

theorem Apart.length_le {other tail after : List Char} (apart : Apart stops)
    (shape : isIdentifier name = true) (shapeToo : isIdentifier other = true) (stopped : Stopped stops after)
    (same : other ++ tail = name ++ after) : other.length ≤ name.length := by
  rcases List.append_eq_append_iff.mp same with ⟨more, rfl, _⟩ | ⟨more, rfl, rfl⟩
  · rw [List.length_append]
    exact Nat.le_add_right _ _
  · cases more with
    | nil => rw [List.append_nil]
    | cons c more =>
        have part := (identifierPart_of_isIdentifier shapeToo).2 c (List.mem_append_right _ List.mem_cons_self)
        rw [apart.notPart_head stopped c rfl] at part
        contradiction

theorem unnamed_of_word (apart : Apart stops) {word : List Char} (solid : Solid word)
    (within : ∀ c ∈ word, c ∉ stops) (spaced : Gap gap) (opens : Opens stops rest) :
    Unnamed stops (word ++ (gap ++ rest)) := by
  rintro name _ shape ⟨space, c, tail, rfl, blank, member⟩ same
  have inWord (d : Char) (inside : d ∈ word) : (!isBlank d && decide (d ∉ stops)) = true := by
    rw [solid.plain d inside, decide_eq_true (within d inside)]
    rfl
  have inName (d : Char) (inside : d ∈ name) : (!isBlank d && decide (d ∉ stops)) = true := by
    rw [(solid_of_isIdentifier shape).plain d inside, decide_eq_true (apart.notMem shape d inside)]
    rfl
  have behindWord (d : Char) (first : d ∈ (gap ++ rest).head?) :
      (!isBlank d && decide (d ∉ stops)) = false := by
    rw [spaced.isBlank_head rest d first]
    rfl
  have behindName (d : Char) (first : d ∈ (space ++ c :: tail).head?) :
      (!isBlank d && decide (d ∉ stops)) = false := by
    cases space with
    | nil =>
        rw [← Option.some.inj first, decide_eq_false (not_not_intro member), Bool.and_false]
    | cons b space =>
        rw [← Option.some.inj first, blank b List.mem_cons_self]
        rfl
  obtain ⟨_, spaces⟩ := append_run_inj inWord inName behindWord behindName same
  obtain ⟨_, ends⟩ := append_blanks_inj spaced.blanks blank opens.flush (.cons (apart c member).2 tail) spaces
  obtain ⟨d, more, rfl, _, other⟩ := opens
  exact other ((List.cons.inj ends).1 ▸ member)

theorem Apart.unnamed (apart : Apart stops) (shape : isIdentifier name = true) (spaced : Gap gap)
    (opens : Opens stops rest) : Unnamed stops (name ++ (gap ++ rest)) :=
  unnamed_of_word apart (solid_of_isIdentifier shape) (apart.notMem shape) spaced opens

theorem unnamed_cons {c : Char} (other : identifierPart.has c = false) (rest : List Char) :
    Unnamed stops (c :: rest) := by
  intro name after shape _ same
  obtain ⟨filled, parts⟩ := identifierPart_of_isIdentifier shape
  obtain ⟨d, more, rfl⟩ := List.exists_cons_of_ne_nil filled
  have part := parts d List.mem_cons_self
  rw [← (List.cons.inj same).1, other] at part
  contradiction

end

/-! ### Lines led by words -/

def Identifiers (words : List String) : Prop :=
  ∀ word ∈ words, isIdentifier word.toList = true

instance (words : List String) : Decidable (Identifiers words) :=
  inferInstanceAs (Decidable (∀ word ∈ words, _))

theorem Identifiers.solid {words : List String} (shapes : Identifiers words) :
    ∀ word ∈ words, Solid word.toList :=
  fun word member => solid_of_isIdentifier (shapes word member)

/-- The words of a rule that asks for `abstract`, and those of another rule, which does not know it. -/
structure Rivals (words others : List String) : Prop where
  own : Identifiers ("abstract" :: words)
  rival : Identifiers others
  new : "abstract" ∉ others

instance (words others : List String) : Decidable (Rivals words others) :=
  decidable_of_iff (Identifiers ("abstract" :: words) ∧ Identifiers others ∧ "abstract" ∉ others)
    ⟨fun ⟨own, rival, new⟩ => ⟨own, rival, new⟩, fun ⟨own, rival, new⟩ => ⟨own, rival, new⟩⟩

section

variable {words others : List String} {stops text behind tail rest : List Char}

theorem Text.Led.opens (apart : Apart stops) (shapes : Identifiers words) (opens : Opens stops rest)
    (led : Led words rest text) : Opens stops text := by
  rcases led.eq_or_exists with rfl | ⟨word, member, gap, later, rfl, _⟩
  · exact opens
  · exact apart.opens (shapes word member) _

theorem Text.Led.unnamed (apart : Apart stops) (shapes : Identifiers words) (opens : Opens stops rest)
    (unnamed : Unnamed stops rest) (led : Led words rest text) : Unnamed stops text := by
  rcases led.eq_or_exists with rfl | ⟨word, member, gap, later, rfl, spaced, ledLater⟩
  · exact unnamed
  · exact apart.unnamed (shapes word member) spaced (ledLater.opens apart shapes opens)

/-- Behind the words it knows, another rule meets a word: `abstract`, or one in front of it. -/
theorem Pattern.Abstracts.exists_word (rivals : Rivals words others) (flush : Flush tail)
    (abstracts : Abstracts words text behind) (modified : Modified others text tail) :
    ∃ word ∈ "abstract" :: words, ∃ space left, tail = word.toList ++ (space ++ left) ∧ Gap space ∧
      (left = behind ∨ ∃ gap, Gap gap ∧ Led words ("abstract".toList ++ (gap ++ behind)) left) := by
  obtain ⟨gap, spaced, space, lead, split, blank, led⟩ := abstracts
  obtain ⟨spaceToo, leadToo, splitToo, blankToo, ledToo⟩ := modified
  obtain ⟨key, solid⟩ := List.forall_mem_cons.mp rivals.own.solid
  have flushLead : Flush lead := led.flush solid (key.flush _)
  obtain ⟨_, rfl⟩ := append_blanks_inj blank blankToo flushLead (ledToo.flush rivals.rival.solid flush)
    (split.symm.trans splitToo)
  obtain ⟨word, spaceWord, left, rfl, spacedWord, place⟩ :=
    led.exists_word rivals.own.solid rivals.rival.solid rivals.new spaced flush ledToo
  rcases place with ⟨rfl, rfl⟩ | ⟨member, ledLeft⟩
  · exact ⟨_, List.mem_cons_self, spaceWord, left, rfl, spacedWord, .inl rfl⟩
  · exact ⟨word, List.mem_cons_of_mem _ member, spaceWord, left, rfl, spacedWord, .inr ⟨gap, spaced, ledLeft⟩⟩

theorem Pattern.Abstracts.opens (apart : Apart stops) (rivals : Rivals words others) (flush : Flush tail)
    (abstracts : Abstracts words text behind) (modified : Modified others text tail) : Opens stops tail := by
  obtain ⟨word, member, space, left, rfl, _⟩ := abstracts.exists_word rivals flush modified
  exact apart.opens (rivals.own word member) _

theorem Pattern.Abstracts.unnamed (apart : Apart stops) (rivals : Rivals words others) (flush : Flush tail)
    (opens : Opens stops behind) (abstracts : Abstracts words text behind)
    (modified : Modified others text tail) : Unnamed stops tail := by
  obtain ⟨key, shapes⟩ := List.forall_mem_cons.mp rivals.own
  obtain ⟨word, member, space, left, rfl, spaced, place⟩ := abstracts.exists_word rivals flush modified
  refine apart.unnamed (rivals.own word member) spaced ?_
  rcases place with rfl | ⟨gap, _, led⟩
  · exact opens
  · exact led.opens apart shapes (apart.opens key _)

/-- A rule that takes what it meets for a type finds a name behind it only if that stands behind
`abstract`, or in front of it. -/
theorem Pattern.Abstracts.eq_or_exists {name after : List Char} (apart : Apart stops)
    (rivals : Rivals words others) (shape : isIdentifier name = true) (stopped : Stopped stops after)
    (flush : Flush behind) (abstracts : Abstracts words text behind) (typed : Typed others text (name ++ after)) :
    behind = name ++ after ∨ ∃ word ∈ "abstract" :: words, ∃ gap, Gap gap ∧
      name ++ after = word.toList ++ (gap ++ behind) := by
  obtain ⟨key, shapes⟩ := List.forall_mem_cons.mp rivals.own
  obtain ⟨type, gap, solid, spaced, modified⟩ := typed
  obtain ⟨word, member, space, left, same, spacedWord, place⟩ :=
    abstracts.exists_word rivals (solid.flush _) modified
  have flushLeft : Flush left := by
    rcases place with rfl | ⟨_, _, led⟩
    · exact flush
    · exact led.flush (List.forall_mem_cons.mp rivals.own.solid).2 ((solid_of_isIdentifier key).flush _)
  obtain ⟨_, rfl⟩ := append_word_inj solid (rivals.own.solid word member) spaced spacedWord
    ((solid_of_isIdentifier shape).flush after) flushLeft same
  rcases place with here | ⟨gapKey, spacedKey, led⟩
  · exact .inl here.symm
  · rcases led.eq_or_exists with same | ⟨other, inWords, gapOther, later, same, spacedOther, ledLater⟩
    · exact .inr ⟨"abstract", List.mem_cons_self, gapKey, spacedKey, same⟩
    · have unnamed := apart.unnamed (shapes other inWords) spacedOther
        (ledLater.opens apart shapes (apart.opens key _))
      exact absurd same.symm (unnamed name after shape stopped)

/-- If there is no name behind `abstract`, a rule that takes what it meets for a type finds none. -/
theorem Pattern.Abstracts.not_typed {name after : List Char} (apart : Apart stops) (rivals : Rivals words others)
    (shape : isIdentifier name = true) (stopped : Stopped stops after) (opens : Opens stops behind)
    (unnamed : Unnamed stops behind) (abstracts : Abstracts words text behind) :
    ¬Typed others text (name ++ after) := by
  intro typed
  rcases abstracts.eq_or_exists apart rivals shape stopped opens.flush typed with
    same | ⟨word, member, gap, spaced, same⟩
  · exact unnamed name after shape stopped same
  · exact apart.unnamed (rivals.own word member) spaced opens name after shape stopped same.symm

theorem Pattern.Abstracts.unique (rivals : Rivals words words) (flush : Flush behind) (flushToo : Flush tail)
    (abstracts : Abstracts words text behind) (abstractsToo : Abstracts words text tail) : behind = tail := by
  obtain ⟨gap, spaced, space, lead, split, blank, led⟩ := abstracts
  obtain ⟨gapToo, spacedToo, spaceToo, leadToo, splitToo, blankToo, ledToo⟩ := abstractsToo
  obtain ⟨key, solid⟩ := List.forall_mem_cons.mp rivals.own.solid
  obtain ⟨_, rfl⟩ := append_blanks_inj blank blankToo (led.flush solid (key.flush _))
    (ledToo.flush solid (key.flush _)) (split.symm.trans splitToo)
  have both : ∀ word ∈ "abstract" :: "abstract" :: words, Solid word.toList :=
    List.forall_mem_cons.mpr ⟨key, rivals.own.solid⟩
  exact (led.unique both rivals.new rivals.new spaced spacedToo flush flushToo ledToo).2

end

end Callsite

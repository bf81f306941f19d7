import Callsite.Proofs.Language.ShippedFrames

set_option autoImplicit false
set_option maxRecDepth 8000

/-! Declarations without a body. Where a shipped table tells them from others, the rule for them comes first,
and it yields to all rules behind it: either no line is read by both, or they read the same name. -/

namespace Callsite

open Pattern Text

/-! ### Pieces of rules -/

theorem Pattern.solid_of_typeParts {type : List Char} (filled : type ≠ [])
    (all : ∀ c ∈ type, (wordAnd ['<', '>', '[', ']', ',', '.', '?']).has c = true) : Solid type := by
  refine ⟨filled, fun c member => ?_⟩
  by_contra blank
  rw [Bool.not_eq_false] at blank
  have other := of_isBlank
    (fun c => (wordAnd ['<', '>', '[', ']', ',', '.', '?']).has c = false) (by decide +kernel) blank
  rw [all c member] at other
  contradiction

namespace Pattern.Takes

variable {pieces : List Pattern} {text rest : List Char}

theorem typeName (takes : (sequence typeName).Takes text rest) :
    ∃ type gap, text = type ++ (gap ++ rest) ∧ Solid type ∧ Gap gap ∧ ∀ c ∈ type, c ∉ ['('] := by
  obtain ⟨_, word, later⟩ := takes.sequence_cons
  obtain ⟨type, filled, rfl, all⟩ := word.repeated_chars
  obtain ⟨gap, rfl, spaced⟩ := Takes.gap later
  refine ⟨type, gap, rfl, solid_of_typeParts filled all, spaced, fun c member only => ?_⟩
  have paren := all c member
  rw [List.mem_singleton.mp only] at paren
  exact absurd paren (by decide +kernel)

theorem angle (takes : (Pattern.optional true
      (sequence (Pattern.chars (CharSet.single '<') :: pieces))).Takes text rest) :
    text = rest ∨ ∃ more, text = '<' :: more := by
  rcases takes.optional with inner | none
  · obtain ⟨more, first, _⟩ := inner.sequence_cons
    exact .inr ⟨more, first.single⟩
  · exact .inl none

theorem mark {c : Char}
    (takes : (sequence (Pattern.blanks :: Pattern.chars (CharSet.single c) :: pieces)).Takes text rest) :
    ∃ space more, text = space ++ c :: more ∧ Blanks space ∧ (sequence pieces).Takes more rest := by
  obtain ⟨_, ahead, later⟩ := takes.sequence_cons
  obtain ⟨space, rfl, blank⟩ := ahead.blanks
  obtain ⟨more, mark, onward⟩ := later.sequence_cons
  rw [mark.single]
  exact ⟨space, more, rfl, blank, onward⟩

theorem stopped {c : Char}
    (takes : (sequence (Pattern.blanks :: Pattern.chars (CharSet.single c) :: pieces)).Takes text rest) :
    Stopped [c] text := by
  obtain ⟨space, more, rfl, blank, _⟩ := takes.mark
  exact ⟨space, c, more, rfl, blank, List.mem_singleton_self _⟩

theorem arguments (takes : (sequence (Pattern.blanks :: typeArguments :: Pattern.blanks ::
      Pattern.chars (CharSet.single '(') :: pieces)).Takes text rest) : Stopped ['<', '('] text := by
  obtain ⟨_, ahead, later⟩ := takes.sequence_cons
  obtain ⟨space, rfl, blank⟩ := ahead.blanks
  obtain ⟨middle, inner, onward⟩ := later.sequence_cons
  rcases inner.angle with rfl | ⟨more, rfl⟩
  · obtain ⟨spaceToo, more, rfl, blankToo, _⟩ := onward.mark
    refine ⟨space ++ spaceToo, '(', more, (List.append_assoc _ _ _).symm, ?_, by decide⟩
    exact List.forall_mem_append.mpr ⟨blank, blankToo⟩
  · exact ⟨space, '<', more, rfl, blank, by decide⟩

theorem enclosed {first last : Char} (takes : (sequence (Pattern.chars (CharSet.single first) ::
      Pattern.anyNumber true (Pattern.chars (noneOf [last])) :: Pattern.chars (CharSet.single last) ::
        pieces)).Takes text rest) :
    ∃ middle, Enclosed first last text middle ∧ (sequence pieces).Takes middle rest := by
  obtain ⟨_, opening, later⟩ := takes.sequence_cons
  obtain ⟨_, run, onward⟩ := later.sequence_cons
  obtain ⟨middle, closing, ends⟩ := onward.sequence_cons
  obtain ⟨inner, split, all⟩ := run.anyNumber_chars
  refine ⟨middle, ⟨inner, ?_, fun member => ?_⟩, ends⟩
  · rw [opening.single, split, closing.single]
  · have other := all last member
    have same : (CharSet.single last).has last = true := CharSet.has_single_iff.mpr rfl
    simp [noneOf, oneOf, CharSet.has, same] at other

theorem method {words : List String} (some : words ≠ [])
    (takes : (sequence (Pattern.modifiedLine words Pattern.typeName)).Takes text rest) :
    Typed words text rest := by
  obtain ⟨_, modified, later⟩ := takes.modifiedLine some
  obtain ⟨type, gap, rfl, solid, spaced, _⟩ := later.typeName
  exact ⟨type, gap, solid, spaced, modified⟩

theorem constructor {words : List String} (some : words ≠ []) (shapes : Identifiers words)
    (takes : (sequence [.look .textStart, Pattern.blanks, Pattern.anyOf words, Pattern.gap]).Takes text rest) :
    Typed [] text rest := by
  obtain ⟨space, lead, rfl, blank, later⟩ := takes.lineStart
  obtain ⟨_, ahead, onward⟩ := later.sequence_cons
  obtain ⟨word, member, rfl⟩ := ahead.anyOf some
  obtain ⟨gap, rfl, spaced⟩ := Takes.gap onward
  exact ⟨_, gap, shapes.solid word member, spaced, space, _, rfl, blank, .here⟩

end Pattern.Takes

namespace Shipped

variable {text name after : List Char}

/-! ### Java -/

theorem unnamed_of_javaAbstract (reads : javaAbstract.Reads text name after) :
    ∃ behind, Abstracts javaAbstractWords text behind ∧ Opens ['('] behind ∧ Unnamed ['('] behind := by
  obtain ⟨behind, abstracts, later⟩ := reads.front.abstractLine (by decide)
  obtain ⟨inner, led, onward⟩ := later.sequence_cons
  obtain ⟨_, angle, typed⟩ := onward.sequence_cons
  have modifiers := led.modifiers (by decide)
  have start : Opens ['('] inner ∧ Unnamed ['('] inner := by
    rcases angle.angle with rfl | ⟨more, rfl⟩
    · obtain ⟨type, gap, rfl, solid, spaced, within⟩ := typed.typeName
      have opens : Opens ['('] (name ++ after) := Apart.opens (by decide) reads.isIdentifier after
      exact ⟨opens_of_solid solid within _, unnamed_of_word (by decide) solid within spaced opens⟩
    · exact ⟨⟨'<', more, rfl, by decide, by decide⟩, unnamed_cons (by decide) more⟩
  exact ⟨behind, abstracts, modifiers.opens (by decide) (by decide) start.1,
    modifiers.unnamed (by decide) (by decide) start.1 start.2⟩

theorem not_typed_of_javaAbstract {words : List String} {other tail : List Char}
    (rivals : Rivals javaAbstractWords words) (shape : isIdentifier other = true) (stopped : Stopped ['('] tail)
    (reads : javaAbstract.Reads text name after) : ¬Typed words text (other ++ tail) := by
  obtain ⟨behind, abstracts, opens, unnamed⟩ := unnamed_of_javaAbstract reads
  exact abstracts.not_typed (by decide) rivals shape stopped opens unnamed

theorem javaAbstract_yields_javaMethod : javaAbstract.Yields javaMethod := by
  intro text other name after tail behind _ first second
  obtain ⟨rest, back⟩ := second.back
  obtain ⟨_, modified, later⟩ := second.front.modifiedLine (by decide)
  obtain ⟨_, angle, inner⟩ := later.sequence_cons
  exfalso
  rcases angle.angle with rfl | ⟨more, rfl⟩
  · obtain ⟨type, gap, rfl, solid, spaced, _⟩ := inner.typeName
    exact not_typed_of_javaAbstract (by decide) second.isIdentifier back.stopped first
      ⟨type, gap, solid, spaced, modified⟩
  · obtain ⟨_, abstracts, _⟩ := unnamed_of_javaAbstract first
    have opens : Opens ['<'] ('<' :: more) :=
      abstracts.opens (by decide) (by decide) (.cons (by decide) more) modified
    exact opens.notMem (List.mem_singleton_self _)

theorem javaAbstract_yields_javaConstructor : javaAbstract.Yields javaConstructor := by
  intro text other name after tail behind _ first second
  obtain ⟨rest, back⟩ := second.back
  exact absurd (second.front.constructor (by decide) (by decide))
    (not_typed_of_javaAbstract (by decide) second.isIdentifier back.stopped first)

end Shipped

/-! ### C# -/

/-- The text is led by some of the words and a type, up to `rest`. -/
def Follows (words : List String) (text rest : List Char) : Prop :=
  ∃ type gap, Solid type ∧ Gap gap ∧ (∀ c ∈ type, c ∉ ['(']) ∧ Led words (type ++ (gap ++ rest)) text

/-- The text begins with none of the words, or an angle bracket comes next. -/
def Attached (words : List String) (text : List Char) : Prop :=
  ∀ word ∈ words, ∀ {gap rest : List Char}, Gap gap → Opens ['<'] rest → text ≠ word.toList ++ (gap ++ rest)

namespace Follows

variable {words : List String} {text rest name after tail : List Char}

theorem opens (shapes : Identifiers words) (follows : Follows words text rest) : Opens ['('] text := by
  obtain ⟨type, gap, solid, _, within, led⟩ := follows
  exact led.opens (by decide) shapes (opens_of_solid solid within _)

theorem unnamed (shapes : Identifiers words) (opens : Opens ['('] rest) (follows : Follows words text rest) :
    Unnamed ['('] text := by
  obtain ⟨type, gap, solid, spaced, within, led⟩ := follows
  exact led.unnamed (by decide) shapes (opens_of_solid solid within _)
    (unnamed_of_word (by decide) solid within spaced opens)

/-- In front of an angle bracket there is one word at most. -/
theorem eq_or_exists (shapes : Identifiers words) (attached : Attached words text)
    (follows : Follows words text rest) :
    ∃ type gap, Solid type ∧ Gap gap ∧ (text = type ++ (gap ++ rest) ∨
      ∃ word ∈ words, ∃ space, Gap space ∧ text = word.toList ++ (space ++ (type ++ (gap ++ rest)))) := by
  obtain ⟨type, gap, solid, spaced, _, led⟩ := follows
  refine ⟨type, gap, solid, spaced, ?_⟩
  rcases led.eq_or_exists with same | ⟨word, member, space, later, same, spacedToo, ledLater⟩
  · exact .inl same
  · rcases ledLater.eq_or_exists with rfl | ⟨other, inWords, gapToo, more, rfl, _, _⟩
    · exact .inr ⟨word, member, space, spacedToo, same⟩
    · have apart : Apart ['<'] := by decide
      exact absurd same (attached word member spacedToo (apart.opens (shapes other inWords) (gapToo ++ more)))

theorem unique (shapes : Identifiers words) (attached : Attached words text) (opens : Opens ['<'] rest)
    (opensToo : Opens ['<'] tail) (follows : Follows words text rest) (followsToo : Follows words text tail) :
    rest = tail := by
  -- What stands behind one of the words is a type, and no name.
  have alone {word : String} (member : word ∈ words) {type gap left space more : List Char}
      (solid : Solid type) (spaced : Gap gap) (opens : Opens ['<'] left) (spacedToo : Gap space)
      (same : text = type ++ (gap ++ left)) (sameToo : text = word.toList ++ (space ++ more)) : False := by
    obtain ⟨rfl, _⟩ :=
      append_word_eq solid (shapes.solid word member) spaced spacedToo (same.symm.trans sameToo)
    exact attached word member spaced opens same
  obtain ⟨type, gap, solid, spaced, place⟩ := follows.eq_or_exists shapes attached
  obtain ⟨typeToo, gapToo, solidToo, spacedToo, placeToo⟩ := followsToo.eq_or_exists shapes attached
  rcases place with same | ⟨word, member, space, spacedWord, same⟩ <;>
    rcases placeToo with sameToo | ⟨other, memberToo, spaceToo, spacedOther, sameToo⟩
  · exact (append_word_inj solid solidToo spaced spacedToo opens.flush opensToo.flush
      (same.symm.trans sameToo)).2
  · exact (alone memberToo solid spaced opens spacedOther same sameToo).elim
  · exact (alone member solidToo spacedToo opensToo spacedWord sameToo same).elim
  · obtain ⟨_, same⟩ := append_word_inj (shapes.solid word member) (shapes.solid other memberToo) spacedWord
      spacedOther (solid.flush _) (solidToo.flush _) (same.symm.trans sameToo)
    exact (append_word_inj solid solidToo spaced spacedToo opens.flush opensToo.flush same).2

end Follows

namespace Shipped

variable {text name after : List Char}

theorem csharpAbstract_follows (reads : csharpAbstract.Reads text name after) :
    ∃ behind, Abstracts csharpAbstractWords text behind ∧ Follows csharpInnerWords behind (name ++ after) ∧
      Stopped ['<', '('] after := by
  obtain ⟨behind, abstracts, later⟩ := reads.front.abstractLine (by decide)
  obtain ⟨_, led, typed⟩ := later.sequence_cons
  have modifiers := led.modifiers (by decide)
  obtain ⟨type, gap, rfl, solid, spaced, within⟩ := typed.typeName
  obtain ⟨rest, back⟩ := reads.back
  exact ⟨behind, abstracts, ⟨type, gap, solid, spaced, within, modifiers⟩, back.arguments⟩

/-- Where another rule reads a name behind what it takes for a type, an angle bracket stops that name, and
the abstract rule finds its type and its name in one way only. -/
theorem csharpAbstract_yields {later : Frame} {words : List String} (rivals : Rivals csharpAbstractWords words)
    (typed : ∀ {text name after}, later.Reads text name after →
      Typed words text (name ++ after) ∧ Stopped ['<', '('] after) : csharpAbstract.Yields later := by
  intro text other name after tail left first second third
  have inner : Identifiers csharpInnerWords := by decide
  have apart : Apart ['<', '('] := by decide
  have angle : Apart ['<'] := by decide
  have paren : Apart ['('] := by decide
  obtain ⟨typed, stopped⟩ := typed third
  obtain ⟨_, abstractsToo, followsToo, _⟩ := csharpAbstract_follows first
  obtain ⟨behind, abstracts, follows, stoppedAfter⟩ := csharpAbstract_follows second
  have unnamed : Unnamed ['('] behind := follows.unnamed inner (paren.opens second.isIdentifier after)
  have flush : Flush behind := (follows.opens inner).flush
  obtain rfl := abstracts.unique (by decide) flush (followsToo.opens inner).flush abstractsToo
  have attached : Attached csharpInnerWords behind := by
    intro word member gap rest spaced opensRest same
    rcases abstracts.eq_or_exists apart rivals third.isIdentifier stopped flush typed with
      here | ⟨key, inWords, gapKey, spacedKey, here⟩
    · have stoppedAngle : Stopped ['<'] left := by
        obtain ⟨space, c, more, rfl, blank, mark⟩ := stopped
        rcases List.mem_cons.mp mark with rfl | mark
        · exact ⟨space, '<', more, rfl, blank, List.mem_singleton_self _⟩
        · exact absurd here (unnamed _ _ third.isIdentifier ⟨space, c, more, rfl, blank, mark⟩)
      exact angle.unnamed (inner word member) spaced opensRest _ _ third.isIdentifier stoppedAngle
        (same.symm.trans here)
    · have opensKey : Opens ['<', '('] behind := by
        rw [same]
        exact apart.opens (inner word member) _
      exact apart.unnamed (rivals.own key inWords) spacedKey opensKey _ _ third.isIdentifier stopped here.symm
  have same : other ++ tail = name ++ after :=
    followsToo.unique inner attached (angle.opens first.isIdentifier tail)
      (angle.opens second.isIdentifier after) follows
  exact ⟨same, apart.length_le second.isIdentifier first.isIdentifier stoppedAfter same⟩

theorem not_typed_of_csharpAbstract {words : List String} {other tail : List Char}
    (rivals : Rivals csharpAbstractWords words) (shape : isIdentifier other = true) (stopped : Stopped ['('] tail)
    (reads : csharpAbstract.Reads text name after) : ¬Typed words text (other ++ tail) := by
  have inner : Identifiers csharpInnerWords := by decide
  have apart : Apart ['('] := by decide
  obtain ⟨behind, abstracts, follows, _⟩ := csharpAbstract_follows reads
  exact abstracts.not_typed apart rivals shape stopped (follows.opens inner)
    (follows.unnamed inner (apart.opens reads.isIdentifier after))

theorem csharpAbstract_yields_csharpArrow : csharpAbstract.Yields csharpArrow := by
  have rivals : Rivals csharpAbstractWords csharpWords := by decide
  refine csharpAbstract_yields rivals fun reads => ?_
  obtain ⟨rest, back⟩ := reads.back
  exact ⟨reads.front.method (by decide), back.arguments⟩

theorem csharpAbstract_yields_csharpMethod : csharpAbstract.Yields csharpMethod := by
  have rivals : Rivals csharpAbstractWords csharpWords := by decide
  refine csharpAbstract_yields rivals fun reads => ?_
  obtain ⟨rest, back⟩ := reads.back
  exact ⟨reads.front.method (by decide), back.arguments⟩

theorem csharpAbstract_yields_csharpConstructor : csharpAbstract.Yields csharpConstructor := by
  have rivals : Rivals csharpAbstractWords [] := by decide
  refine csharpAbstract_yields rivals fun reads => ?_
  obtain ⟨rest, back⟩ := reads.back
  exact ⟨reads.front.constructor (by decide) (by decide), back.stopped.mono (by decide)⟩

/-! ### PHP -/

theorem phpAbstract_yields_phpFunction : phpAbstract.Yields phpFunction := by
  intro text other name after tail behind _ first second
  obtain ⟨key, abstracts, _⟩ := first.front.abstractLine (by decide)
  obtain ⟨_, modified, later⟩ := second.front.modifiedLine (by decide)
  obtain ⟨_, rfl, onward⟩ := later.spelled
  obtain ⟨_, between, _⟩ := onward.sequence_cons
  obtain ⟨gap, rfl, spaced⟩ := Takes.gap between
  have rivals : Rivals phpAbstractWords phpAbstractWords := by decide
  have solid : Solid "function".toList := by decide
  obtain ⟨word, member, space, left, same, spacedWord, _⟩ :=
    abstracts.exists_word rivals (solid.flush _) modified
  obtain ⟨words, _⟩ := append_word_eq solid (rivals.own.solid word member) spaced spacedWord same
  rw [String.toList_inj] at words
  rw [← words] at member
  exact absurd member (by decide)

/-! ### TypeScript -/

theorem typescriptAbstract_abstracts (reads : typescriptAbstract.Reads text name after) :
    ∃ behind, Abstracts typescriptAbstractWords text behind ∧ ∀ stops, Apart stops → Opens stops behind := by
  obtain ⟨behind, abstracts, later⟩ := reads.front.abstractLine (by decide)
  have led := Takes.modifiers (by decide) later
  exact ⟨behind, abstracts, fun stops apart =>
    led.opens apart (by decide) (apart.opens reads.isIdentifier after)⟩

theorem not_isPrefix_of_typescriptAbstract {lead : List Char} (reads : typescriptAbstract.Reads text name after)
    (modified : Modified [] text lead) :
    ∀ first ∈ ["export", "declare", "default", "async", "function", "const", "let", "var"],
      ¬first.toList <+: lead := by
  intro first member begins
  have solid : ∀ first ∈ ["export", "declare", "default", "async", "function", "const", "let", "var"],
      Solid first.toList := by decide
  have apart : ∀ first ∈ ["export", "declare", "default", "async", "function", "const", "let", "var"],
      ∀ word ∈ "abstract" :: typescriptAbstractWords,
        ¬first.toList <+: word.toList ∧ ¬word.toList <+: first.toList := by decide
  obtain ⟨behind, abstracts, _⟩ := typescriptAbstract_abstracts reads
  obtain ⟨rest, rfl⟩ := begins
  obtain ⟨word, inWords, space, left, same, _⟩ :=
    abstracts.exists_word (by decide) ((solid first member).flush _) modified
  have begins : first.toList <+: word.toList ++ (space ++ left) := ⟨rest, same⟩
  exact not_begins_of_begins (apart first member word inWords) begins (List.prefix_append _ _)

theorem typescriptAbstract_yields_typescriptFunction : typescriptAbstract.Yields typescriptFunction := by
  intro text other name after tail behind _ first second
  obtain ⟨space, lead, split, blank, words⟩ := second.front.lineStart
  have clash := not_isPrefix_of_typescriptAbstract first ⟨space, lead, split, blank, .here⟩
  rcases words.optionalWord with begins | words
  · exact absurd begins (clash _ (by decide))
  rcases words.optionalWord with begins | words
  · exact absurd begins (clash _ (by decide))
  rcases words.optionalWord with begins | words
  · exact absurd begins (clash _ (by decide))
  rcases words.optionalWord with begins | words
  · exact absurd begins (clash _ (by decide))
  obtain ⟨rest, rfl, _⟩ := words.spelled
  exact absurd (List.prefix_append _ rest) (clash _ (by decide))

theorem typescriptAbstract_yields_typescriptArrow : typescriptAbstract.Yields typescriptArrow := by
  intro text other name after tail behind _ first second
  obtain ⟨space, lead, split, blank, words⟩ := second.front.lineStart
  have clash := not_isPrefix_of_typescriptAbstract first ⟨space, lead, split, blank, .here⟩
  rcases words.optionalWord with begins | words
  · exact absurd begins (clash _ (by decide))
  obtain ⟨rest, ahead, _⟩ := words.sequence_cons
  obtain ⟨word, member, rfl⟩ := ahead.anyOf (by decide)
  have among : ["const", "let", "var"] ⊆
      ["export", "declare", "default", "async", "function", "const", "let", "var"] := by decide
  exact absurd (List.prefix_append _ rest) (clash word (among member))

theorem typescriptAbstract_yields_scriptProperty : typescriptAbstract.Yields scriptProperty := by
  intro text other name after tail behind _ first second
  obtain ⟨key, abstracts, opens⟩ := typescriptAbstract_abstracts first
  obtain ⟨rest, back⟩ := second.back
  obtain ⟨space, lead, split, blank, nothing⟩ := second.front.lineStart
  have modified : Modified [] text (name ++ behind) := ⟨space, lead, split, blank, nothing.empty ▸ .here⟩
  have unnamed := abstracts.unnamed (by decide) (by decide)
    ((solid_of_isIdentifier second.isIdentifier).flush behind) (opens [':'] (by decide)) modified
  exact absurd rfl (unnamed name behind second.isIdentifier back.stopped)

theorem typescriptAbstract_yields_typescriptMethod : typescriptAbstract.Yields typescriptMethod := by
  intro text other name after tail behind _ first second
  obtain ⟨key, abstracts, opens⟩ := typescriptAbstract_abstracts first
  obtain ⟨rest, back⟩ := second.back
  obtain ⟨_, modified, later⟩ := second.front.modifiedLine (by decide)
  have apart : Apart ['<', '('] := by decide
  exfalso
  rcases Takes.optional later with star | same
  · rw [star.single] at modified
    have opens : Opens ['*'] ('*' :: (name ++ behind)) :=
      abstracts.opens (by decide) (by decide) (.cons (by decide) _) modified
    exact opens.notMem (List.mem_singleton_self _)
  · rw [same] at modified
    have unnamed := abstracts.unnamed apart (by decide)
      ((solid_of_isIdentifier second.isIdentifier).flush behind) (opens _ apart) modified
    exact unnamed name behind second.isIdentifier back.arguments rfl

/-! ### Rust -/

/-- `pub`, for whom the item is visible, if that is said, and white space. -/
def Published (text rest : List Char) : Prop :=
  ∃ middle behind, text = "pub".toList ++ middle ∧ (middle = behind ∨ Enclosed '(' ')' middle behind) ∧
    Spaced behind rest

def Foreign (text rest : List Char) : Prop :=
  ∃ behind middle, Enclosed '"' '"' text behind ∧ Spaced behind ("fn".toList ++ middle) ∧ Spaced middle rest

/-- A text that begins with `fn`, or with other words and then `fn`, up to `rest`. -/
def Leads (text rest : List Char) : Prop :=
  ∃ key left behind, Led rustWords (key.toList ++ left) text ∧ Spaced left behind ∧
    (key = "fn" ∧ behind = rest ∨ key = "extern" ∧ Foreign behind rest)

section

variable {rest tail : List Char}

theorem Published.unique (flush : Flush rest) (flushToo : Flush tail) (published : Published text rest)
    (publishedToo : Published text tail) : rest = tail := by
  obtain ⟨middle, behind, rfl, place, spaced⟩ := published
  obtain ⟨other, behindToo, same, placeToo, spacedToo⟩ := publishedToo
  obtain rfl := List.append_cancel_left same
  have notSpaced (text rest : List Char) : ¬Spaced ('(' :: text) rest := by
    rintro ⟨gap, same, spaced⟩
    have blank := spaced.isBlank_head rest '(' (by rw [← same]; rfl)
    exact absurd blank (by decide)
  have same : behind = behindToo := by
    rcases place with rfl | enclosed <;> rcases placeToo with rfl | enclosedToo
    · rfl
    · obtain ⟨inner, rfl, _⟩ := enclosedToo
      exact absurd spaced (notSpaced _ rest)
    · obtain ⟨inner, rfl, _⟩ := enclosed
      exact absurd spacedToo (notSpaced _ tail)
    · exact enclosed.unique enclosedToo
  exact spaced.unique flush flushToo (same ▸ spacedToo)

theorem Foreign.unique (flush : Flush rest) (flushToo : Flush tail) (foreign : Foreign text rest)
    (foreignToo : Foreign text tail) : rest = tail := by
  obtain ⟨behind, middle, enclosed, spaced, spacedLast⟩ := foreign
  obtain ⟨behindToo, other, enclosedToo, spacedToo, spacedLastToo⟩ := foreignToo
  obtain rfl := enclosed.unique enclosedToo
  have solid : Solid "fn".toList := by decide
  obtain rfl := List.append_cancel_left (spaced.unique (solid.flush _) (solid.flush _) spacedToo)
  exact spacedLast.unique flush flushToo spacedLastToo

namespace Leads

theorem exists_word (leads : Leads text rest) :
    ∃ word ∈ rustWords ++ ["fn", "extern"], word.toList <+: text := by
  obtain ⟨key, left, behind, led, _, place⟩ := leads
  rcases led.eq_or_exists with rfl | ⟨word, member, gap, later, rfl, _⟩
  · refine ⟨key, List.mem_append_right _ ?_, List.prefix_append _ _⟩
    rcases place with ⟨rfl, _⟩ | ⟨rfl, _⟩
    · decide
    · decide
  · exact ⟨word, List.mem_append_left _ member, List.prefix_append _ _⟩

theorem flush (leads : Leads text rest) : Flush text := by
  obtain ⟨word, member, more, rfl⟩ := leads.exists_word
  have solid : ∀ word ∈ rustWords ++ ["fn", "extern"], Solid word.toList := by decide
  exact (solid word member).flush more

theorem not_published (leads : Leads text rest) : ¬Published text tail := by
  rintro ⟨middle, _, rfl, _⟩
  obtain ⟨word, member, begins⟩ := leads.exists_word
  have apart : ∀ word ∈ rustWords ++ ["fn", "extern"],
      ¬"pub".toList <+: word.toList ∧ ¬word.toList <+: "pub".toList := by decide
  exact not_begins_of_begins (apart word member) (List.prefix_append _ middle) begins

theorem unique (flush : Flush rest) (flushToo : Flush tail) (leads : Leads text rest)
    (leadsToo : Leads text tail) : rest = tail := by
  obtain ⟨key, _, behind, led, ⟨gap, rfl, spaced⟩, place⟩ := leads
  obtain ⟨other, _, behindToo, ledToo, ⟨space, rfl, spacedToo⟩, placeToo⟩ := leadsToo
  have flushBehind {key : String} {behind rest : List Char} (flush : Flush rest)
      (place : key = "fn" ∧ behind = rest ∨ key = "extern" ∧ Foreign behind rest) : Flush behind := by
    rcases place with ⟨_, rfl⟩ | ⟨_, foreign⟩
    · exact flush
    · obtain ⟨_, _, ⟨inner, rfl, _⟩, _⟩ := foreign
      exact .cons (by decide) _
  have among {key : String} {behind rest : List Char}
      (place : key = "fn" ∧ behind = rest ∨ key = "extern" ∧ Foreign behind rest) :
      key ∉ rustWords ∧ Solid key.toList := by
    rcases place with ⟨rfl, _⟩ | ⟨rfl, _⟩
    · decide
    · decide
  have solid : ∀ word ∈ key :: other :: rustWords, Solid word.toList :=
    List.forall_mem_cons.mpr ⟨(among place).2, List.forall_mem_cons.mpr ⟨(among placeToo).2, by decide⟩⟩
  obtain ⟨rfl, rfl⟩ := led.unique solid (among place).1 (among placeToo).1 spaced spacedToo
    (flushBehind flush place) (flushBehind flushToo placeToo) ledToo
  rcases place with ⟨rfl, rfl⟩ | ⟨rfl, foreign⟩
  · rcases placeToo with ⟨_, rfl⟩ | ⟨same, _⟩
    · rfl
    · exact absurd same (by decide)
  · rcases placeToo with ⟨same, _⟩ | ⟨_, foreignToo⟩
    · exact absurd same (by decide)
    · exact foreign.unique flush flushToo foreignToo

end Leads

theorem rustFront_leads (takes : (sequence rustFront).Takes text rest) :
    ∃ space lead body, text = space ++ lead ∧ Blanks space ∧ (lead = body ∨ Published lead body) ∧
      Leads body rest := by
  obtain ⟨space, lead, split, blank, later⟩ := takes.lineStart
  obtain ⟨body, scope, later⟩ := later.sequence_cons
  obtain ⟨inner, led, later⟩ := later.sequence_cons
  obtain ⟨front, abi, later⟩ := later.sequence_cons
  obtain ⟨middle, rfl, ends⟩ := Takes.spelled later
  have spaced := Takes.gap ends
  refine ⟨space, lead, body, split, blank, ?_, ?_⟩
  · rcases scope.optional with inner | same
    · obtain ⟨middle, rfl, item⟩ := inner.spelled
      obtain ⟨behind, visible, last⟩ := item.sequence_cons
      refine .inr ⟨middle, behind, rfl, ?_, Takes.gap last⟩
      rcases visible.optional with inside | same
      · obtain ⟨_, enclosed, last⟩ := Takes.enclosed inside
        exact .inr (last.empty ▸ enclosed)
      · exact .inl same
    · exact .inl same
  · have modifiers := led.modifiers (by decide)
    rcases abi.optional with named | rfl
    · obtain ⟨left, rfl, quoted⟩ := named.spelled
      obtain ⟨middle, before, quoted⟩ := quoted.sequence_cons
      obtain ⟨behind, enclosed, last⟩ := quoted.enclosed
      exact ⟨"extern", left, middle, modifiers, Takes.gap before,
        .inr ⟨rfl, behind, _, enclosed, Takes.gap last, spaced⟩⟩
    · exact ⟨"fn", middle, rest, modifiers, spaced, .inl ⟨rfl, rfl⟩⟩

theorem rustFront_unique (flush : Flush rest) (flushToo : Flush tail)
    (takes : (sequence rustFront).Takes text rest) (takesToo : (sequence rustFront).Takes text tail) :
    rest = tail := by
  obtain ⟨space, lead, body, rfl, blank, place, leads⟩ := rustFront_leads takes
  obtain ⟨spaceToo, leadToo, bodyToo, split, blankToo, placeToo, leadsToo⟩ := rustFront_leads takesToo
  have solid : Solid "pub".toList := by decide
  have flushLead {lead body rest : List Char} (place : lead = body ∨ Published lead body)
      (leads : Leads body rest) : Flush lead := by
    rcases place with rfl | ⟨_, _, rfl, _⟩
    · exact leads.flush
    · exact solid.flush _
  obtain ⟨_, rfl⟩ :=
    append_blanks_inj blank blankToo (flushLead place leads) (flushLead placeToo leadsToo) split
  have same : body = bodyToo := by
    rcases place with rfl | published <;> rcases placeToo with rfl | publishedToo
    · rfl
    · exact absurd publishedToo leads.not_published
    · exact absurd published leadsToo.not_published
    · exact published.unique leads.flush leadsToo.flush publishedToo
  exact leads.unique flush flushToo (same ▸ leadsToo)

end

theorem rustSignature_yields_rustFunction : rustSignature.Yields rustFunction := by
  intro text other name after tail behind first second third
  have flush {name : List Char} (shape : isIdentifier name = true) (rest : List Char) : Flush (name ++ rest) :=
    (solid_of_isIdentifier shape).flush rest
  have same : other ++ tail = name ++ after :=
    rustFront_unique (flush first.isIdentifier tail) (flush second.isIdentifier after) first.front
      second.front
  have onward : name ++ behind = name ++ after :=
    rustFront_unique (flush third.isIdentifier behind) (flush second.isIdentifier after) third.front
      second.front
  obtain rfl := List.append_cancel_left onward
  obtain ⟨rest, back⟩ := third.back
  obtain ⟨middle, ahead, last⟩ := back.sequence_cons
  obtain ⟨space, rfl, blank⟩ := ahead.blanks
  obtain ⟨c, rfl, has⟩ := last.chars
  have apart : Apart ['<', '('] := by decide
  have stopped : Stopped ['<', '('] (space ++ c :: rest) := by
    refine ⟨space, c, rest, rfl, blank, ?_⟩
    simpa [oneOf, CharSet.has, CharSet.has_single_iff] using has
  exact ⟨same, apart.length_le second.isIdentifier first.isIdentifier stopped same⟩

/-! ### C++ -/

theorem paren_inj {front other rest tail : List Char} (none : '(' ∉ front) (noneToo : '(' ∉ other)
    (same : front ++ '(' :: rest = other ++ '(' :: tail) : rest = tail := by
  have enclosed : Enclosed '(' '(' ('(' :: (front ++ '(' :: rest)) rest := ⟨front, rfl, none⟩
  have enclosedToo : Enclosed '(' '(' ('(' :: (front ++ '(' :: rest)) tail := ⟨other, by rw [same], noneToo⟩
  exact enclosed.unique enclosedToo

/-- If nothing in front of the name can take a parenthesis, the one behind the name is the first. -/
theorem exists_paren {front back : List Pattern} {middle : List Char} (shape : isIdentifier name = true)
    (none : ∀ set ∈ (sequence front).sets, set.has '(' = false)
    (takes : (sequence front).Takes text (name ++ middle))
    (behind : (sequence (blanks :: chars (.single '(') :: back)).Takes middle after) :
    ∃ run more, text = run ++ '(' :: more ∧ '(' ∉ run ∧ (sequence back).Takes more after := by
  obtain ⟨run, split, noParen⟩ := takes.avoids none
  obtain ⟨space, more, rfl, blank, last⟩ := behind.mark
  refine ⟨run ++ (name ++ space), more, ?_, ?_, last⟩
  · rw [split]
    simp only [List.append_assoc]
  · simp only [List.mem_append, not_or]
    refine ⟨noParen, fun member => ?_, fun member => ?_⟩
    · have part := (identifierPart_of_isIdentifier shape).2 _ member
      exact absurd part (by decide)
    · exact absurd (blank _ member) (by decide)

theorem not_mem_of_unfinished {rest : List Char}
    (takes : (sequence [anyNumber true (chars (noneOf [';'])), look .textEnd]).Takes text rest) :
    ';' ∉ text := by
  obtain ⟨middle, run, last⟩ := takes.sequence_cons
  have ended : middle = [] := last.look.trans last.textEnd
  have lacks : ∀ set ∈ (anyNumber true (chars (noneOf [';']))).sets, set.has ';' = false := by decide
  obtain ⟨inner, rfl, none⟩ := run.avoids lacks
  rw [ended, List.append_nil]
  exact none

theorem cppVirtual_paren (reads : cppVirtual.Reads text name after) :
    ∃ run more, text = run ++ '(' :: more ∧ '(' ∉ run ∧ ';' ∈ more := by
  obtain ⟨rest, back⟩ := reads.back
  obtain ⟨run, more, split, none, last⟩ := exists_paren reads.isIdentifier (by decide +kernel) reads.front back
  exact ⟨run, more, split, none, last.needed (by decide)⟩

theorem cppVirtual_yields_cppMember : cppVirtual.Yields cppMember := by
  intro text other name after tail behind _ first second
  obtain ⟨run, more, split, none, semicolon⟩ := cppVirtual_paren first
  obtain ⟨rest, back⟩ := second.back
  obtain ⟨runToo, moreToo, splitToo, noneToo, last⟩ :=
    exists_paren second.isIdentifier (by decide +kernel) second.front back
  obtain rfl := paren_inj none noneToo (split.symm.trans splitToo)
  exact absurd semicolon (not_mem_of_unfinished last)

theorem cppVirtual_yields_cppFunction : cppVirtual.Yields cppFunction := by
  intro text other name after tail behind _ first second
  obtain ⟨run, more, split, none, semicolon⟩ := cppVirtual_paren first
  obtain ⟨rest, back⟩ := second.back
  obtain ⟨space, lead, splitSpace, blank, words⟩ := first.front.lineStart
  obtain ⟨_, rfl, _⟩ := words.spelled
  obtain ⟨spaceToo, leadToo, splitToo, blankToo, later⟩ := second.front.lineStart
  obtain ⟨onward, template, pieces⟩ := later.sequence_cons
  -- The parameters of a template may have parentheses in them, but here there are none.
  have plain : leadToo = onward := by
    rcases template.optional with word | same
    · obtain ⟨_, rfl, _⟩ := word.spelled
      have solid : Solid "virtual".toList ∧ Solid "template".toList := by decide
      obtain ⟨_, same⟩ := append_blanks_inj blank blankToo (solid.1.flush _) (solid.2.flush _)
        (splitSpace.symm.trans splitToo)
      have apart : ¬"virtual".toList <+: "template".toList ∧ ¬"template".toList <+: "virtual".toList := by
        decide
      exact absurd ⟨_, same.symm⟩ (not_begins_of_begins apart (List.prefix_append _ _))
    · exact same
  obtain ⟨runToo, moreToo, splitOnward, noneToo, last⟩ :=
    exists_paren second.isIdentifier (by decide +kernel) pieces back
  have noneBefore : '(' ∉ spaceToo ++ runToo := by
    refine fun member => (List.mem_append.mp member).elim (fun inSpace => ?_) noneToo
    exact absurd (blankToo _ inSpace) (by decide)
  have whole : text = (spaceToo ++ runToo) ++ '(' :: moreToo := by
    rw [splitToo, plain, splitOnward, List.append_assoc]
  obtain rfl := paren_inj none noneBefore (split.symm.trans whole)
  exact absurd semicolon (not_mem_of_unfinished last)

end Shipped

end Callsite

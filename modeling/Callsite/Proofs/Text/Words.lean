import Callsite.Proofs.Text.Trimming

set_option autoImplicit false

/-! Texts cut into words. A run of characters of one kind that stops at a character of another kind is cut
off a text in one way only; so are a word and the white space behind it. -/

namespace Callsite.Text

private theorem takeWhile_run {stays : Char → Bool} {run rest : List Char}
    (all : ∀ c ∈ run, stays c = true) (stops : ∀ c ∈ rest.head?, stays c = false) :
    (run ++ rest).takeWhile stays = run := by
  rw [List.takeWhile_append_of_pos all]
  cases rest with
  | nil => exact List.append_nil run
  | cons c rest =>
      have other : ¬stays c = true := by
        rw [stops c rfl]
        exact Bool.false_ne_true
      rw [List.takeWhile_cons_of_neg other, List.append_nil]

theorem append_run_inj {stays : Char → Bool} {run other rest tail : List Char}
    (all : ∀ c ∈ run, stays c = true) (allToo : ∀ c ∈ other, stays c = true)
    (stops : ∀ c ∈ rest.head?, stays c = false) (stopsToo : ∀ c ∈ tail.head?, stays c = false)
    (same : run ++ rest = other ++ tail) : run = other ∧ rest = tail := by
  have runs : run = other := by
    rw [← takeWhile_run all stops, same, takeWhile_run allToo stopsToo]
  subst runs
  exact ⟨rfl, List.append_cancel_left same⟩

theorem not_begins_of_begins {first second text : List Char} (apart : ¬first <+: second ∧ ¬second <+: first)
    (begins : first <+: text) : ¬second <+: text := by
  intro beginsToo
  rcases List.prefix_or_prefix_of_prefix begins beginsToo with shorter | longer
  · exact apart.1 shorter
  · exact apart.2 longer

theorem prefix_of_notMem {mark : Char} {left text rest : List Char} (begins : left <+: text ++ mark :: rest)
    (none : mark ∉ left) : left <+: text := by
  have marked : text ++ [mark] <+: text ++ mark :: rest := by
    rw [List.prefix_append_right_inj]
    exact ⟨rest, rfl⟩
  rcases List.prefix_or_prefix_of_prefix begins marked with shorter | longer
  · rcases List.prefix_concat_iff.mp shorter with rfl | within
    · exact absurd (by simp) none
    · exact within
  · exact absurd (longer.subset (by simp)) none

theorem getLast?_eq_of_append_eq {one two first second : List Char} (same : one ++ two = first ++ second)
    (filled : two ≠ []) (filledToo : second ≠ []) : two.getLast? = second.getLast? := by
  have lasts := congrArg List.getLast? same
  rw [List.getLast?_append, List.getLast?_append, List.getLast?_eq_some_getLast filled,
    List.getLast?_eq_some_getLast filledToo, Option.some_or, Option.some_or] at lasts
  rw [List.getLast?_eq_some_getLast filled, List.getLast?_eq_some_getLast filledToo, lasts]

/-- Nothing but white space. -/
def Blanks (text : List Char) : Prop :=
  ∀ c ∈ text, isBlank c = true

instance (text : List Char) : Decidable (Blanks text) :=
  inferInstanceAs (Decidable (∀ c ∈ text, _))

/-- A text that does not begin with white space. -/
def Flush (text : List Char) : Prop :=
  ∀ c ∈ text.head?, isBlank c = false

/-- White space, and some of it. -/
structure Gap (text : List Char) : Prop where
  filled : text ≠ []
  blanks : Blanks text

/-- A word: characters without white space among them. -/
structure Solid (text : List Char) : Prop where
  filled : text ≠ []
  plain : ∀ c ∈ text, isBlank c = false

instance (text : List Char) : Decidable (Solid text) :=
  decidable_of_iff (text ≠ [] ∧ ∀ c ∈ text, isBlank c = false)
    ⟨fun ⟨filled, plain⟩ => ⟨filled, plain⟩, fun ⟨filled, plain⟩ => ⟨filled, plain⟩⟩

theorem Flush.cons {c : Char} (plain : isBlank c = false) (rest : List Char) : Flush (c :: rest) := by
  intro d first
  rw [← Option.some.inj first]
  exact plain

theorem Solid.flush {word : List Char} (solid : Solid word) (rest : List Char) : Flush (word ++ rest) := by
  cases word with
  | nil => exact absurd rfl solid.filled
  | cons c word => exact .cons (solid.plain c List.mem_cons_self) _

theorem Gap.isBlank_head {gap : List Char} (spaced : Gap gap) (rest : List Char) :
    ∀ c ∈ (gap ++ rest).head?, isBlank c = true := by
  cases gap with
  | nil => exact absurd rfl spaced.filled
  | cons c gap =>
      intro d first
      rw [← Option.some.inj first]
      exact spaced.blanks c List.mem_cons_self

theorem append_blanks_inj {blanks other rest tail : List Char} (all : Blanks blanks)
    (allToo : Blanks other) (flush : Flush rest) (flushToo : Flush tail)
    (same : blanks ++ rest = other ++ tail) : blanks = other ∧ rest = tail :=
  append_run_inj all allToo flush flushToo same

theorem append_word_eq {word other gap space rest tail : List Char} (solid : Solid word)
    (solidToo : Solid other) (spaced : Gap gap) (spacedToo : Gap space)
    (same : word ++ (gap ++ rest) = other ++ (space ++ tail)) :
    word = other ∧ gap ++ rest = space ++ tail := by
  have plain {word : List Char} (solid : Solid word) (c : Char) (member : c ∈ word) :
      (!isBlank c) = true := by
    rw [solid.plain c member]
    rfl
  have stops {gap : List Char} (spaced : Gap gap) (rest : List Char) (c : Char)
      (first : c ∈ (gap ++ rest).head?) : (!isBlank c) = false := by
    rw [spaced.isBlank_head rest c first]
    rfl
  exact append_run_inj (plain solid) (plain solidToo) (stops spaced rest) (stops spacedToo tail) same

theorem append_word_inj {word other gap space rest tail : List Char} (solid : Solid word)
    (solidToo : Solid other) (spaced : Gap gap) (spacedToo : Gap space) (flush : Flush rest)
    (flushToo : Flush tail) (same : word ++ (gap ++ rest) = other ++ (space ++ tail)) :
    word = other ∧ rest = tail := by
  obtain ⟨words, spaces⟩ := append_word_eq solid solidToo spaced spacedToo same
  exact ⟨words, (append_blanks_inj spaced.blanks spacedToo.blanks flush flushToo spaces).2⟩

def Spaced (text rest : List Char) : Prop :=
  ∃ gap, text = gap ++ rest ∧ Gap gap

theorem Spaced.unique {text rest tail : List Char} (flush : Flush rest) (flushToo : Flush tail)
    (spaced : Spaced text rest) (spacedToo : Spaced text tail) : rest = tail := by
  obtain ⟨gap, rfl, gaps⟩ := spaced
  obtain ⟨space, same, gapsToo⟩ := spacedToo
  exact (append_blanks_inj gaps.blanks gapsToo.blanks flush flushToo same).2

/-- The character `first`, and all up to the next character `last`; `rest` stands behind that. -/
def Enclosed (first last : Char) (text rest : List Char) : Prop :=
  ∃ inner, text = first :: (inner ++ last :: rest) ∧ last ∉ inner

theorem Enclosed.unique {first last : Char} {text rest tail : List Char}
    (enclosed : Enclosed first last text rest) (enclosedToo : Enclosed first last text tail) : rest = tail := by
  obtain ⟨inner, rfl, none⟩ := enclosed
  obtain ⟨other, same, noneToo⟩ := enclosedToo
  have inside {inner : List Char} (none : last ∉ inner) (c : Char) (member : c ∈ inner) :
      decide (c ≠ last) = true := by
    refine decide_eq_true ?_
    rintro rfl
    exact none member
  have ends (rest : List Char) (c : Char) (first : c ∈ (last :: rest).head?) : decide (c ≠ last) = false := by
    rw [← Option.some.inj first]
    exact decide_eq_false (not_not_intro rfl)
  obtain ⟨_, behind⟩ :=
    append_run_inj (inside none) (inside noneToo) (ends rest) (ends tail) (List.cons.inj same).2
  exact (List.cons.inj behind).2

/-- Words out of `words`, each with white space behind it, and then `rest`. -/
inductive Led (words : List String) (rest : List Char) : List Char → Prop where
  | here : Led words rest rest
  | word {word : String} {gap text : List Char} :
      word ∈ words → Gap gap → Led words rest text → Led words rest (word.toList ++ (gap ++ text))

namespace Led

variable {words others : List String} {rest text : List Char}

theorem eq_or_exists (led : Led words rest text) :
    text = rest ∨ ∃ word ∈ words, ∃ gap later, text = word.toList ++ (gap ++ later) ∧ Gap gap ∧
      Led words rest later := by
  cases led with
  | here => exact .inl rfl
  | word member spaced later => exact .inr ⟨_, member, _, _, rfl, spaced, later⟩

theorem flush (solid : ∀ word ∈ words, Solid word.toList) (flush : Flush rest)
    (led : Led words rest text) : Flush text := by
  rcases led.eq_or_exists with rfl | ⟨word, member, gap, later, rfl, _⟩
  · exact flush
  · exact (solid word member).flush _

/-- Of a text that is led by some words up to `key`, and by other words up to `tail`, `tail` begins with a
word of the first kind, or with `key`. -/
theorem exists_word {key : String} {gap tail : List Char} (solid : ∀ word ∈ key :: words, Solid word.toList)
    (solidToo : ∀ word ∈ others, Solid word.toList) (new : key ∉ others) (spaced : Gap gap)
    (flushTail : Flush tail) (led : Led words (key.toList ++ (gap ++ rest)) text)
    (ledToo : Led others tail text) :
    ∃ word space left, tail = word.toList ++ (space ++ left) ∧ Gap space ∧
      (word = key ∧ left = rest ∨ word ∈ words ∧ Led words (key.toList ++ (gap ++ rest)) left) := by
  obtain ⟨solidKey, solidWords⟩ := List.forall_mem_cons.mp solid
  induction ledToo with
  | here =>
      rcases led.eq_or_exists with rfl | ⟨word, member, space, left, rfl, spacedToo, later⟩
      · exact ⟨key, gap, rest, rfl, spaced, .inl ⟨rfl, rfl⟩⟩
      · exact ⟨word, space, left, rfl, spacedToo, .inr ⟨member, later⟩⟩
  | @word other space text member spacedToo later ih =>
      have flushText : Flush text := later.flush solidToo flushTail
      rcases led.eq_or_exists with same | ⟨word, inWords, gap, left, same, spacedLed, ledLeft⟩
      · obtain ⟨words, _⟩ := append_word_eq (solidToo other member) solidKey spacedToo spaced same
        rw [String.toList_inj] at words
        exact absurd (words ▸ member) new
      · have flushLeft : Flush left := ledLeft.flush solidWords (solidKey.flush _)
        obtain ⟨_, rfl⟩ := append_word_inj (solidToo other member) (solidWords word inWords) spacedToo
          spacedLed flushText flushLeft same
        exact ih ledLeft

/-- The first word of another kind is fixed, and so is what stands behind it. -/
theorem unique {key other : String} {gap space tail : List Char}
    (solid : ∀ word ∈ key :: other :: words, Solid word.toList) (new : key ∉ words) (newToo : other ∉ words)
    (spaced : Gap gap) (spacedToo : Gap space) (flush : Flush rest) (flushToo : Flush tail)
    (led : Led words (key.toList ++ (gap ++ rest)) text)
    (ledToo : Led words (other.toList ++ (space ++ tail)) text) : key = other ∧ rest = tail := by
  obtain ⟨solidKey, solidTail⟩ := List.forall_mem_cons.mp solid
  obtain ⟨solidOther, solidWords⟩ := List.forall_mem_cons.mp solidTail
  obtain ⟨word, spaceWord, left, same, spacedWord, place⟩ :=
    exists_word (List.forall_mem_cons.mpr ⟨solidKey, solidWords⟩) solidWords new spaced (solidOther.flush _) led
      ledToo
  have solidWord : Solid word.toList := by
    rcases place with ⟨rfl, _⟩ | ⟨member, _⟩
    · exact solidKey
    · exact solidWords word member
  obtain ⟨words, spaces⟩ := append_word_eq solidOther solidWord spacedToo spacedWord same
  rw [String.toList_inj] at words
  subst words
  rcases place with ⟨rfl, rfl⟩ | ⟨member, _⟩
  · exact ⟨rfl, (append_blanks_inj spacedToo.blanks spacedWord.blanks flushToo flush spaces).2.symm⟩
  · exact absurd member newToo

end Led

end Callsite.Text

import Mathlib.Data.List.Induction
import Callsite.Proofs.Language.CallSites
import Callsite.Proofs.Language.Offers

set_option autoImplicit false

/-! Calls as tokens. A token is a maximal run of word characters and dollar signs, and it is called if nothing
but white space stands between it and a parenthesis. The rules for any name list of a called token the longest
identifier that ends it and begins where a word does; behind a dot they also list the token as it is. -/

namespace Callsite

open Pattern Text

/-! ### Tokens -/

/-- The characters of tokens. -/
def inToken (c : Char) : Bool :=
  isWordPart c || c = '$'

theorem inToken_of_identifierPart {c : Char} (part : identifierPart.has c = true) : inToken c = true := by
  rw [inToken, isWordPart_of_identifierPart part]
  by_cases dollar : c = '$' <;> simp [dollar]

theorem isWordPart_of_inToken {c : Char} (part : inToken c = true) : isWordPart c = true ↔ c ≠ '$' := by
  constructor
  · rintro word rfl
    rw [isWordPart_of_identifierPart (by decide)] at word
    contradiction
  · intro other
    rw [inToken, decide_eq_false other, Bool.or_false] at part
    exact part

theorem inToken_of_isBlank {c : Char} (blank : isBlank c = true) : inToken c = false :=
  of_isBlank (fun c => inToken c = false) (by decide +kernel) blank

/-- A maximal run of the characters of tokens in a text. Between it and a parenthesis stands nothing but white
space. -/
structure CalledToken (text before token after : List Char) : Prop where
  whole : text = before ++ (token ++ after)
  filled : token ≠ []
  parts : ∀ c ∈ token, inToken c = true
  starts : ∀ c ∈ before.getLast?, inToken c = false
  called : ∃ space rest, after = space ++ '(' :: rest ∧ Blanks space

/-- An identifier at the end of a token that begins at a word boundary: with a dollar sign behind any other
character, and with another character behind a dollar sign or where the token begins. -/
structure EndsToken (name token : List Char) : Prop where
  isIdentifier : Pattern.isIdentifier name = true
  ends : ∃ front, token = front ++ name ∧ (name.head? = some '$' ↔ ∃ c ∈ front.getLast?, c ≠ '$')

/-- The longest such identifier. -/
structure NamesToken (name token : List Char) : Prop where
  ends : EndsToken name token
  longest : ∀ other, EndsToken other token → other.length ≤ name.length

/-- A text that ends with a dot behind a token, white space aside. -/
def EndsWithDot (before : List Char) : Prop :=
  ∃ front last space gap, before = front ++ last :: (space ++ '.' :: gap) ∧ inToken last = true ∧
    Blanks space ∧ Blanks gap

theorem EndsWithDot.not_inToken_last {before : List Char} (dot : EndsWithDot before) :
    ∀ c ∈ before.getLast?, inToken c = false := by
  obtain ⟨front, last, space, gap, rfl, _, _, blank⟩ := dot
  intro c ends
  have regroup : front ++ last :: (space ++ '.' :: gap) = (front ++ last :: space) ++ '.' :: gap := by
    simp only [List.append_assoc, List.cons_append]
  rw [regroup, List.getLast?_append_of_ne_nil _ (List.cons_ne_nil '.' gap)] at ends
  rcases List.mem_cons.mp (List.mem_of_getLast? ends) with rfl | inGap
  · decide +kernel
  · exact inToken_of_isBlank (blank c inGap)

theorem exists_last_token (text : List Char) :
    ∃ before token, text = before ++ token ∧ (∀ c ∈ token, inToken c = true) ∧
      ∀ c ∈ before.getLast?, inToken c = false := by
  induction text using List.reverseRecOn with
  | nil => exact ⟨[], [], rfl, nofun, nofun⟩
  | append_singleton text c ih =>
      by_cases part : inToken c = true
      · obtain ⟨before, token, rfl, parts, starts⟩ := ih
        refine ⟨before, token ++ [c], List.append_assoc _ _ _, ?_, starts⟩
        exact List.forall_mem_append.mpr ⟨parts, List.forall_mem_singleton.mpr part⟩
      · refine ⟨text ++ [c], [], (List.append_nil _).symm, nofun, ?_⟩
        rw [List.getLast?_concat]
        intro d last
        rw [← Option.some.inj last]
        exact Bool.eq_false_of_not_eq_true part

theorem exists_front_of_append {before front leading more : List Char} (parts : ∀ c ∈ more, inToken c = true)
    (starts : ∀ c ∈ before.getLast?, inToken c = false) (same : leading ++ more = before ++ front) :
    ∃ rest, leading = before ++ rest ∧ front = rest ++ more := by
  rcases List.append_eq_append_iff.mp same with ⟨rest, rfl, rfl⟩ | ⟨rest, rfl, rfl⟩
  · cases List.eq_nil_or_concat' rest with
    | inl none =>
        subst none
        exact ⟨[], by simp, rfl⟩
    | inr some =>
        obtain ⟨init, last, rfl⟩ := some
        have part := parts last (by simp)
        have outside := starts last (by simp)
        rw [part] at outside
        contradiction
  · exact ⟨rest, rfl, rfl⟩

/-! ### Word boundaries -/

def MeetAtBoundary (before after : List Char) : Prop :=
  Look.inWord false before.getLast? ≠ Look.inWord false after.head?

theorem inWord_getLast?_iff {before front : List Char} (starts : ∀ c ∈ before.getLast?, inToken c = false)
    (parts : ∀ c ∈ front, inToken c = true) :
    Look.inWord false (before ++ front).getLast? = true ↔ ∃ c ∈ front.getLast?, c ≠ '$' := by
  rcases List.eq_nil_or_concat' front with rfl | ⟨init, last, rfl⟩
  · refine iff_of_false ?_ nofun
    rw [List.append_nil]
    cases ends : before.getLast? with
    | none => exact Bool.false_ne_true
    | some c =>
        intro word
        have word : isWordPart c = true := word
        have outside := starts c ends
        rw [inToken, word, Bool.true_or] at outside
        contradiction
  · have inside := parts last (by simp)
    rw [← List.append_assoc, List.getLast?_concat, List.getLast?_concat]
    refine (isWordPart_of_inToken inside).trans ⟨fun other => ⟨last, rfl, other⟩, ?_⟩
    rintro ⟨c, ends, other⟩
    rwa [← Option.some.inj ends] at other

theorem inWord_head?_iff {name : List Char} (filled : name ≠ []) (parts : ∀ c ∈ name, inToken c = true) :
    Look.inWord false name.head? = true ↔ name.head? ≠ some '$' := by
  obtain ⟨c, rest, rfl⟩ := List.exists_cons_of_ne_nil filled
  refine (isWordPart_of_inToken (parts c List.mem_cons_self)).trans ?_
  rw [List.head?_cons, ne_eq, ne_eq, Option.some.injEq]

/-- In a token, words begin next to dollar signs only. -/
theorem meetAtBoundary_iff {before front name : List Char} (starts : ∀ c ∈ before.getLast?, inToken c = false)
    (parts : ∀ c ∈ front ++ name, inToken c = true) (filled : name ≠ []) :
    MeetAtBoundary (before ++ front) name ↔ (name.head? = some '$' ↔ ∃ c ∈ front.getLast?, c ≠ '$') := by
  obtain ⟨inFront, inName⟩ := List.forall_mem_append.mp parts
  have dollar : name.head? = some '$' ↔ ¬Look.inWord false name.head? = true :=
    iff_not_comm.mp (inWord_head?_iff filled inName)
  rw [← inWord_getLast?_iff starts inFront, dollar, MeetAtBoundary]
  generalize Look.inWord false (before ++ front).getLast? = left
  generalize Look.inWord false name.head? = right
  revert left right
  decide

/-! ### Listed calls -/

theorem CalledToken.endsToken_iff {text before front name after : List Char}
    (tokens : CalledToken text before (front ++ name) after) (shape : isIdentifier name = true) :
    MeetAtBoundary (before ++ front) name ↔ EndsToken name (front ++ name) := by
  rw [meetAtBoundary_iff tokens.starts tokens.parts (identifierPart_of_isIdentifier shape).1]
  constructor
  · exact fun begins => ⟨shape, front, rfl, begins⟩
  · rintro ⟨_, other, same, begins⟩
    cases List.append_cancel_right same
    exact begins

/-- A call that the rule for any name lists. -/
def Frame.Lists (frame : Frame) (text called : List Char) : Prop :=
  ∃ found ∈ (frame.fill identifier).findAll text, ∃ ahead name behind,
    frame.Calls found.start called ahead name behind ∧ ahead.naming name behind = found.way

namespace Shipped

variable {text leading called space rest : List Char} {start : Cursor}

/-! ### Calls by name -/

theorem exists_plain_way (reached : (Cursor.start text).Reaches leading start)
    (split : start.rest = called ++ (space ++ '(' :: rest)) (blank : Blanks space) (filled : called ≠ [])
    (boundary : MeetAtBoundary leading called) :
    ∃ way, way ∈ (plainCall.fill (literals called)).ways start := by
  have inFront : Way.here start ∈ (sequence plainCall.front).ways start := by
    refine mem_front_plainCall_iff.mpr ⟨rfl, ?_⟩
    rw [reached.before_start, split, List.head?_append_of_ne_nil _ filled]
    exact boundary
  rw [List.append_cons] at split
  exact Frame.exists_mem_ways_fill inFront split (.literals _) (.paren blank)

theorem plain_boundary {ahead name behind : Way} (reached : (Cursor.start text).Reaches leading start)
    (calls : plainCall.Calls start called ahead name behind) :
    MeetAtBoundary leading called ∧ IsCalled called start.rest := by
  obtain ⟨rfl, boundary⟩ := mem_front_plainCall_iff.mp calls.passes.inFront
  have isCalled : IsCalled called start.rest := calls.isCalled
  refine ⟨?_, isCalled⟩
  obtain ⟨space, rest, split, _⟩ := isCalled
  have filled := (identifierPart_of_isIdentifier calls.shape).1
  rw [reached.before_start, split, List.head?_append_of_ne_nil _ filled] at boundary
  exact boundary

theorem not_listed_within {skipped : List Char} {cover found : Found} (some : skipped ≠ [])
    (covers : cover ∈ (plainCall.fill identifier).findAll text)
    (finds : found ∈ (plainCall.fill identifier).findAll text)
    (reaches : cover.start.Reaches skipped found.start) {ahead name behind : Way}
    (calls : plainCall.Calls cover.start (skipped ++ called) ahead name behind)
    (same : ahead.naming name behind = cover.way) (filled : called ≠ []) : False := by
  obtain ⟨rfl, _⟩ := mem_front_plainCall_iff.mp calls.passes.inFront
  have early : cover.start.offset < found.start.offset := reaches.offset_lt some
  obtain ⟨middle, first, second⟩ := calls.reaches.split
  cases reaches.unique first
  obtain ⟨space, _, onward⟩ := calls.space
  have late : found.start.offset < cover.stop := by
    rw [Found.stop, ← same]
    exact Nat.lt_of_lt_of_le (second.offset_lt filled) onward.offset_le
  have other : cover ≠ found := by
    rintro rfl
    exact Nat.lt_irrefl _ early
  obtain ⟨_, moves, _⟩ := exists_reaches_of_mem_ways (stands_of_mem_findAll finds).way
  rcases apart_of_mem_findAll covers finds other with ahead | behind
  · exact Nat.not_lt_of_le ahead late
  · exact Nat.not_lt_of_le (Nat.le_trans moves.offset_le behind) early

theorem exists_calledToken {ahead name behind : Way} (reached : (Cursor.start text).Reaches leading start)
    (calls : plainCall.Calls start called ahead name behind) :
    ∃ before front after, leading = before ++ front ∧ CalledToken text before (front ++ called) after ∧
      EndsToken called (front ++ called) := by
  obtain ⟨boundary, space, rest, split, blank⟩ := plain_boundary reached calls
  obtain ⟨filled, parts⟩ := identifierPart_of_isIdentifier calls.shape
  obtain ⟨before, front, rfl, inFront, starts⟩ := exists_last_token leading
  have tokens : CalledToken text before (front ++ called) (space ++ '(' :: rest) := by
    refine ⟨?_, List.append_ne_nil_of_right_ne_nil _ filled, ?_, starts, space, rest, rfl, blank⟩
    · have whole : text = before ++ front ++ start.rest := reached.rest_eq
      rw [whole, split]
      simp only [List.append_assoc]
    · exact List.forall_mem_append.mpr ⟨inFront, fun c member => inToken_of_identifierPart (parts c member)⟩
  exact ⟨before, front, _, rfl, tokens, (tokens.endsToken_iff calls.shape).mp boundary⟩

theorem exists_listed_of_endsToken {before front name after : List Char}
    (tokens : CalledToken text before (front ++ name) after) (ends : EndsToken name (front ++ name)) :
    ∃ start, (Cursor.start text).Reaches (before ++ front) start ∧
      ∃ cover ∈ (plainCall.fill identifier).findAll text, ∃ more ahead called behind,
        plainCall.Calls cover.start (more ++ name) ahead called behind ∧
          ahead.naming called behind = cover.way ∧ cover.start.Reaches more start := by
  obtain ⟨space, rest, rfl, blank⟩ := tokens.called
  have whole : (Cursor.start text).rest = (before ++ front) ++ (name ++ (space ++ '(' :: rest)) := by
    rw [Cursor.start, tokens.whole]
    simp only [List.append_assoc]
  obtain ⟨start, reached, split⟩ := Cursor.exists_reaches whole
  have filled := (identifierPart_of_isIdentifier ends.isIdentifier).1
  have boundary := (tokens.endsToken_iff ends.isIdentifier).mpr ends
  obtain ⟨way, member⟩ := exists_plain_way reached split blank filled boundary
  exact ⟨start, reached, exists_listed_end ends.isIdentifier reached member⟩

/-- No longer name ends the token: a call by it would be listed, and overlap the one that is. -/
theorem length_le_of_listed {before front after other : List Char} {found : Found}
    (finds : found ∈ (plainCall.fill identifier).findAll text) {ahead name behind : Way}
    (calls : plainCall.Calls found.start called ahead name behind)
    (reached : (Cursor.start text).Reaches (before ++ front) found.start)
    (tokens : CalledToken text before (front ++ called) after) (ends : EndsToken other (front ++ called)) :
    other.length ≤ called.length := by
  by_contra longer
  obtain ⟨frontOther, sameToken, _⟩ := ends.ends
  obtain ⟨more, rfl, rfl⟩ : ∃ more, front = frontOther ++ more ∧ other = more ++ called := by
    rcases List.append_eq_append_iff.mp sameToken with ⟨more, _, rfl⟩ | ⟨more, rfl, rfl⟩
    · rw [List.length_append] at longer
      exact absurd (Nat.le_add_left _ _) longer
    · exact ⟨more, rfl, rfl⟩
  have some : more ≠ [] := by
    rintro rfl
    exact longer (Nat.le_refl _)
  rw [List.append_assoc] at tokens ends
  obtain ⟨start, reachedOther, cover, covers, skipped, _, _, _, callsOther, sameOther, reaches⟩ :=
    exists_listed_of_endsToken tokens ends
  rw [← List.append_assoc] at reached callsOther
  obtain ⟨middle, early, late⟩ := reached.split
  cases early.unique reachedOther
  exact not_listed_within (List.append_ne_nil_of_right_ne_nil _ some) covers finds (reaches.trans late)
    callsOther sameOther (identifierPart_of_isIdentifier calls.shape).1

/-- The calls by name are the longest names that end called tokens. -/
theorem plain_lists_iff : plainCall.Lists text called ↔
    ∃ before token after, CalledToken text before token after ∧ NamesToken called token := by
  constructor
  · rintro ⟨found, finds, ahead, name, behind, calls, _⟩
    obtain ⟨leading, reached⟩ := (stands_of_mem_findAll finds).start
    obtain ⟨before, front, after, rfl, tokens, ends⟩ := exists_calledToken reached calls
    exact ⟨before, _, after, tokens, ends,
      fun other endsToo => length_le_of_listed finds calls reached tokens endsToo⟩
  · rintro ⟨before, token, after, tokens, names⟩
    obtain ⟨front, rfl, _⟩ := names.ends.ends
    obtain ⟨start, reached, cover, finds, more, ahead, name, behind, calls, same, early⟩ :=
      exists_listed_of_endsToken tokens names.ends
    obtain ⟨leading, reachedCover⟩ := (stands_of_mem_findAll finds).start
    have joined : leading ++ more = before ++ front :=
      (reachedCover.trans early).eq_of_rest reached.rest_eq
    have inMore (c : Char) (member : c ∈ more) : inToken c = true :=
      inToken_of_identifierPart (calls.parts c (List.mem_append_left _ member))
    obtain ⟨other, rfl, rfl⟩ := exists_front_of_append inMore tokens.starts joined
    rw [List.append_assoc] at tokens names
    have ends := (tokens.endsToken_iff calls.shape).mp (plain_boundary reachedCover calls).1
    have longest := names.longest _ ends
    have none : more = [] := by
      rw [List.length_append] at longest
      exact List.length_eq_zero_iff.mp (by omega)
    subst none
    exact ⟨cover, finds, ahead, name, behind, calls, same⟩

/-! ### Calls behind a dot -/

theorem exists_member_way {last : Char} {gap gapToo : List Char}
    (split : start.rest = [last] ++ (gap ++ (['.'] ++ (gapToo ++ (called ++ (space ++ '(' :: rest))))))
    (part : inToken last = true) (blank : Blanks gap) (blankToo : Blanks gapToo) (blankSpace : Blanks space) :
    ∃ way, way ∈ (memberCall.fill (literals called)).ways start := by
  have has : (CharSet.union (.union .nothing (.named .wordPart)) (.single '$')).has last = true := by
    simpa [CharSet.has, CharSet.has_single_iff, CharClass.has, inToken] using part
  have front {rest : List Char} :
      (sequence memberCall.front).Offers ([last] ++ (gap ++ (['.'] ++ (gapToo ++ [])))) rest :=
    (Offers.chars has).sequence_cons ((Offers.blanks blank).sequence_cons
      ((Offers.single '.').sequence_cons ((Offers.blanks blankToo).sequence_cons .sequence_nil)))
  have whole : start.rest = ([last] ++ (gap ++ (['.'] ++ (gapToo ++ [])))) ++
      (called ++ ((space ++ ['(']) ++ rest)) := by
    rw [split]
    simp only [List.append_assoc, List.cons_append, List.nil_append]
  obtain ⟨stop, reaches, left⟩ := Cursor.exists_reaches whole
  obtain ⟨ahead, inFront, rfl⟩ := front reaches left
  exact Frame.exists_mem_ways_fill inFront left (.literals _) (.paren blankSpace)

/-- The calls behind a dot are the called tokens there, if they are identifiers. -/
theorem member_lists_iff : memberCall.Lists text called ↔ isIdentifier called = true ∧
    ∃ before after, CalledToken text before called after ∧ EndsWithDot before := by
  constructor
  · rintro ⟨found, finds, ahead, name, behind, calls, _⟩
    obtain ⟨leading, reached⟩ := (stands_of_mem_findAll finds).start
    obtain ⟨last, gap, gapToo, dotted, wordly, blank, blankToo⟩ := exists_dotted calls.passes.inFront
    obtain ⟨space, rest, split, blankSpace⟩ := calls.isCalled
    obtain ⟨filled, parts⟩ := identifierPart_of_isIdentifier calls.shape
    have dot : EndsWithDot (leading ++ last :: (gap ++ '.' :: gapToo)) := by
      refine ⟨leading, last, gap, gapToo, rfl, ?_, blank, blankToo⟩
      rwa [inToken, Bool.or_eq_true, decide_eq_true_eq]
    have whole : text = leading ++ last :: (gap ++ '.' :: gapToo) ++ (called ++ (space ++ '(' :: rest)) := by
      have whole : text = leading ++ found.start.rest := reached.rest_eq
      rw [whole, dotted, split]
      simp only [List.append_assoc, List.cons_append]
    exact ⟨calls.shape, _, _, ⟨whole, filled, fun c member => inToken_of_identifierPart (parts c member),
      dot.not_inToken_last, space, rest, rfl, blankSpace⟩, dot⟩
  · rintro ⟨shape, before, after, tokens, leading, last, gap, gapToo, rfl, part, blank, blankToo⟩
    obtain ⟨space, rest, rfl, blankSpace⟩ := tokens.called
    have whole : (Cursor.start text).rest =
        leading ++ ([last] ++ (gap ++ (['.'] ++ (gapToo ++ (called ++ (space ++ '(' :: rest)))))) := by
      rw [Cursor.start, tokens.whole]
      simp only [List.append_assoc, List.cons_append, List.nil_append]
    obtain ⟨start, reached, split⟩ := Cursor.exists_reaches whole
    obtain ⟨way, member⟩ := exists_member_way split part blank blankToo blankSpace
    obtain ⟨cover, finds, _, _, _, _, calls, same, rfl⟩ := exists_listed_member shape reached member
    exact ⟨cover, finds, _, _, _, calls, same⟩

/-! ### Shipped languages -/

/-- The rules of a language for any name list, of a called token, the longest name that ends it, and behind a
dot the token itself. -/
def ListsTokens (name line : String) (language : Language) : Prop :=
  (∃ hit ∈ language.callHits line, hit.name = name) ↔
    ∃ before token after, CalledToken line.toList before token after ∧
      (NamesToken name.toList token ∨
        name.toList = token ∧ isIdentifier token = true ∧ EndsWithDot before)

theorem listsTokens (name line : String) {table : LanguageTable} (member : table ∈ generic :: tables) :
    ListsTokens name line table.language := by
  obtain ⟨rules, compiled, fills⟩ := compileAll_of_framed callTemplates_framed none
  have listed : table.language.callRules = rules := callRules_eq member compiled
  obtain ⟨plain, dotted, rfl, plainFills, dottedFills⟩ := exists_pair fills
  have hits : (∃ hit ∈ table.language.callHits line, hit.name = name) ↔
      plainCall.Lists line.toList name.toList ∨ memberCall.Lists line.toList name.toList := by
    rw [Frame.Lists, Frame.Lists, ← plainFills.exists_hit_iff rfl, ← dottedFills.exists_hit_iff rfl]
    simp only [Language.callHits, List.mem_mergeSort, listed, List.flatMap_cons, List.flatMap_nil,
      List.append_nil, List.mem_append, or_and_right, exists_or, String.toList_inj]
  rw [ListsTokens, hits, plain_lists_iff, member_lists_iff]
  constructor
  · rintro (⟨before, token, after, tokens, names⟩ | ⟨shape, before, after, tokens, dot⟩)
    · exact ⟨before, token, after, tokens, .inl names⟩
    · exact ⟨before, name.toList, after, tokens, .inr ⟨rfl, shape, dot⟩⟩
  · rintro ⟨before, token, after, tokens, names | ⟨rfl, shape, dot⟩⟩
    · exact .inl ⟨before, token, after, tokens, names⟩
    · exact .inr ⟨shape, before, after, tokens, dot⟩

/-- Which names the rules of a shipped language list on a line. -/
theorem callHits_name_iff (languageName line name : String) :
    (∃ hit ∈ (registry.language languageName).callHits line, hit.name = name) ↔
      ∃ before token after, CalledToken line.toList before token after ∧
        (NamesToken name.toList token ∨
          name.toList = token ∧ isIdentifier token = true ∧ EndsWithDot before) := by
  have every : registry.Every (ListsTokens name line) :=
    registry_every fun _ member => listsTokens name line member
  exact every.language languageName

end Shipped

namespace Dollar

/-- A line on which an identifier that begins with a dollar sign is called. -/
def line : String :=
  "$foo(1)"

theorem listed :
    ((Shipped.registry.language "javascript").callRules.flatMap (·.findAll line)).map Hit.name = ["foo"] := by
  decide +kernel

/-- A called token that is an identifier need not be listed. -/
theorem token_unlisted : (∃ before after, CalledToken line.toList before "$foo".toList after) ∧
    isIdentifier "$foo".toList = true ∧
      ∀ hit ∈ (Shipped.registry.language "javascript").callHits line, hit.name ≠ "$foo" := by
  have shape : isIdentifier "$foo".toList = true := by decide
  refine ⟨⟨[], "(1)".toList, ?_⟩, shape, fun hit member => ?_⟩
  · have parts : ∀ c ∈ "$foo".toList, inToken c = true := fun c inName =>
      inToken_of_identifierPart ((identifierPart_of_isIdentifier shape).2 c inName)
    exact ⟨by decide, by decide, parts, nofun, [], "1)".toList, by decide, nofun⟩
  · have name := List.mem_map_of_mem (f := Hit.name) (List.mem_mergeSort.mp member)
    rw [listed, List.mem_singleton] at name
    rw [name]
    decide

end Dollar

end Callsite

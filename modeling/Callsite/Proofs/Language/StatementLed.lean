import Callsite.Proofs.Language.CallSites
import Callsite.Proofs.Language.FindableScopes
import Callsite.Proofs.Language.NearestScopes
import Callsite.Proofs.Language.Offers
import Callsite.Proofs.Language.Tokens
import Callsite.Proofs.Outcome
import Callsite.Proofs.Pattern.Kinds

set_option autoImplicit false
set_option maxRecDepth 8000

/-! Lines that begin with a statement word. The rules that take something else in front of a name take this word
too, and the hit is dropped. The fallback rule has to take nothing: then the word itself is what it finds. -/

namespace Callsite

open Pattern Text

/-! ### Lines that open with a name -/

/-- The line opens with the name, and behind it comes a parenthesis, with no semicolon further on. -/
def OpensWith (name line : List Char) : Prop :=
  ∃ space gap rest, line = space ++ (name ++ (gap ++ '(' :: rest)) ∧ Blanks space ∧ Blanks gap ∧ ';' ∉ rest

namespace FirstToken

variable {word space text name : List Char}

theorem of_blanks_append (blank : Blanks space) (first : FirstToken word (space ++ text)) :
    FirstToken word text := by
  induction space with
  | nil => exact first
  | cons c space ih =>
      obtain ⟨here, later⟩ := List.forall_mem_cons.mp blank
      obtain ⟨filled, parts, lead, rest, whole, blankLead, stops⟩ := first
      refine ih later ⟨filled, parts, ?_⟩
      cases lead with
      | nil =>
          obtain ⟨d, more, rfl⟩ := List.exists_cons_of_ne_nil filled
          have part := parts d List.mem_cons_self
          rw [← (List.cons.inj whole).1, isTokenPart_of_isBlank here] at part
          contradiction
      | cons d lead => exact ⟨lead, rest, (List.cons.inj whole).2, (List.forall_mem_cons.mp blankLead).2, stops⟩

theorem of_append_paren {gap rest : List Char} (blank : Blanks gap)
    (first : FirstToken word (name ++ (gap ++ '(' :: rest))) : FirstToken word name := by
  obtain ⟨filled, parts, lead, tail, whole, blankLead, stops⟩ := first
  rcases List.append_eq_append_iff.mp (whole.trans (List.append_assoc _ _ _).symm) with
    ⟨left, split, behind⟩ | ⟨more, rfl, rfl⟩
  · -- The rest of the token would be white space.
    have noParen : '(' ∉ left := by
      intro member
      have inToken : '(' ∈ lead ++ word := split ▸ List.mem_append_right name member
      rcases List.mem_append.mp inToken with inLead | inWord
      · exact absurd (blankLead _ inLead) (by decide)
      · exact absurd (parts _ inWord) (by decide)
    have inGap : left <+: gap := prefix_of_notMem ⟨tail, behind.symm⟩ noParen
    have none : left = [] := by
      by_contra some
      have last := (getLast?_eq_of_append_eq split filled some).trans (List.getLast?_eq_some_getLast some)
      have spaced := blank _ (inGap.subset (List.getLast_mem some))
      have part := parts _ (List.mem_of_getLast? last)
      rw [isTokenPart_of_isBlank spaced] at part
      contradiction
    rw [none, List.append_nil] at split
    exact ⟨filled, parts, lead, [], by rw [← split, List.append_nil], blankLead, nofun⟩
  · refine ⟨filled, parts, lead, more, List.append_assoc _ _ _, blankLead, fun c head => stops c ?_⟩
    rw [List.head?_append, Option.mem_def.mp head]
    rfl

theorem eq_of_parts (first : FirstToken word name) (parts : ∀ c ∈ name, isTokenPart c = true) : name = word := by
  obtain ⟨_, _, space, rest, rfl, blank, stops⟩ := first
  have noSpace : space = [] := by
    rw [List.eq_nil_iff_forall_not_mem]
    intro c member
    have part := parts c (List.mem_append_left _ member)
    rw [isTokenPart_of_isBlank (blank c member)] at part
    contradiction
  have noRest : rest = [] := by
    cases rest with
    | nil => rfl
    | cons c rest =>
        have part := parts c (by simp)
        rw [stops c rfl] at part
        contradiction
  rw [noSpace, noRest, List.append_nil, List.nil_append]

end FirstToken

/-! ### What rules take in front of a name -/

def CharSet.lacksBlanks (set : CharSet) : Bool :=
  blankCodes.all fun code => !set.has (Char.ofNat code)

/-- The sets of white space and of a colon, which stand between tokens. -/
def CharSet.separatesTokens (set : CharSet) : Bool :=
  set = .named .blank || set = .single ':'

theorem goesPastToken_of_hasInOrder {text : List Char}
    (has : HasInOrder CharSet.lacksBlanks CharSet.separatesTokens text) : GoesPastToken text := by
  obtain ⟨first, second, split, ⟨c, inFirst, set, lacks, hasC⟩, d, inSecond, other, parting, hasD⟩ := has
  refine ⟨first, second, split, ⟨c, inFirst, ?_⟩, d, inSecond, ?_⟩
  · by_contra blank
    rw [Bool.not_eq_false] at blank
    have none (code : Nat) (member : code ∈ blankCodes) : set.has (Char.ofNat code) = false := by
      simpa using List.all_eq_true.mp lacks code member
    have lacksC := of_isBlank (fun c => set.has c = false) none blank
    rw [hasC] at lacksC
    contradiction
  · rw [CharSet.separatesTokens, Bool.or_eq_true, decide_eq_true_eq, decide_eq_true_eq] at parting
    rcases parting with rfl | rfl
    · exact isTokenPart_of_isBlank hasD
    · rw [CharSet.has_single_iff.mp hasD]
      decide +kernel

/-- Whatever the rule takes in front of a name goes past the first token of the line. -/
def Frame.GoesPastToken (frame : Frame) : Prop :=
  (sequence frame.front).takesInOrder CharSet.lacksBlanks CharSet.separatesTokens = true

instance (frame : Frame) : Decidable frame.GoesPastToken :=
  inferInstanceAs (Decidable (_ = _))

namespace Rule.Fills

variable {rule : Rule} {frame : Frame} {body : Pattern} {line : String} {hit : Hit}

/-- Where the rule goes past the first token, a statement word that the line begins with leads the hit. -/
theorem led_of_goesPast (fills : rule.Fills frame body) (anchored : frame.Anchored) (plain : body.groups = [])
    (past : frame.GoesPastToken) {words : List String} {word : String} (listed : word ∈ words)
    (first : FirstToken word.toList line.toList) (hits : rule.find? line = some hit) :
    precededByWord line hit.start words = true := by
  obtain ⟨before, after, _, whole, start, takes, _⟩ := fills.exists_before anchored plain hits
  obtain ⟨taken, split, keeps⟩ := takes.exists_keepsKinds
  obtain rfl : before = taken := List.append_cancel_right (whole.symm.trans split)
  rw [start, precededByWord_iff whole]
  rw [whole] at first
  exact ⟨word, listed, first.mem_tokens_of_goesPast (goesPastToken_of_hasInOrder (keeps.inOrder past))⟩

end Rule.Fills

/-! ### The fallback rule -/

/-- The number of characters in front of the first parenthesis, white space aside. -/
def solidCount (text : List Char) : Nat :=
  (text.takeWhile (· ≠ '(')).countP fun c => !isBlank c

section

variable {text rest gap name word : List Char}

theorem solidCount_append (none : '(' ∉ text) (rest : List Char) :
    solidCount (text ++ rest) = solidCount text + solidCount rest := by
  have others : ∀ c ∈ text, decide (c ≠ '(') = true := by
    rintro c member
    exact decide_eq_true (ne_of_mem_of_not_mem member none)
  have whole : text.takeWhile (· ≠ '(') = text := by
    have alone : (text ++ []).takeWhile (· ≠ '(') = text ++ [].takeWhile (· ≠ '(') :=
      List.takeWhile_append_of_pos others
    rwa [List.append_nil, List.takeWhile_nil, List.append_nil] at alone
  rw [solidCount, solidCount, solidCount, List.takeWhile_append_of_pos others, List.countP_append, whole]

theorem solidCount_of_blanks (blank : Blanks text) : solidCount text = 0 := by
  rw [solidCount, List.countP_eq_zero]
  intro c member
  rw [blank c ((List.takeWhile_sublist _).subset member)]
  decide

theorem solidCount_pos (filled : text ≠ []) (parts : ∀ c ∈ text, isTokenPart c = true) : 0 < solidCount text := by
  obtain ⟨c, rest, rfl⟩ := List.exists_cons_of_ne_nil filled
  have part := parts c List.mem_cons_self
  have other : c ≠ '(' := by
    rintro rfl
    exact absurd part (by decide)
  simp [solidCount, other, isBlank_of_isTokenPart part]

theorem notMem_of_blanks (blank : Blanks text) : '(' ∉ text :=
  fun member => absurd (blank _ member) (by decide)

theorem solidCount_append_paren (blank : Blanks gap) (name rest : List Char) :
    solidCount (name ++ (gap ++ '(' :: rest)) = solidCount name := by
  induction name with
  | nil =>
      rw [List.nil_append, solidCount_append (notMem_of_blanks blank), solidCount_of_blanks blank]
      rfl
  | cons c name ih =>
      simp only [solidCount, List.cons_append, List.takeWhile_cons] at ih ⊢
      split
      · rw [List.countP_cons, List.countP_cons, ih]
      · rfl

end

namespace Shipped

/-- The front of the fallback rule goes past the first token, or takes nothing but white space. -/
theorem genericFront_cases {text rest : List Char} (takes : (sequence genericFunction.front).Takes text rest) :
    ∃ before, text = before ++ rest ∧ '(' ∉ before ∧ (GoesPastToken before ∨ Blanks before) := by
  obtain ⟨before, whole, none⟩ := takes.avoids (c := '(') (by decide +kernel)
  refine ⟨before, whole, none, ?_⟩
  obtain ⟨space, lead, split, blank, later⟩ := takes.lineStart
  have words : (optional true (repeated true (seq (repeated true (chars (wordAnd ['$']))) gap))).Takes lead rest :=
    later
  rcases words.optional with words | same
  · obtain ⟨taken, rfl, keeps⟩ := words.exists_keepsKinds
    have same : before ++ rest = (space ++ taken) ++ rest := by
      rw [← whole, split, List.append_assoc]
    obtain rfl : before = space ++ taken := List.append_cancel_right same
    obtain ⟨first, second, rfl, ⟨c, inFirst, solid⟩, later⟩ :=
      goesPastToken_of_hasInOrder (keeps.inOrder (by decide +kernel))
    exact .inl ⟨space ++ first, second, (List.append_assoc _ _ _).symm,
      ⟨c, List.mem_append_right _ inFirst, solid⟩, later⟩
  · subst same
    exact .inr (List.append_cancel_right (split.symm.trans whole) ▸ blank)

theorem genericBack {text rest : List Char} (takes : (sequence genericFunction.back).Takes text rest) :
    ∃ gap more, text = gap ++ '(' :: more ∧ Blanks gap ∧ ';' ∉ more := by
  obtain ⟨gap, more, split, blank, later⟩ := Takes.mark takes
  exact ⟨gap, more, split, blank, not_mem_of_unfinished later⟩

variable {rule : Rule} {body : Pattern} {line : String} {hit : Hit} {words : List String} {word : String}

theorem exists_before_of_generic (fills : rule.Fills genericFunction body) (plain : body.groups = [])
    (hits : rule.find? line = some hit) :
    ∃ before gap rest, line.toList = before ++ (hit.name.toList ++ (gap ++ '(' :: rest)) ∧
      hit.start = byteLength before ∧ '(' ∉ before ∧ Blanks gap ∧ ';' ∉ rest ∧
        (GoesPastToken before ∨ Blanks before) := by
  obtain ⟨before, after, rest, whole, start, front, back⟩ := fills.exists_before rfl plain hits
  obtain ⟨taken, split, none, place⟩ := genericFront_cases front
  obtain rfl : before = taken := List.append_cancel_right (whole.symm.trans split)
  obtain ⟨gap, more, rfl, blank, noneMore⟩ := genericBack back
  exact ⟨before, gap, more, whole, start, none, blank, noneMore, place⟩

theorem opensWith_of_unled (fills : rule.Fills genericFunction body) (plain : body.groups = [])
    (hits : rule.find? line = some hit) (listed : word ∈ words) (first : FirstToken word.toList line.toList)
    (unled : precededByWord line hit.start words = false) : OpensWith hit.name.toList line.toList := by
  obtain ⟨before, gap, rest, whole, start, _, blank, none, place⟩ := exists_before_of_generic fills plain hits
  rcases place with past | blankBefore
  · rw [whole] at first
    have led : precededByWord line hit.start words = true := by
      rw [start, precededByWord_iff whole]
      exact ⟨word, listed, first.mem_tokens_of_goesPast past⟩
    rw [unled] at led
    contradiction
  · exact ⟨before, gap, rest, whole, blankBefore, blank, none⟩

/-- If the line opens with a name that the rule looks for, the rule finds something that no statement word leads.
For a hit behind the word, there are not enough characters in front of the parenthesis. -/
theorem exists_unled_of_opensWith (fills : rule.Fills genericFunction body) (plain : body.groups = [])
    {name : List Char} (offers : ∀ rest, body.Offers name rest) (opens : OpensWith name line.toList)
    (first : FirstToken word.toList line.toList) (solid : "" ∉ words)
    (more : ∀ hit, rule.find? line = some hit →
      solidCount name < solidCount word.toList + solidCount hit.name.toList) :
    ∃ hit, rule.find? line = some hit ∧ precededByWord line hit.start words = false := by
  obtain ⟨space, gap, rest, whole, blank, blankGap, none⟩ := opens
  have onward : line.toList = space ++ (name ++ ((gap ++ '(' :: rest) ++ [])) := by
    rw [List.append_nil]
    exact whole
  have ahead : (sequence [blanks, anyNumber true (seq (repeated true (chars (wordAnd ['$']))) Pattern.gap)]).Offers
      (space ++ ([] ++ [])) (name ++ ((gap ++ '(' :: rest) ++ [])) :=
    (Offers.blanks blank).sequence_cons ((Offers.anyNumber .here).sequence_cons .sequence_nil)
  rw [List.append_nil, List.append_nil] at ahead
  obtain ⟨hit, hits⟩ := fills.exists_hit plain rfl onward ahead (offers _) (.unfinishedLine blankGap none)
  obtain ⟨before, gapToo, restToo, wholeToo, start, noParen, blankToo, _, place⟩ :=
    exists_before_of_generic fills plain hits
  refine ⟨hit, hits, ?_⟩
  have count : solidCount before + solidCount hit.name.toList = solidCount name := by
    have same := congrArg solidCount (wholeToo.symm.trans whole)
    rwa [solidCount_append noParen, solidCount_append_paren blankToo, solidCount_append (notMem_of_blanks blank),
      solidCount_append_paren blankGap, solidCount_of_blanks blank, Nat.zero_add] at same
  rcases place with past | blankBefore
  · exfalso
    rw [wholeToo] at first
    obtain ⟨lead, behind, rfl, _, _⟩ := first.exists_of_goesPast past
    simp only [List.mem_append, not_or] at noParen
    rw [solidCount_append noParen.1, solidCount_append noParen.2.1] at count
    have enough := more hit hits
    omega
  · rw [start, ← Bool.not_eq_true, precededByWord_iff wholeToo]
    rintro ⟨other, listed, member⟩
    have empty : other = "" := by
      rw [← String.toList_inj]
      exact eq_nil_of_mem_tokens blankBefore member
    exact solid (empty ▸ listed)

end Shipped

/-! ### Comments -/

/-- A line that begins with a token is no comment, if no comment begins like one. -/
theorem FirstToken.isComment_eq_false {language : Language} {word : List Char} {line : String}
    (first : FirstToken word line.toList)
    (apart : ∀ lead ∈ language.table.commentPrefixes, lead.toList.head?.any (!isTokenPart ·) = true) :
    language.isComment line = false := by
  obtain ⟨filled, parts, space, rest, whole, blank, _⟩ := first
  obtain ⟨c, more, rfl⟩ := List.exists_cons_of_ne_nil filled
  have part := parts c List.mem_cons_self
  have stays : ¬isBlank c = true := by
    rw [isBlank_of_isTokenPart part]
    exact Bool.false_ne_true
  have trimmed : trimStart line.toList = c :: (more ++ rest) := by
    rw [trimStart, whole, List.dropWhile_append_of_pos blank, List.cons_append, List.dropWhile_cons_of_neg stays]
  have begins : trimEnd (trimStart line.toList) <+: trimStart line.toList := ⟨_, (append_trimEnd _).symm⟩
  have other {d : Char} {lead : List Char} (outside : isTokenPart d = false)
      (leads : d :: lead <+: trimEnd (trimStart line.toList)) : False := by
    have same := trimmed ▸ leads.trans begins
    rw [(List.cons_prefix_cons.mp same).1, part] at outside
    contradiction
  by_contra comment
  rw [Bool.not_eq_false, Language.isComment, Bool.or_eq_true, decide_eq_true_eq, List.any_eq_true] at comment
  rcases comment with star | ⟨lead, listed, leads⟩
  · have alone : ['*'] <+: trimEnd (trimStart line.toList) := star ▸ List.prefix_rfl
    exact other (by decide) alone
  · obtain ⟨d, head, outside⟩ := (Option.any_eq_true _ _).mp (apart lead listed)
    obtain ⟨inner, split⟩ := List.head?_eq_some_iff.mp head
    rw [Bool.not_eq_true'] at outside
    exact other outside (split ▸ List.isPrefixOf_iff_prefix.mp leads)

/-! ### Languages -/

/-- The language declares nothing on the line, whose first token is the word: unless it is the fallback language,
and the line opens with the target, or with the word itself, where this is no keyword. -/
structure Language.ReadsStatement (language : Language) (word line target : String) : Prop where
  declares : ∃ rules, language.rulesFor target = .ok rules ∧ ((rules.declaration? line).isSome = true ↔
    language.name = "generic" ∧ OpensWith target.toList line.toList)
  opens : ∀ scope, language.enclosingFunction? [line] 0 none = some scope ↔
    language.name = "generic" ∧ language.isKeyword word = false ∧ OpensWith word.toList line.toList ∧
      scope = ⟨word, 1, .function, false⟩

namespace Language

variable {language : Language} {line : String} {scope : Scope}

theorem enclosingFunction?_singleton (line : String) :
    language.enclosingFunction? [line] 0 none = language.scopeOpenedBy? [.function] 1 line := by
  rw [enclosingFunction?, enclosing?_zero]
  rfl

theorem scopeOpenedBy?_function_iff {number : Nat} :
    language.scopeOpenedBy? [.function] number line = some scope ↔ language.isComment line = false ∧
      ∃ hit, language.openerHit? language.functionOpeners line = some hit ∧
        scope = ⟨hit.name, number, .function, hit.kind = .abstractDeclaration⟩ := by
  rw [scopeOpenedBy?, Option.ite_none_left_eq_some, Bool.not_eq_true, List.findSome?_singleton,
    Option.map_eq_some_iff]
  refine and_congr_right fun _ => exists_congr fun hit => and_congr_right fun _ => eq_comm

end Language

namespace Shipped

/-- The tables other than the fallback table have no statement words, or go past the first token. -/
theorem tables_goPastToken : ∀ table ∈ tables, table.name ≠ "generic" ∧
    (table.statementWords = [] ∨ ∃ frames, FramedAll table.declarations frames ∧
      ∀ frame ∈ frames, frame.GoesPastToken) := by
  simp only [tables, List.forall_mem_cons]
  exact ⟨⟨by decide, .inl rfl⟩, ⟨by decide, .inl rfl⟩, ⟨by decide, .inl rfl⟩,
    ⟨by decide, .inr ⟨_, java_framed, by decide +kernel⟩⟩,
    ⟨by decide, .inr ⟨_, csharp_framed, by decide +kernel⟩⟩, ⟨by decide, .inl rfl⟩, ⟨by decide, .inl rfl⟩,
    ⟨by decide, .inr ⟨_, cpp_framed, by decide +kernel⟩⟩, ⟨by decide, .inl rfl⟩, ⟨by decide, .inl rfl⟩,
    List.forall_mem_nil _⟩

variable {word line target : String}

theorem readsStatement_of_goesPast {table : LanguageTable} (member : table ∈ generic :: tables)
    (other : table.name ≠ "generic") {frames : List Frame} (framed : FramedAll table.declarations frames)
    (past : ∀ frame ∈ frames, frame.GoesPastToken) (listed : word ∈ table.statementWords)
    (first : FirstToken word.toList line.toList) : table.language.ReadsStatement word line target := by
  have notFallback : table.language.name ≠ "generic" := other
  constructor
  · obtain ⟨declarations, calls, compiled, compiledDeclarations, _⟩ := exists_rulesFor member target
    obtain ⟨rules, compiledToo, each⟩ := framed.exists_rules past (some target)
    cases Except.ok.inj (compiledDeclarations.symm.trans compiledToo)
    refine ⟨_, compiled, iff_of_false (fun some => ?_) fun both => notFallback both.1⟩
    obtain ⟨hit, declared⟩ := Option.isSome_iff_exists.mp some
    obtain ⟨rule, inRules, kept⟩ := List.exists_of_findSome?_eq_some declared
    obtain ⟨hits, unled⟩ := Option.filter_eq_some_iff.mp kept
    obtain ⟨frame, fills, anchored, goes⟩ := each rule inRules
    rw [fills.led_of_goesPast anchored (groups_literals _) goes listed first hits] at unled
    contradiction
  · intro scope
    refine iff_of_false (fun found => ?_) fun all => notFallback all.1
    rw [Language.enclosingFunction?_singleton, Language.scopeOpenedBy?_function_iff] at found
    obtain ⟨_, hit, opened, _⟩ := found
    obtain ⟨rules, compiled, each⟩ := framed.exists_rules past none
    have openers : table.language.functionOpeners = rules := rulesOf_eq compiled
    obtain ⟨rule, inRules, hits, _, unled⟩ := Language.exists_rule_of_openerHit? opened
    rw [openers] at inRules
    obtain ⟨frame, fills, anchored, goes⟩ := each rule inRules
    have led : table.language.isStatementLed line hit.start = true :=
      fills.led_of_goesPast anchored rfl goes listed first hits
    rw [led] at unled
    contradiction

theorem opensWith_iff_of_fills {rule : Rule} (fills : rule.Fills genericFunction (literals target.toList))
    (listed : word ∈ generic.statementWords) (first : FirstToken word.toList line.toList) :
    (∃ hit, rule.find? line = some hit ∧ precededByWord line hit.start generic.statementWords = false) ↔
      OpensWith target.toList line.toList := by
  constructor
  · rintro ⟨hit, hits, unled⟩
    rw [← (fills.hit_eq rfl hits).1]
    exact opensWith_of_unled fills (groups_literals _) hits listed first unled
  · intro opens
    refine exists_unled_of_opensWith fills (groups_literals _) (fun _ => .literals _) opens first (by decide) ?_
    intro hit hits
    rw [(fills.hit_eq rfl hits).1]
    exact Nat.lt_add_of_pos_left (solidCount_pos first.filled first.parts)

theorem named_of_unled {rule : Rule} (fills : rule.Fills genericFunction identifier)
    (listed : word ∈ generic.statementWords) (first : FirstToken word.toList line.toList) {hit : Hit}
    (hits : rule.find? line = some hit) (unled : precededByWord line hit.start generic.statementWords = false) :
    hit.name = word ∧ OpensWith word.toList line.toList := by
  have opens := opensWith_of_unled fills rfl hits listed first unled
  obtain ⟨space, gap, rest, whole, blank, blankGap, _⟩ := id opens
  rw [whole] at first
  have parts := (identifierPart_of_isIdentifier (fills.isIdentifier_of_find? rfl hits)).2
  have inName : FirstToken word.toList hit.name.toList :=
    (first.of_blanks_append blank).of_append_paren blankGap
  have same : hit.name.toList = word.toList :=
    inName.eq_of_parts fun c member => isTokenPart_of_identifierPart (parts c member)
  exact ⟨String.toList_inj.mp same, same ▸ opens⟩

theorem exists_hit_of_opensWith {rule : Rule} (fills : rule.Fills genericFunction identifier)
    (listed : word ∈ generic.statementWords) (first : FirstToken word.toList line.toList)
    (opens : OpensWith word.toList line.toList) :
    ∃ hit, rule.find? line = some hit ∧ precededByWord line hit.start generic.statementWords = false := by
  have identifiers : ∀ word ∈ generic.statementWords, isIdentifier word.toList = true := by decide
  have shape := identifiers word listed
  refine exists_unled_of_opensWith fills rfl (fun _ => .identifier shape) opens first (by decide) ?_
  intro hit hits
  obtain ⟨filled, parts⟩ := identifierPart_of_isIdentifier (fills.isIdentifier_of_find? rfl hits)
  refine Nat.lt_add_of_pos_right (solidCount_pos filled fun c member => ?_)
  exact isTokenPart_of_identifierPart (parts c member)

theorem readsStatement_of_generic (listed : word ∈ generic.statementWords)
    (first : FirstToken word.toList line.toList) : generic.language.ReadsStatement word line target := by
  obtain ⟨frees, targets, compiledFrees, compiledTargets, paired⟩ := paired_of_framed generic_framed target
  have single : Paired target [(.declaration, genericFunction)] frees targets := paired
  obtain ⟨free, rule, fillsFree, fillsRule, kind, rfl, rfl⟩ : ∃ free rule, free.Fills genericFunction identifier ∧
      rule.Fills genericFunction (literals target.toList) ∧ free.kind = .declaration ∧ frees = [free] ∧
        targets = [rule] := by
    cases single with
    | cons fillsFree fillsRule kind _ _ others =>
        cases others
        exact ⟨_, _, fillsFree, fillsRule, kind, rfl, rfl⟩
  have same : generic.language.name = "generic" := rfl
  constructor
  · obtain ⟨declarations, calls, compiled, compiledDeclarations, _⟩ := exists_rulesFor List.mem_cons_self target
    cases Except.ok.inj (compiledDeclarations.symm.trans compiledTargets)
    refine ⟨_, compiled, ?_⟩
    rw [and_iff_right same, ← opensWith_iff_of_fills fillsRule listed first, TargetRules.declaration?,
      firstDeclaration, List.findSome?_singleton, Option.isSome_iff_exists]
    refine exists_congr fun hit => ?_
    rw [Option.filter_eq_some_iff, Bool.not_eq_true']
  · intro scope
    have openers : generic.language.functionOpeners = [free] := rulesOf_eq compiledFrees
    have text : generic.language.isComment line = false := first.isComment_eq_false (by decide)
    have opened (hit : Hit) : generic.language.openerHit? [free] line = some hit ↔ free.find? line = some hit ∧
        generic.language.isKeyword hit.name = false ∧
          precededByWord line hit.start generic.statementWords = false := by
      rw [Language.openerHit?, List.findSome?_singleton, Option.filter_eq_some_iff, Bool.and_eq_true,
        Bool.not_eq_true', Bool.not_eq_true']
      rfl
    rw [Language.enclosingFunction?_singleton, Language.scopeOpenedBy?_function_iff, openers, and_iff_right text,
      and_iff_right same]
    have declared {hit : Hit} (hits : free.find? line = some hit) :
        decide (hit.kind = .abstractDeclaration) = false := by
      rw [Rule.kind_of_find? hits, kind]
      rfl
    constructor
    · rintro ⟨hit, hits, rfl⟩
      obtain ⟨finds, plain, unled⟩ := (opened hit).mp hits
      obtain ⟨rfl, opens⟩ := named_of_unled fillsFree listed first finds unled
      rw [declared finds]
      exact ⟨plain, opens, rfl⟩
    · rintro ⟨plain, opens, rfl⟩
      obtain ⟨hit, finds, unled⟩ := exists_hit_of_opensWith fillsFree listed first opens
      obtain ⟨rfl, _⟩ := named_of_unled fillsFree listed first finds unled
      refine ⟨hit, (opened hit).mpr ⟨finds, plain, unled⟩, ?_⟩
      rw [declared finds]

/-- On a line whose first token is a statement word of the language, only the fallback language declares
anything: it takes a target that the line opens with for a function, and the word itself, where it is no
keyword. -/
theorem readsStatement (languageName line target : String) {word : String}
    (listed : word ∈ (registry.language languageName).table.statementWords)
    (first : FirstToken word.toList line.toList) :
    (registry.language languageName).ReadsStatement word line target := by
  have every : registry.Every fun language =>
      word ∈ language.table.statementWords → language.ReadsStatement word line target := by
    refine registry_every fun table member listed => ?_
    rcases List.mem_cons.mp member with rfl | shipped
    · exact readsStatement_of_generic listed first
    · have statements : word ∈ table.statementWords := listed
      obtain ⟨other, none | ⟨frames, framed, past⟩⟩ := tables_goPastToken table shipped
      · exact absurd statements (none ▸ List.not_mem_nil)
      · exact readsStatement_of_goesPast member other framed past listed first
  exact every.language languageName listed

end Shipped

/-! ### A call that is returned, and one that is awaited -/

namespace Returned

def line : String :=
  "  return Compute(a,"

theorem first : FirstToken "return".toList line.toList where
  filled := by decide
  parts := by decide
  starts := by
    refine ⟨"  ".toList, " Compute(a,".toList, by decide, by decide, ?_⟩
    rintro _ ⟨⟩
    decide

theorem nothing_declared : "return" ∈ (Shipped.registry.language "csharp").table.statementWords ∧
    FirstToken "return".toList line.toList ∧
      (∃ rules, (Shipped.registry.language "csharp").rulesFor "Compute" = .ok rules ∧
        rules.declaration? line = none) ∧
      (Shipped.registry.language "csharp").enclosingFunction? [line] 0 none = none := by
  have listed : "return" ∈ (Shipped.registry.language "csharp").table.statementWords := by decide +kernel
  have other : (Shipped.registry.language "csharp").name ≠ "generic" := by decide +kernel
  have reads := Shipped.readsStatement "csharp" line "Compute" listed first
  obtain ⟨rules, compiled, declares⟩ := reads.declares
  refine ⟨listed, first, ⟨rules, compiled, ?_⟩, ?_⟩
  · rw [← Option.not_isSome_iff_eq_none, declares]
    exact fun both => other both.1
  · rw [Option.eq_none_iff_forall_ne_some]
    exact fun scope found => other ((reads.opens scope).mp found).1

end Returned

namespace Awaited

def line : String :=
  "await (x,"

theorem first : FirstToken "await".toList line.toList where
  filled := by decide
  parts := by decide
  starts := by
    refine ⟨[], " (x,".toList, by decide, by decide, ?_⟩
    rintro _ ⟨⟩
    decide

theorem declared : ((Shipped.registry.language "generic").rulesFor "await").toOption.bind
    (·.declaration? line) = some ⟨"await", 0, 9, .declaration⟩ := by
  have known : Shipped.registry.language "generic" = Shipped.generic.language := rfl
  -- The rules are taken from their frames, since to read the templates once more is slow.
  rw [known, Shipped.generic_framed.rulesFor_eq rfl]
  decide +kernel

/-- A word that begins a statement passes for a function that is declared. -/
theorem await_declared : "await" ∈ (Shipped.registry.language "generic").table.statementWords ∧
    FirstToken "await".toList line.toList ∧
      (∃ rules, (Shipped.registry.language "generic").rulesFor "await" = .ok rules ∧
        rules.declaration? line = some ⟨"await", 0, 9, .declaration⟩) ∧
      (Shipped.registry.language "generic").enclosingFunction? [line] 0 none =
        some ⟨"await", 1, .function, false⟩ := by
  obtain ⟨rules, compiled, found⟩ := Option.bind_eq_some_iff.mp declared
  exact ⟨by decide +kernel, first, ⟨rules, eq_ok_of_toOption compiled, found⟩, by decide +kernel⟩

end Awaited

end Callsite

import Callsite.Toml.Printer
import Mathlib.Tactic.SplitIfs

set_option autoImplicit false

/-! Quoted strings read back, in each of the four styles. Only rows of quotes need care: over several lines
one or two of them stand for themselves, and those at the end run into the closing ones. -/

namespace Callsite.Toml

/-! ### One character -/

section

variable {lines : Bool} {state next : QuoteState} {c value : Char} {rest content after : List Char}

theorem readQuoted_of_go (step : quoteStep lines state c rest = .go next)
    (read : readQuoted lines next rest = some (content, after)) :
    readQuoted lines state (c :: rest) = some (content, after) := by
  rw [readQuoted, step]
  exact read

theorem readQuoted_of_add (step : quoteStep lines state c rest = .add value next)
    (read : readQuoted lines next rest = some (content, after)) :
    readQuoted lines state (c :: rest) = some (value :: content, after) := by
  rw [readQuoted, step]
  simp only [read, Option.bind_eq_bind, Option.bind_some]

theorem escapedChar?_of_escapeLetter? {letter : Char} (escapes : escapeLetter? lines c = some letter) :
    escapedChar? letter = some c := by
  unfold escapeLetter? at escapes
  split_ifs at escapes <;> cases escapes <;> subst c <;> rfl

theorem hexDigit?_hexDigit : ∀ value < 16, hexDigit? (hexDigit value) = some value := by
  decide

theorem charOf?_toNat (c : Char) : charOf? c.toNat = some c :=
  (if_pos c.valid).trans (congrArg some c.ofNat_toNat)

theorem isPlain_of_not_isControl (harmless : isControl c = false) (notBreak : c ≠ '\n') :
    isPlain c = true := by
  by_cases tab : c = '\t'
  · rw [tab]
    rfl
  · simp only [isControl, ne_eq, tab, not_false_eq_true, decide_true, Bool.and_true, notBreak,
      Bool.or_eq_false_iff, decide_eq_false_iff_not, Nat.not_lt] at harmless
    simp only [isPlain, Bool.or_eq_true, Bool.and_eq_true, decide_eq_true_eq]
    exact Or.inr harmless

theorem plainStep_of_harmless (notQuote : c ≠ '"') (unescaped : escapeLetter? lines c = none)
    (harmless : isControl c = false) : plainStep lines c rest = .add c .plain := by
  have notBackslash : c ≠ '\\' := by
    rintro rfl
    cases unescaped
  rw [plainStep, if_neg notQuote, if_neg notBackslash]
  by_cases isBreak : c = '\n'
  · subst isBreak
    cases lines
    · cases unescaped
    · rfl
  · rw [if_pos (isPlain_of_not_isControl harmless isBreak)]

theorem readQuoted_code (small : c.toNat < 256)
    (read : readQuoted lines .plain rest = some (content, after)) :
    readQuoted lines .plain
        ('\\' :: 'u' :: '0' :: '0' :: hexDigit (c.toNat / 16) :: hexDigit (c.toNat % 16) :: rest) =
      some (c :: content, after) := by
  have high := hexDigit?_hexDigit (c.toNat / 16) (Nat.div_lt_of_lt_mul small)
  have low := hexDigit?_hexDigit (c.toNat % 16) (Nat.mod_lt _ (by decide))
  have highStep : quoteStep lines (.number 2 0) (hexDigit (c.toNat / 16))
      (hexDigit (c.toNat % 16) :: rest) = .go (.number 1 (c.toNat / 16)) := by
    simp [quoteStep, high]
  have lowStep : quoteStep lines (.number 1 (c.toNat / 16)) (hexDigit (c.toNat % 16)) rest =
      .add c .plain := by
    simp [quoteStep, low, Nat.div_add_mod, charOf?_toNat]
  refine readQuoted_of_go rfl (readQuoted_of_go rfl (readQuoted_of_go rfl (readQuoted_of_go rfl ?_)))
  exact readQuoted_of_go highStep (readQuoted_of_add lowStep read)

theorem readQuoted_escapedChar (notQuote : c ≠ '"')
    (read : readQuoted lines .plain rest = some (content, after)) :
    readQuoted lines .plain (escapedChar lines c ++ rest) = some (c :: content, after) := by
  rw [escapedChar]
  cases escapes : escapeLetter? lines c with
  | some letter =>
      have meant := escapedChar?_of_escapeLetter? escapes
      refine readQuoted_of_go rfl (readQuoted_of_add ?_ read)
      rw [quoteStep, meant]
  | none =>
      dsimp only
      by_cases control : isControl c = true
      · rw [if_pos control]
        refine readQuoted_code ?_ read
        simp only [isControl, Bool.or_eq_true, Bool.and_eq_true, decide_eq_true_eq] at control
        omega
      · rw [if_neg control]
        refine readQuoted_of_add ?_ read
        exact plainStep_of_harmless notQuote escapes (Bool.eq_false_iff.mpr control)

end

/-! ### Rows of quotes -/

section

variable {quote : Char} {count : Nat} {rest after : List Char}

/-- Quotes in a row close a string, and those of them that are too many belong to it. -/
theorem closing?_row (few : count ≤ 4) (apart : rest.head? ≠ some quote) :
    closing? quote (List.replicate count quote ++ rest) =
      if count < 2 then none else some (List.replicate (count - 2) quote, rest) := by
  have stops : rest.takeWhile (· = quote) = [] := by
    cases rest with
    | nil => rfl
    | cons first more =>
        have other : first ≠ quote := fun same => apart (congrArg some same)
        rw [List.takeWhile_cons_of_neg (by simpa using other)]
  have row : ((List.replicate count quote ++ rest).takeWhile (· = quote)).length = count := by
    rw [List.takeWhile_append_of_pos fun c member => by simp [List.eq_of_mem_replicate member], stops,
      List.append_nil, List.length_replicate]
  rw [closing?, row]
  dsimp only
  split
  · rfl
  · have kept : min (count - 2) 2 = count - 2 := by omega
    have all : 2 + (count - 2) = (List.replicate count quote).length := by
      rw [List.length_replicate]
      omega
    rw [kept, all, List.drop_left]

/-- Whether a quote closes a string of which only `count` further quotes and `rest` are left. -/
theorem closing?_inside (few : count ≤ 1) (apart : rest.head? ≠ some quote)
    (apartToo : after.head? ≠ some quote) :
    closing? quote (List.replicate count quote ++ rest ++ quote :: quote :: quote :: after) =
      if rest = [] then some (List.replicate (count + 1) quote, after) else none := by
  cases rest with
  | nil =>
      have row : List.replicate count quote ++ [] ++ quote :: quote :: quote :: after =
          List.replicate (count + 3) quote ++ after := by
        simp [List.replicate_succ']
      rw [row, closing?_row (by omega) apartToo, if_neg (by omega), if_pos rfl]
      rfl
  | cons first more =>
      have apartStill : (first :: more ++ quote :: quote :: quote :: after).head? ≠ some quote := apart
      rw [List.append_assoc, closing?_row (by omega) apartStill, if_pos (by omega),
        if_neg (List.cons_ne_nil _ _)]

theorem exists_row (quote : Char) (text : List Char) :
    ∃ count rest, text = List.replicate count quote ++ rest ∧ rest.head? ≠ some quote := by
  induction text with
  | nil => exact ⟨0, [], rfl, nofun⟩
  | cons c text ih =>
      by_cases same : c = quote
      · obtain ⟨count, rest, rfl, apart⟩ := ih
        exact ⟨count + 1, rest, by rw [same, List.replicate_succ, List.cons_append], apart⟩
      · exact ⟨0, c :: text, rfl, fun head => same (Option.some.inj head)⟩

theorem le_longestRow (row : Nat) : row ≤ longestRow quote row rest := by
  induction rest generalizing row with
  | nil => exact Nat.le_refl row
  | cons c rest ih =>
      rw [longestRow]
      split
      · exact Nat.le_trans (Nat.le_succ row) (ih (row + 1))
      · exact Nat.le_max_left _ _

theorem add_le_longestRow (row : Nat) :
    row + count ≤ longestRow quote row (List.replicate count quote ++ rest) := by
  induction count generalizing row with
  | zero => exact le_longestRow row
  | succ count ih =>
      rw [List.replicate_succ, List.cons_append, longestRow, if_pos rfl]
      have := ih (row + 1)
      omega

theorem not_mem_of_longestRow {text : List Char} (none : longestRow quote 0 text = 0) : quote ∉ text := by
  induction text with
  | nil => exact List.not_mem_nil
  | cons c rest ih =>
      rw [longestRow] at none
      split at none
      · have one : 0 + 1 ≤ longestRow quote (0 + 1) rest := le_longestRow _
        omega
      · rename_i other
        rw [Nat.zero_max] at none
        rw [List.mem_cons, not_or]
        exact ⟨Ne.symm other, ih none⟩

end

/-! ### Between double quotes -/

theorem escapedChar_head (lines : Bool) (c : Char) :
    ∃ first more, escapedChar lines c = first :: more ∧
      (first = '\\' ∨ first = c ∧ isControl c = false) := by
  rw [escapedChar]
  cases escapeLetter? lines c with
  | some letter => exact ⟨_, _, rfl, Or.inl rfl⟩
  | none =>
      dsimp only
      split
      · exact ⟨_, _, rfl, Or.inl rfl⟩
      · rename_i harmless
        exact ⟨c, [], rfl, Or.inr ⟨rfl, Bool.eq_false_iff.mpr harmless⟩⟩

theorem escapedChar_head_ne {lines : Bool} {c : Char} (notQuote : c ≠ '"') (rest : List Char) :
    (escapedChar lines c ++ rest).head? ≠ some '"' := by
  obtain ⟨first, more, written, rfl | ⟨rfl, _⟩⟩ := escapedChar_head lines c
  · rw [written]
    nofun
  · rw [written]
    exact fun same => notQuote (Option.some.inj same)

theorem readQuoted_escaped_line (text : List Char) (quotes : Nat) (after : List Char) :
    readQuoted false .plain (escaped false quotes text ++ '"' :: after) = some (text, after) := by
  induction text generalizing quotes with
  | nil => rfl
  | cons c text ih =>
      rw [escaped]
      by_cases isQuote : c = '"'
      · rw [if_pos isQuote, Bool.false_and, if_neg Bool.false_ne_true, isQuote]
        exact readQuoted_of_go rfl (readQuoted_of_add rfl (ih 0))
      · rw [if_neg isQuote, List.append_assoc]
        exact readQuoted_escapedChar isQuote (ih 0)

/-- The row of quotes that begins what is written after `quotes` quotes. If nothing else is written, the text
is that row. -/
theorem exists_row_escaped (text : List Char) {quotes : Nat} (few : quotes ≤ 2) :
    ∃ count rest, escaped true quotes text = List.replicate count '"' ++ rest ∧ rest.head? ≠ some '"' ∧
      quotes + count ≤ 2 ∧ (rest = [] → text = List.replicate count '"') := by
  induction text generalizing quotes with
  | nil => exact ⟨0, [], rfl, nofun, few, fun _ => rfl⟩
  | cons c text ih =>
      rw [escaped]
      by_cases isQuote : c = '"'
      · rw [if_pos isQuote, Bool.true_and]
        by_cases another : quotes < 2
        · obtain ⟨count, rest, row, apart, few, whole⟩ := ih (Nat.succ_le_of_lt another)
          refine ⟨count + 1, rest, ?_, apart, by omega, fun nothing => ?_⟩
          · rw [if_pos (decide_eq_true another), row, List.replicate_succ, List.cons_append]
          · rw [isQuote, whole nothing, List.replicate_succ]
        · rw [if_neg (by simpa using another)]
          exact ⟨0, _, rfl, nofun, few, nofun⟩
      · rw [if_neg isQuote]
        refine ⟨0, _, rfl, escapedChar_head_ne isQuote _, few, fun nothing => ?_⟩
        obtain ⟨first, more, written, _⟩ := escapedChar_head true c
        rw [written] at nothing
        cases nothing

theorem readQuoted_of_closing {rest quotes after : List Char}
    (closes : closing? '"' rest = some (quotes, after)) :
    readQuoted true .plain ('"' :: rest) = some (quotes, after) := by
  have step : quoteStep true .plain '"' rest = .close quotes after := by
    rw [quoteStep, plainStep, if_pos rfl, if_pos rfl, closes]
  rw [readQuoted, step]

theorem readQuoted_of_not_closing {rest content after : List Char} (stays : closing? '"' rest = none)
    (read : readQuoted true .plain rest = some (content, after)) :
    readQuoted true .plain ('"' :: rest) = some ('"' :: content, after) := by
  refine readQuoted_of_add ?_ read
  rw [quoteStep, plainStep, if_pos rfl, if_pos rfl, stays]

/-- Over several lines a text reads back wherever in it the reading begins, `quotes` quotes before. -/
theorem readQuoted_escaped_lines (text : List Char) {quotes : Nat} (few : quotes ≤ 2) {after : List Char}
    (apart : after.head? ≠ some '"') :
    readQuoted true .plain (escaped true quotes text ++ '"' :: '"' :: '"' :: after) = some (text, after) := by
  induction text generalizing quotes with
  | nil => exact readQuoted_of_closing (closing?_row (by decide : 2 ≤ 4) apart)
  | cons c text ih =>
      rw [escaped]
      by_cases isQuote : c = '"'
      · rw [if_pos isQuote, Bool.true_and, isQuote]
        by_cases another : quotes < 2
        · obtain ⟨count, rest, row, apartToo, fewer, whole⟩ :=
            exists_row_escaped text (show quotes + 1 ≤ 2 from another)
          have one : count ≤ 1 := by omega
          have closes := closing?_inside one apartToo apart
          rw [← row] at closes
          rw [if_pos (decide_eq_true another), List.cons_append]
          -- Only quotes that go on to the end of the text are taken for a part of the closing row.
          by_cases nothing : rest = []
          · rw [if_pos nothing] at closes
            rw [List.replicate_succ, ← whole nothing] at closes
            exact readQuoted_of_closing closes
          · rw [if_neg nothing] at closes
            exact readQuoted_of_not_closing closes (ih another)
        · rw [if_neg (by simpa using another)]
          exact readQuoted_of_go rfl (readQuoted_of_add rfl (ih (Nat.zero_le 2)))
      · rw [if_neg isQuote, List.append_assoc]
        exact readQuoted_escapedChar isQuote (ih (Nat.zero_le 2))

/-! ### Between single quotes -/

section

variable {lines : Bool} {c : Char} {rest content quotes after : List Char}

theorem readLiteral_of_closing (closes : closing? '\'' rest = some (quotes, after)) :
    readLiteral true ('\'' :: rest) = some (quotes, after) := by
  simp only [readLiteral, if_true, closes]

theorem readLiteral_of_not_closing (stays : closing? '\'' rest = none)
    (read : readLiteral true rest = some (content, after)) :
    readLiteral true ('\'' :: rest) = some ('\'' :: content, after) := by
  simp only [readLiteral, if_true, stays, read, Option.bind_eq_bind, Option.bind_some]

theorem readLiteral_of_harmless (notQuote : c ≠ '\'') (harmless : isControl c = false)
    (broken : c = '\n' → lines = true) (read : readLiteral lines rest = some (content, after)) :
    readLiteral lines (c :: rest) = some (c :: content, after) := by
  rw [readLiteral]
  by_cases isBreak : c = '\n'
  · subst isBreak
    rw [broken rfl] at read ⊢
    simp [read]
  · have plain := isPlain_of_not_isControl harmless isBreak
    simp only [if_neg notQuote, if_pos plain, read, Option.bind_eq_bind, Option.bind_some]

end

theorem readLiteral_line {text : List Char}
    (bare : ∀ c ∈ text, c ≠ '\'' ∧ c ≠ '\n' ∧ isControl c = false) (after : List Char) :
    readLiteral false (text ++ '\'' :: after) = some (text, after) := by
  induction text with
  | nil => rfl
  | cons c text ih =>
      obtain ⟨⟨notQuote, notBreak, harmless⟩, bare⟩ := List.forall_mem_cons.mp bare
      exact readLiteral_of_harmless notQuote harmless (fun isBreak => absurd isBreak notBreak) (ih bare)

/-- A text with no more than two quotes in a row, `row` of which may have gone before, reads back. -/
theorem readLiteral_lines {text : List Char} (harmless : ∀ c ∈ text, isControl c = false) {row : Nat}
    (few : longestRow '\'' row text ≤ 2) {after : List Char} (apart : after.head? ≠ some '\'') :
    readLiteral true (text ++ '\'' :: '\'' :: '\'' :: after) = some (text, after) := by
  induction text generalizing row with
  | nil => exact readLiteral_of_closing (closing?_row (by decide : 2 ≤ 4) apart)
  | cons c text ih =>
      obtain ⟨harmlessHere, harmless⟩ := List.forall_mem_cons.mp harmless
      rw [longestRow] at few
      by_cases isQuote : c = '\''
      · rw [if_pos isQuote] at few
        rw [isQuote, List.cons_append]
        have read := ih harmless few
        obtain ⟨count, rest, rfl, apartToo⟩ := exists_row '\'' text
        have one : count ≤ 1 := by
          have := Nat.le_trans (add_le_longestRow (row + 1)) few
          omega
        have closes := closing?_inside one apartToo apart
        by_cases nothing : rest = []
        · rw [if_pos nothing] at closes
          rw [readLiteral_of_closing closes, nothing, List.append_nil, List.replicate_succ]
        · rw [if_neg nothing] at closes
          exact readLiteral_of_not_closing closes read
      · rw [if_neg isQuote] at few
        have read := ih harmless (Nat.le_trans (Nat.le_max_right _ _) few)
        exact readLiteral_of_harmless isQuote harmlessHere (fun _ => rfl) read

/-! ### Any style -/

def StringStyle.Suits (text : List Char) : StringStyle → Prop
  | .quoted | .quotedLines => True
  | .literal => ∀ c ∈ text, c ≠ '\'' ∧ c ≠ '\n' ∧ isControl c = false
  | .literalLines => (∀ c ∈ text, isControl c = false) ∧ longestRow '\'' 0 text ≤ 2

theorem styleOf_suits (text : List Char) : (styleOf text).Suits text := by
  have harmless (none : text.any isControl = false) (c : Char) (member : c ∈ text) : isControl c = false :=
    Bool.eq_false_iff.mpr (List.any_eq_false.mp none c member)
  rw [styleOf]
  split_ifs with _ literal _ literalLines
  · trivial
  · simp only [Bool.and_eq_true, Bool.not_eq_true', Bool.or_eq_false_iff, decide_eq_true_eq] at literal
    obtain ⟨⟨noControl, noBreak⟩, noQuote⟩ := literal
    intro c member
    refine ⟨?_, ?_, harmless noControl c member⟩
    · rintro rfl
      exact not_mem_of_longestRow noQuote member
    · rintro rfl
      exact Bool.false_ne_true (noBreak.symm.trans (List.contains_iff_mem.mpr member))
  · trivial
  · simp only [Bool.and_eq_true, Bool.not_eq_true', decide_eq_true_eq] at literalLines
    exact ⟨harmless literalLines.1, literalLines.2⟩
  · trivial
  · trivial

def NoQuote (text : List Char) : Prop :=
  text.head? ≠ some '"' ∧ text.head? ≠ some '\''

theorem dropLineBreak_openingBreak {text rest : List Char}
    (kept : '\n' ∉ text → ∀ c ∈ rest.head?, c ≠ '\n' ∧ isControl c = false) :
    dropLineBreak (openingBreak text ++ rest) = rest := by
  rw [openingBreak]
  split
  · rfl
  · rename_i unbroken
    rw [List.contains_iff_mem] at unbroken
    have harmless := kept unbroken
    rw [List.nil_append, dropLineBreak, lineBreak?]
    · rfl
    · rintro more rfl
      exact (harmless '\n' rfl).1 rfl
    · rintro more rfl
      exact absurd (harmless '\r' rfl).2 (by decide)

section

variable (text after : List Char)

theorem quoted_append :
    writeStyled text .quoted ++ after = '"' :: (escaped false 0 text ++ '"' :: after) := by
  simp [writeStyled]

theorem lineString?_quoted : lineString? (writeStyled text .quoted ++ after) = some (text, after) := by
  rw [quoted_append]
  exact readQuoted_escaped_line text 0 after

theorem literal_append : writeStyled text .literal ++ after = '\'' :: (text ++ '\'' :: after) := by
  simp [writeStyled]

theorem quotedLines_append :
    writeStyled text .quotedLines ++ after =
      '"' :: '"' :: '"' :: (openingBreak text ++ (escaped true 0 text ++ '"' :: '"' :: '"' :: after)) := by
  simp [writeStyled]

theorem literalLines_append :
    writeStyled text .literalLines ++ after =
      '\'' :: '\'' :: '\'' :: (openingBreak text ++ (text ++ '\'' :: '\'' :: '\'' :: after)) := by
  simp [writeStyled]

end

section

variable {text after : List Char}

theorem lineString?_literal (suits : StringStyle.literal.Suits text) (after : List Char) :
    lineString? (writeStyled text .literal ++ after) = some (text, after) := by
  rw [literal_append]
  exact readLiteral_line suits after

theorem string?_eq_lineString? {quote : Char} {rest : List Char}
    (single : ∀ more, rest ≠ quote :: quote :: more) :
    string? (quote :: rest) = lineString? (quote :: rest) := by
  rw [string?]
  · rintro more ⟨⟩
    exact single more rfl
  · rintro more ⟨⟩
    exact single more rfl

theorem string?_quoted (apart : after.head? ≠ some '"') :
    string? (writeStyled text .quoted ++ after) = some (text, after) := by
  rw [← lineString?_quoted text after, quoted_append]
  apply string?_eq_lineString?
  intro more same
  cases text with
  | nil => exact apart (congrArg List.head? (List.cons.inj same).2)
  | cons c text =>
      rw [escaped] at same
      by_cases isQuote : c = '"'
      · rw [if_pos isQuote] at same
        cases same
      · rw [if_neg isQuote, List.append_assoc] at same
        exact escapedChar_head_ne isQuote _ (congrArg List.head? same)

theorem string?_literal (suits : StringStyle.literal.Suits text) (apart : after.head? ≠ some '\'') :
    string? (writeStyled text .literal ++ after) = some (text, after) := by
  rw [← lineString?_literal suits after, literal_append]
  apply string?_eq_lineString?
  intro more same
  cases text with
  | nil => exact apart (congrArg List.head? (List.cons.inj same).2)
  | cons c text => exact (suits c List.mem_cons_self).1 (List.cons.inj same).1

theorem string?_quotedLines (apart : after.head? ≠ some '"') :
    string? (writeStyled text .quotedLines ++ after) = some (text, after) := by
  rw [quotedLines_append, string?, dropLineBreak_openingBreak]
  · exact readQuoted_escaped_lines text (Nat.zero_le 2) apart
  · intro unbroken first isFirst
    cases text with
    | nil =>
        cases isFirst
        decide
    | cons c text =>
        rw [escaped] at isFirst
        by_cases isQuote : c = '"'
        · rw [if_pos isQuote] at isFirst
          cases isFirst
          decide
        · rw [if_neg isQuote] at isFirst
          obtain ⟨head, more, written, kind⟩ := escapedChar_head true c
          rw [written] at isFirst
          cases isFirst
          rcases kind with rfl | ⟨rfl, harmless⟩
          · decide
          · exact ⟨fun isBreak => unbroken (isBreak ▸ List.mem_cons_self), harmless⟩

theorem string?_literalLines (suits : StringStyle.literalLines.Suits text) (apart : after.head? ≠ some '\'') :
    string? (writeStyled text .literalLines ++ after) = some (text, after) := by
  rw [literalLines_append, string?, dropLineBreak_openingBreak]
  · exact readLiteral_lines suits.1 suits.2 apart
  · intro unbroken first isFirst
    cases text with
    | nil =>
        cases isFirst
        decide
    | cons c text =>
        cases isFirst
        exact ⟨fun isBreak => unbroken (isBreak ▸ List.mem_cons_self), suits.1 _ List.mem_cons_self⟩

end

theorem string?_writeString (text : String) {after : List Char} (apart : NoQuote after) :
    string? (writeString text ++ after) = some (text.toList, after) := by
  have suits := styleOf_suits text.toList
  rw [writeString]
  cases styled : styleOf text.toList <;> rw [styled] at suits
  · exact string?_quoted apart.1
  · exact string?_literal suits apart.2
  · exact string?_quotedLines apart.1
  · exact string?_literalLines suits apart.2

end Callsite.Toml

import Callsite.Proofs.Toml.Quoted
import Callsite.Toml.Reader
import Mathlib.Data.List.Basic

set_option autoImplicit false

/-! Values read back: numbers, truth values, strings, and lists of strings. -/

namespace Callsite.Toml

theorem ne_of_accepted {accept : Char → Bool} {c mark : Char} (accepted : accept c = true)
    (refused : accept mark = false) : c ≠ mark := by
  rintro rfl
  exact Bool.false_ne_true (refused.symm.trans accepted)

/-! ### Numbers -/

/-- The digits of a number, none of which leads without need. -/
structure Digits (value : Nat) (digits : List Char) : Prop where
  each : ∀ c ∈ digits, isDigit c = true
  filled : digits ≠ []
  value : valueIn 10 digits = value
  zero : digits.head? = some '0' → digits = ['0']

theorem hexDigit?_of_isDigit {c : Char} (digit : isDigit c = true) : hexDigit? c = some (c.toNat - 48) :=
  if_pos digit

theorem valueIn_eq_ofDigitChars {digits : List Char} (each : ∀ c ∈ digits, isDigit c = true) :
    valueIn 10 digits = Nat.ofDigitChars 10 digits 0 := by
  refine List.foldl_ext _ _ 0 fun value c member => ?_
  rw [hexDigit?_of_isDigit (each c member)]
  rfl

theorem head?_toDigits {value : Nat} (positive : 0 < value) : (Nat.toDigits 10 value).head? ≠ some '0' := by
  induction value using Nat.strongRecOn with
  | ind value ih =>
      rw [Nat.toDigits_eq_if (by decide)]
      split
      · rename_i small
        have digit : ∀ digit < 10, 0 < digit → digit.digitChar ≠ '0' := by decide
        exact fun zero => digit value small positive (Option.some.inj zero)
      · have higher := ih (value / 10) (by omega) (by omega)
        rwa [List.head?_append_of_ne_nil _ Nat.toDigits_ne_nil]

theorem digits_toString (value : Nat) : Digits value (toString value).toList := by
  rw [Nat.toString_eq_ofList_toDigits, String.toList_ofList]
  have each (c : Char) (member : c ∈ Nat.toDigits 10 value) : isDigit c = true :=
    Nat.isDigit_of_mem_toDigits (by decide) (by decide) member
  refine ⟨each, Nat.toDigits_ne_nil, ?_, fun zero => ?_⟩
  · rw [valueIn_eq_ofDigitChars each, Nat.ofDigitChars_toDigits (by decide) (by decide)]
  · rcases Nat.eq_zero_or_pos value with rfl | positive
    · rfl
    · exact absurd zero (head?_toDigits positive)

section

variable {value : Nat} {digits : List Char} (rest : List Char)

theorem moreDigits_append (each : ∀ c ∈ digits, isDigit c = true) :
    moreDigits isDigit (digits ++ '\n' :: rest) = (digits, '\n' :: rest) := by
  induction digits with
  | nil => rfl
  | cons c digits ih =>
      obtain ⟨digit, each⟩ := List.forall_mem_cons.mp each
      rw [List.cons_append, moreDigits, if_pos digit, ih each]
      rintro other more rfl
      cases digit

theorem Digits.exists_cons (read : Digits value digits) :
    ∃ first more, digits = first :: more ∧ isDigit first = true ∧ ∀ c ∈ more, isDigit c = true := by
  obtain ⟨first, more, rfl⟩ := List.exists_cons_of_ne_nil read.filled
  obtain ⟨digit, each⟩ := List.forall_mem_cons.mp read.each
  exact ⟨first, more, rfl, digit, each⟩

theorem wholeDigits?_append (read : Digits value digits) :
    wholeDigits? (digits ++ '\n' :: rest) = some (digits, '\n' :: rest) := by
  obtain ⟨first, more, rfl, digit, each⟩ := read.exists_cons
  by_cases zero : first = '0'
  · subst zero
    rw [read.zero rfl]
    rfl
  · rw [List.cons_append, wholeDigits?, digits?, if_pos digit, moreDigits_append rest each]
    rintro _ ⟨⟩
    exact zero rfl

theorem append_ne_cons (each : ∀ c ∈ digits, isDigit c = true) {mark : Char} (notDigit : isDigit mark = false)
    (notBreak : mark ≠ '\n') (more : List Char) : digits ++ '\n' :: rest ≠ mark :: more := by
  intro same
  cases digits with
  | nil => exact notBreak (List.cons.inj same).1.symm
  | cons first digits =>
      exact ne_of_accepted (each first List.mem_cons_self) notDigit (List.cons.inj same).1

theorem after?_append (each : ∀ c ∈ digits, isDigit c = true) {mark : Char} (notDigit : isDigit mark = false)
    (notBreak : mark ≠ '\n') : after? mark (digits ++ '\n' :: rest) = none := by
  cases begins : digits ++ '\n' :: rest with
  | nil => rfl
  | cons c more =>
      rw [after?, if_neg]
      rintro rfl
      exact append_ne_cons rest each notDigit notBreak more begins

theorem sign_append (each : ∀ c ∈ digits, isDigit c = true) :
    sign (digits ++ '\n' :: rest) = (false, digits ++ '\n' :: rest) := by
  rw [sign]
  · exact append_ne_cons rest each (by decide) (by decide)
  · exact append_ne_cons rest each (by decide) (by decide)

theorem integer?_append (read : Digits value digits) (fits : value < integerBound) :
    integer? (digits ++ '\n' :: rest) = some (.integer value, '\n' :: rest) := by
  have unprefixed {mark : Char} (notDigit : isDigit mark = false) (notBreak : mark ≠ '\n')
      (after : List Char) : digits ++ '\n' :: rest ≠ '0' :: mark :: after := by
    obtain ⟨first, more, rfl, _, each⟩ := read.exists_cons
    exact fun same => append_ne_cons rest each notDigit notBreak after (List.cons.inj same).2
  rw [integer?]
  · simp only [sign_append rest read.each, wholeDigits?_append rest read, read.value, signed?,
      Bool.false_eq_true, if_false, if_pos fits, Option.bind_eq_bind, Option.bind_some]
  · exact unprefixed (by decide) (by decide)
  · exact unprefixed (by decide) (by decide)
  · exact unprefixed (by decide) (by decide)

theorem decimal?_append (read : Digits value digits) : decimal? (digits ++ '\n' :: rest) = none := by
  have named : namedDecimal? (digits ++ '\n' :: rest) = none := by
    rw [namedDecimal?, sign_append rest read.each]
    split
    · rename_i same
      exact absurd same (append_ne_cons rest read.each (by decide) (by decide) _)
    · rename_i same
      exact absurd same (append_ne_cons rest read.each (by decide) (by decide) _)
    · rfl
  have fraction : fraction? ('\n' :: rest) = none := rfl
  have exponent : exponent? ('\n' :: rest) = none := rfl
  rw [decimal?, named, Option.or_none, decimalDigits?]
  simp only [sign_append rest read.each, wholeDigits?_append rest read, fraction, exponent, Option.getD_none,
    if_true, Option.bind_eq_bind, Option.bind_some]
  rfl

theorem date?_append (each : ∀ c ∈ digits, isDigit c = true) : date? (digits ++ '\n' :: rest) = none := by
  rw [date?]
  dsimp only
  split
  · rfl
  · rename_i year
    rw [Bool.or_eq_true, not_or, Bool.not_eq_true', Bool.not_eq_false, List.all_eq_true] at year
    have long : 4 ≤ digits.length := by
      by_contra short
      have room : 4 - digits.length = 3 - digits.length + 1 := by omega
      have reached : '\n' ∈ (digits ++ '\n' :: rest).take 4 := by
        rw [List.take_append, room, List.take_succ_cons]
        exact List.mem_append_right _ List.mem_cons_self
      exact absurd (year.2 '\n' reached) (by decide)
    rw [List.drop_append_of_le_length long,
      after?_append rest (fun c member => each c (List.mem_of_mem_drop member)) (by decide) (by decide)]
    rfl

theorem time?_append (read : Digits value digits) : time? (digits ++ '\n' :: rest) = none := by
  obtain ⟨first, more, rfl, digit, each⟩ := read.exists_cons
  cases more with
  | nil =>
      have short : twoDigits? 0 23 (first :: '\n' :: rest) = none := by
        have notDigit : isDigit '\n' = false := by decide
        simp [twoDigits?, notDigit]
      exact congrArg (Option.bind · _) short
  | cons second more =>
      obtain ⟨_, each⟩ := List.forall_mem_cons.mp each
      have colon := after?_append rest each (by decide : isDigit ':' = false) (by decide)
      rw [List.cons_append, List.cons_append, time?, twoDigits?]
      dsimp only
      split
      · simp only [Option.bind_eq_bind, Option.bind_some, colon, Option.bind_none]
      · rfl

theorem moment?_append (read : Digits value digits) : moment? (digits ++ '\n' :: rest) = none := by
  rw [moment?, dateAndTime?, date?_append rest read.each, time?_append rest read]
  rfl

theorem scalar?_append (read : Digits value digits) (fits : value < integerBound) :
    scalar? (digits ++ '\n' :: rest) = some (.integer value, '\n' :: rest) := by
  have unlike {mark : Char} (notDigit : isDigit mark = false) (notBreak : mark ≠ '\n') (more : List Char) :
      digits ++ '\n' :: rest ≠ mark :: more := append_ne_cons rest read.each notDigit notBreak more
  have unquoted : string? (digits ++ '\n' :: rest) = none := by
    rw [string?, lineString?]
    · exact unlike (by decide) (by decide)
    · exact unlike (by decide) (by decide)
    · exact fun more => unlike (by decide) (by decide) _
    · exact fun more => unlike (by decide) (by decide) _
  rw [scalar?, unquoted]
  · dsimp only
    rw [moment?_append rest read, decimal?_append rest read, integer?_append rest read fits]
    rfl
  · exact fun more => unlike (by decide) (by decide) _
  · exact fun more => unlike (by decide) (by decide) _

end

/-! ### Values -/

theorem value?_eq_scalar? {first : Char} (notBracket : first ≠ '[') (notBrace : first ≠ '\x7b')
    (rest : List Char) (depth : Nat) : value? depth (first :: rest) = scalar? (first :: rest) := by
  cases depth with
  | zero => rfl
  | succ depth =>
      rw [value?]
      · rintro _ ⟨⟩
        exact notBracket rfl
      · rintro _ ⟨⟩
        exact notBrace rfl

/-- Texts of values that can stand between an equals sign with a blank and the end of a line. -/
structure Writes (text : List Char) (value : Toml) : Prop where
  begins : ∃ first more, text = first :: more ∧ isBlank first = false
  reads : ∀ rest, value? depthBound (text ++ '\n' :: rest) = some (value, '\n' :: rest)

theorem writeNatural?_eq_some_iff {value : Nat} {text : List Char} :
    writeNatural? value = some text ↔ value < integerBound ∧ (toString value).toList = text := by
  rw [writeNatural?, Option.ite_none_right_eq_some, Option.some.injEq]

theorem writes_natural {value : Nat} {text : List Char} (written : writeNatural? value = some text) :
    Writes text (.integer value) := by
  obtain ⟨fits, rfl⟩ := writeNatural?_eq_some_iff.mp written
  have read := digits_toString value
  have scalar (rest : List Char) := scalar?_append rest read fits
  obtain ⟨first, more, written, digit, _⟩ := read.exists_cons
  have differ {mark : Char} (notDigit : isDigit mark = false) : first ≠ mark :=
    ne_of_accepted digit notDigit
  rw [written] at scalar ⊢
  refine ⟨⟨first, more, rfl, ?_⟩, fun rest => ?_⟩
  · simp [isBlank, differ (by decide : isDigit ' ' = false), differ (by decide : isDigit '\t' = false)]
  · rw [← scalar rest]
    exact value?_eq_scalar? (differ (by decide)) (differ (by decide)) _ _

theorem writes_bool (value : Bool) : Writes (writeBool value) (.bool value) := by
  cases value
  · exact ⟨⟨_, _, rfl, rfl⟩, fun _ => rfl⟩
  · exact ⟨⟨_, _, rfl, rfl⟩, fun _ => rfl⟩

theorem noQuote_cons {c : Char} (notDouble : c ≠ '"') (notSingle : c ≠ '\'') (rest : List Char) :
    NoQuote (c :: rest) :=
  ⟨fun same => notDouble (Option.some.inj same), fun same => notSingle (Option.some.inj same)⟩

theorem writeString_head (text : String) :
    ∃ quote more, writeString text = quote :: more ∧ (quote = '"' ∨ quote = '\'') := by
  rw [writeString]
  cases styleOf text.toList with
  | quoted => exact ⟨_, _, rfl, Or.inl rfl⟩
  | literal => exact ⟨_, _, rfl, Or.inr rfl⟩
  | quotedLines => exact ⟨_, _, rfl, Or.inl rfl⟩
  | literalLines => exact ⟨_, _, rfl, Or.inr rfl⟩

theorem value?_writeString (text : String) {after : List Char} (apart : NoQuote after) (depth : Nat) :
    value? depth (writeString text ++ after) = some (.string text, after) := by
  have read := string?_writeString text apart
  obtain ⟨quote, more, written, quoted⟩ := writeString_head text
  rw [written, List.cons_append] at read ⊢
  have scalar : scalar? (quote :: (more ++ after)) = some (.string text, after) := by
    rw [scalar?, read]
    · simp only [String.ofList_toList]
    all_goals
      intro _ same
      obtain ⟨rfl, _⟩ := List.cons.inj same
      cases quoted <;> contradiction
  rw [← scalar]
  rcases quoted with rfl | rfl
  · exact value?_eq_scalar? (by decide) (by decide) _ _
  · exact value?_eq_scalar? (by decide) (by decide) _ _

theorem writes_string (text : String) : Writes (writeString text) (.string text) := by
  refine ⟨?_, fun rest => value?_writeString text (noQuote_cons (by decide) (by decide) rest) depthBound⟩
  obtain ⟨quote, more, written, rfl | rfl⟩ := writeString_head text
  · exact ⟨_, _, written, rfl⟩
  · exact ⟨_, _, written, rfl⟩

section

variable {item : String} {text rest after : List Char} {items : List Toml} {depth fuel : Nat}

theorem items?_eq (reached : skipLines false text = writeString item ++ after) (apart : NoQuote after) :
    items? (value? depth) (fuel + 1) text =
      match skipLines false after with
      | ',' :: rest => do
          let (items, rest) ← items? (value? depth) fuel rest
          some (string item :: items, rest)
      | ']' :: rest => some ([string item], rest)
      | _ => none := by
  have read := value?_writeString item apart depth
  obtain ⟨quote, more, written, quoted⟩ := writeString_head item
  rw [written, List.cons_append] at read reached
  rw [items?, reached]
  split
  · rename_i same
    obtain ⟨rfl, _⟩ := List.cons.inj same
    cases quoted <;> contradiction
  · rw [read]
    rfl

theorem items?_of_comma (reached : skipLines false text = writeString item ++ ',' :: rest)
    (read : items? (value? depth) fuel rest = some (items, after)) :
    items? (value? depth) (fuel + 1) text = some (string item :: items, after) := by
  rw [items?_eq reached (noQuote_cons (by decide) (by decide) rest)]
  exact congrArg (Option.bind · _) read

theorem items?_of_bracket (reached : skipLines false text = writeString item ++ ']' :: rest) :
    items? (value? depth) (fuel + 1) text = some ([string item], rest) :=
  items?_eq reached (noQuote_cons (by decide) (by decide) rest)

end

theorem skipLines_writeString (item : String) (after : List Char) :
    skipLines false (writeString item ++ after) = writeString item ++ after := by
  obtain ⟨quote, more, written, rfl | rfl⟩ := writeString_head item <;> rw [written] <;> rfl

theorem items?_lines (items : List String) (rest : List Char) (depth : Nat) {fuel : Nat}
    (enough : items.length < fuel) :
    items? (value? depth) fuel ('\n' :: (writeItemLines items ++ ']' :: rest)) =
      some (items.map string, rest) := by
  induction items generalizing fuel with
  | nil =>
      obtain ⟨fuel, rfl⟩ := Nat.exists_eq_succ_of_ne_zero (Nat.ne_of_gt enough)
      rfl
  | cons item items ih =>
      obtain ⟨fuel, rfl⟩ := Nat.exists_eq_succ_of_ne_zero (Nat.ne_zero_of_lt enough)
      refine items?_of_comma ?_ (ih (Nat.lt_of_succ_lt_succ enough))
      rw [← skipLines_writeString, writeItemLines]
      simp only [List.append_assoc, List.cons_append, List.nil_append]
      rfl

theorem length_le_writeItemLines (items : List String) : items.length ≤ (writeItemLines items).length := by
  induction items with
  | nil => exact Nat.zero_le 0
  | cons item items ih =>
      simp only [writeItemLines, List.length_append, List.length_cons]
      omega

theorem value?_array {text rest : List Char} {items : List Toml}
    (read : items? (value? 78) (text.length + 1) text = some (items, rest)) :
    value? depthBound ('[' :: text) = some (.array items, rest) := by
  change value? (78 + 1) ('[' :: text) = _
  rw [value?, read]
  rfl

theorem writes_strings (items : List String) : Writes (writeStrings items) (.array (items.map string)) := by
  match items with
  | [] => exact ⟨⟨_, _, rfl, rfl⟩, fun _ => rfl⟩
  | [item] =>
      refine ⟨⟨_, _, rfl, rfl⟩, fun rest => ?_⟩
      have laid : writeStrings [item] ++ '\n' :: rest = '[' :: (writeString item ++ ']' :: '\n' :: rest) := by
        simp [writeStrings]
      rw [laid]
      exact value?_array (items?_of_bracket (skipLines_writeString item _))
  | first :: second :: items =>
      refine ⟨⟨_, _, rfl, rfl⟩, fun rest => ?_⟩
      have laid : writeStrings (first :: second :: items) ++ '\n' :: rest =
          '[' :: '\n' :: (writeItemLines (first :: second :: items) ++ ']' :: '\n' :: rest) := by
        simp [writeStrings]
      rw [laid]
      refine value?_array (items?_lines _ _ _ ?_)
      have := length_le_writeItemLines (first :: second :: items)
      simp only [List.length_append, List.length_cons] at this ⊢
      omega

end Callsite.Toml

import Callsite.Proofs.Language.LiteralTargets
import Callsite.Proofs.Pattern.Reading

set_option autoImplicit false

/-! The tokens in front of a name. A text falls into tokens at the characters that are no part of one: all about
the words in front of a name follows from what such a character does. The first token of a line stands in front of
every name that is found further on. -/

namespace Callsite

open Text

section

variable {part : Char → Bool} {text rest : List Char}

theorem splitTokens_append_cons {c : Char} (other : part c = false) (text rest : List Char) :
    ∀ token, splitTokens part token (text ++ c :: rest) =
      splitTokens part token text ++ splitTokens part [] rest := by
  induction text with
  | nil =>
      intro token
      have parts : ¬part c = true := by
        rw [other]
        exact Bool.false_ne_true
      rw [List.nil_append, splitTokens, splitTokens, if_neg parts, List.singleton_append]
  | cons d text ih =>
      intro token
      rw [List.cons_append, splitTokens, splitTokens]
      split
      · exact ih (d :: token)
      · rw [ih [], List.cons_append]

theorem splitTokens_of_parts (parts : ∀ c ∈ text, part c = true) :
    ∀ token, splitTokens part token text = [token.reverse ++ text] := by
  induction text with
  | nil =>
      intro token
      rw [splitTokens, List.append_nil]
  | cons c text ih =>
      intro token
      obtain ⟨here, later⟩ := List.forall_mem_cons.mp parts
      rw [splitTokens, if_pos here, ih later, List.reverse_cons, List.append_assoc, List.singleton_append]

end

/-- The maximal runs of letters, digits, underscores and dollar signs, with an empty one between two neighbours
that are none of these. -/
def tokens (text : List Char) : List (List Char) :=
  splitTokens isTokenPart [] text

section

variable {word text before after rest : List Char} {c : Char}

theorem tokens_append_cons (other : isTokenPart c = false) (text rest : List Char) :
    tokens (text ++ c :: rest) = tokens text ++ tokens rest :=
  splitTokens_append_cons other text rest []

theorem tokens_of_parts (parts : ∀ c ∈ text, isTokenPart c = true) : tokens text = [text] :=
  splitTokens_of_parts parts []

theorem isTokenPart_of_isBlank (blank : isBlank c = true) : isTokenPart c = false :=
  of_isBlank (fun c => isTokenPart c = false) (by decide +kernel) blank

theorem isBlank_of_isTokenPart (part : isTokenPart c = true) : isBlank c = false := by
  by_contra blank
  rw [Bool.not_eq_false] at blank
  rw [isTokenPart_of_isBlank blank] at part
  contradiction

theorem isTokenPart_of_identifierPart (part : Pattern.identifierPart.has c = true) : isTokenPart c = true :=
  Pattern.of_identifierPart (fun c => isTokenPart c = true) (by decide +kernel) part

theorem eq_nil_of_mem_tokens (blank : Blanks text) {token : List Char} (member : token ∈ tokens text) :
    token = [] := by
  induction text with
  | nil => exact List.mem_singleton.mp member
  | cons c text ih =>
      obtain ⟨here, later⟩ := List.forall_mem_cons.mp blank
      rw [← List.nil_append (c :: text), tokens_append_cons (isTokenPart_of_isBlank here)] at member
      rcases List.mem_append.mp member with first | onward
      · exact List.mem_singleton.mp first
      · exact ih later onward

theorem mem_tokens {space : List Char} (blank : Blanks space) (parts : ∀ c ∈ word, isTokenPart c = true)
    (stops : ∀ c ∈ rest.head?, isTokenPart c = false) : word ∈ tokens (space ++ (word ++ rest)) := by
  have alone : word ∈ tokens (word ++ rest) := by
    cases rest with
    | nil =>
        rw [List.append_nil, tokens_of_parts parts]
        exact List.mem_singleton_self word
    | cons c rest =>
        rw [tokens_append_cons (stops c rfl), tokens_of_parts parts]
        exact List.mem_append_left _ (List.mem_singleton_self word)
  rcases List.eq_nil_or_concat' space with rfl | ⟨space, last, rfl⟩
  · exact alone
  · have blankLast : isBlank last = true := blank last (by simp)
    rw [List.append_assoc, List.singleton_append, tokens_append_cons (isTokenPart_of_isBlank blankLast)]
    exact List.mem_append_right _ alone

/-! ### Words in front of a byte -/

theorem Text.takeBytes?_append (before after : List Char) :
    takeBytes? (before ++ after) (byteLength before) = some before := by
  induction before with
  | nil =>
      rw [byteLength]
      cases after <;> rfl
  | cons c before ih =>
      have positive := c.utf8Size_pos
      rw [byteLength, List.cons_append, takeBytes?.eq_3 _ _ _ (by omega), if_pos (Nat.le_add_right _ _),
        Nat.add_sub_cancel_left, ih, Option.map_some]

theorem Text.dropBytes?_append (before after : List Char) :
    dropBytes? (before ++ after) (byteLength before) = some after := by
  induction before with
  | nil =>
      rw [byteLength]
      cases after <;> rfl
  | cons c before ih =>
      have positive := c.utf8Size_pos
      rw [byteLength, List.cons_append, dropBytes?.eq_3 _ _ _ (by omega), if_pos (Nat.le_add_right _ _),
        Nat.add_sub_cancel_left, ih]

theorem precededByWord_iff {line : String} (whole : line.toList = before ++ after) {words : List String} :
    precededByWord line (byteLength before) words = true ↔ ∃ word ∈ words, word.toList ∈ tokens before := by
  rw [precededByWord, whole, takeBytes?_append]
  split
  · rename_i empty
    rw [List.isEmpty_iff.mp empty]
    exact iff_of_false Bool.false_ne_true nofun
  · rw [Option.getD_some, List.any_eq_true]
    constructor
    · rintro ⟨token, member, listed⟩
      refine ⟨String.ofList token, of_decide_eq_true listed, ?_⟩
      rw [String.toList_ofList]
      exact member
    · rintro ⟨word, listed, member⟩
      refine ⟨word.toList, member, decide_eq_true ?_⟩
      rw [String.ofList_toList]
      exact listed

end

/-! ### First tokens -/

/-- The first token of the text is the word, and nothing but white space stands in front of it. -/
structure FirstToken (word text : List Char) : Prop where
  filled : word ≠ []
  parts : ∀ c ∈ word, isTokenPart c = true
  starts : ∃ space rest, text = space ++ (word ++ rest) ∧ Blanks space ∧
    ∀ c ∈ rest.head?, isTokenPart c = false

/-- The text has a character that is no white space and, behind it, one that is no part of a token. -/
def GoesPastToken (text : List Char) : Prop :=
  ∃ first second, text = first ++ second ∧ (∃ c ∈ first, isBlank c = false) ∧
    ∃ c ∈ second, isTokenPart c = false

namespace FirstToken

variable {word before after : List Char}

/-- What reaches past the first token begins with the whole of it. -/
theorem exists_of_goesPast (first : FirstToken word (before ++ after)) (past : GoesPastToken before) :
    ∃ space more, before = space ++ (word ++ more) ∧ Blanks space ∧ ∀ c ∈ more.head?, isTokenPart c = false := by
  obtain ⟨_, parts, space, rest, whole, blank, stops⟩ := first
  obtain ⟨one, two, rfl, ⟨c, inOne, solid⟩, d, inTwo, other⟩ := past
  have notBlank : c ∉ space := by
    intro member
    rw [blank c member] at solid
    contradiction
  rw [List.append_assoc] at whole
  obtain ⟨onward, rfl, later⟩ : ∃ onward, one = space ++ onward ∧ onward ++ (two ++ after) = word ++ rest := by
    rcases List.append_eq_append_iff.mp whole with ⟨_, rfl, _⟩ | ⟨onward, split, same⟩
    · exact absurd (List.mem_append_left _ inOne) notBlank
    · exact ⟨onward, split, same.symm⟩
  rcases List.append_eq_append_iff.mp ((List.append_assoc _ _ _).trans later) with
    ⟨left, rfl, _⟩ | ⟨more, split, rfl⟩
  · have inWord : d ∈ onward ++ two ++ left := List.mem_append_left _ (List.mem_append_right _ inTwo)
    rw [parts d inWord] at other
    contradiction
  · refine ⟨space, more, by rw [List.append_assoc, split], blank, fun e head => stops e ?_⟩
    rw [List.head?_append, Option.mem_def.mp head]
    rfl

theorem mem_tokens_of_goesPast (first : FirstToken word (before ++ after)) (past : GoesPastToken before) :
    word ∈ tokens before := by
  obtain ⟨space, more, rfl, blank, stops⟩ := first.exists_of_goesPast past
  exact mem_tokens blank first.parts stops

end FirstToken

end Callsite

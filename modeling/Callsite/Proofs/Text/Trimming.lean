import Mathlib.Data.List.TakeWhile
import Callsite.Text.Blank

set_option autoImplicit false

/-! White space and trimming. A trimmed text begins and ends with no white space, and trimming leaves it as
it is. -/

namespace Callsite.Text

/-- What is asked of the characters of a text is decided on the text: to try every character there is, which
is another way, takes too long. -/
instance (priority := 2000) decidableForallMem (holds : Char → Prop) [DecidablePred holds] (text : List Char) :
    Decidable (∀ c ∈ text, holds c) :=
  List.decidableBAll holds text

def blankCodes : List Nat := [
  0x9, 0xa, 0xb, 0xc, 0xd, 0x20, 0x85, 0xa0, 0x1680, 0x2000, 0x2001, 0x2002, 0x2003, 0x2004, 0x2005,
  0x2006, 0x2007, 0x2008, 0x2009, 0x200a, 0x2028, 0x2029, 0x202f, 0x205f, 0x3000]

theorem mem_blankCodes_of_isBlank {c : Char} (blank : isBlank c = true) :
    c.toNat ∈ blankCodes := by
  rw [isBlank] at blank
  split at blank
  · rw [Bool.or_eq_true, Bool.and_eq_true, decide_eq_true_eq, decide_eq_true_eq, decide_eq_true_eq]
      at blank
    rcases blank with rfl | ⟨low, high⟩
    · decide
    · have low : 0x9 ≤ c.toNat := low
      have high : c.toNat ≤ 0xd := high
      simp only [blankCodes, List.mem_cons]
      omega
  · simp only [wideBlanks, inRanges, Bool.or_false] at blank
    simp only [blankCodes, List.mem_cons]
    generalize c.toNat = code at blank ⊢
    grind

theorem of_isBlank (holds : Char → Prop) (all : ∀ code ∈ blankCodes, holds (Char.ofNat code)) {c : Char}
    (blank : isBlank c = true) : holds c := by
  have known := all c.toNat (mem_blankCodes_of_isBlank blank)
  rwa [Char.ofNat_toNat] at known

theorem append_trimEnd (text : List Char) :
    text = trimEnd text ++ (text.reverse.takeWhile isBlank).reverse := by
  rw [trimEnd, ← List.reverse_append, List.takeWhile_append_dropWhile, List.reverse_reverse]

theorem trimStart_append_cons (text : List Char) {c : Char} (plain : isBlank c = false) (rest : List Char) :
    trimStart (text ++ c :: rest) = trimStart text ++ c :: rest := by
  have stays : ¬isBlank c = true := by
    rw [plain]
    exact Bool.false_ne_true
  rw [trimStart, List.dropWhile_append, List.dropWhile_cons_of_neg stays]
  split
  · rename_i none
    rw [trimStart, List.isEmpty_iff.mp none, List.nil_append]
  · rfl

theorem trimEnd_append_cons (text : List Char) {c : Char} (plain : isBlank c = false) (rest : List Char) :
    trimEnd (text ++ c :: rest) = text ++ c :: trimEnd rest := by
  have backward := trimStart_append_cons rest.reverse plain text.reverse
  have split : (text ++ c :: rest).reverse = rest.reverse ++ c :: text.reverse := by simp
  rw [trimEnd, split, ← trimStart, backward]
  simp [trimEnd, trimStart]

theorem trimStart_eq_nil_iff {text : String} :
    trimStart text.toList = [] ↔ isBlankText text = true := by
  rw [trimStart, List.dropWhile_eq_nil_iff, isBlankText, List.all_eq_true]

/-- A text with no white space around it. -/
structure Trimmed (text : List Char) : Prop where
  head : ∀ c ∈ text.head?, isBlank c = false
  last : ∀ c ∈ text.getLast?, isBlank c = false

private theorem isBlank_of_mem_head?_dropWhile {text : List Char} {c : Char}
    (first : c ∈ (text.dropWhile isBlank).head?) : isBlank c = false := by
  have stopped := List.head?_dropWhile_not isBlank text
  rw [Option.mem_def.mp first] at stopped
  exact stopped

theorem trimmed_trim (text : List Char) : Trimmed (trimEnd (trimStart text)) := by
  constructor
  · intro c first
    have split := append_trimEnd (trimStart text)
    have early : c ∈ (trimStart text).head? := by
      rw [split, List.head?_append, Option.mem_def.mp first]
      rfl
    exact isBlank_of_mem_head?_dropWhile early
  · intro c final
    rw [trimEnd, List.getLast?_reverse] at final
    exact isBlank_of_mem_head?_dropWhile final

namespace Trimmed

variable {text : List Char} (trimmed : Trimmed text)

include trimmed

theorem trimStart_eq : trimStart text = text := by
  cases text with
  | nil => rfl
  | cons c rest =>
      have plain : ¬isBlank c = true := by
        rw [trimmed.head c rfl]
        exact Bool.false_ne_true
      exact List.dropWhile_cons_of_neg plain

theorem trimEnd_eq : trimEnd text = text := by
  have backward : Trimmed text.reverse := by
    constructor
    · intro c first
      exact trimmed.last c (List.head?_reverse ▸ first)
    · intro c final
      exact trimmed.head c (List.getLast?_reverse ▸ final)
  have same : text.reverse.dropWhile isBlank = text.reverse := backward.trimStart_eq
  rw [trimEnd, same, List.reverse_reverse]

theorem trim_eq : trimEnd (trimStart text) = text := by
  rw [trimmed.trimStart_eq, trimmed.trimEnd_eq]

end Trimmed

end Callsite.Text

import Mathlib.Data.List.TakeWhile
import Callsite.Proofs.Language.Comments
import Callsite.Proofs.Text.JoinedLines
import Callsite.Proofs.Text.Trimming

set_option autoImplicit false

/-! Bodies and the names called in them. Where a body ends depends on the marks of its lines only: their
braces, the white space before them, or their words. Names called on comments do not count. So comments may
be exchanged for others with the same marks, and the body has the same calls. -/

namespace Callsite

open Text

namespace Body

def isBrace (c : Char) : Bool :=
  c = '\x7b' || c = '\x7d'

def braces (line : String) : List Char :=
  line.toList.filter isBrace

theorem scanBraces_filter (depth : Nat) (text : List Char) :
    scanBraces depth (text.filter isBrace) = scanBraces depth text := by
  induction text generalizing depth with
  | nil => rfl
  | cons c rest ih =>
      by_cases opening : c = '\x7b'
      · subst opening
        rw [List.filter_cons_of_pos (by decide), scanBraces, scanBraces, if_pos rfl, if_pos rfl, ih]
      by_cases closing : c = '\x7d'
      · subst closing
        rw [List.filter_cons_of_pos (by decide), scanBraces, scanBraces]
        simp only [ih]
      · have plain : ¬isBrace c = true := by simp [isBrace, opening, closing]
        rw [List.filter_cons_of_neg plain, scanBraces, if_neg opening, if_neg closing, ih]

theorem closingLine?_eq {scan : LineScan} {lines others : List String}
    (alike : List.Forall₂ (fun line other => ∀ depth, scan depth line = scan depth other) lines others)
    (depth index : Nat) :
    closingLine? scan depth index lines = closingLine? scan depth index others := by
  induction alike generalizing depth index with
  | nil => rfl
  | cons here _ ih =>
      rw [closingLine?, closingLine?, here depth]
      cases scan depth _ with
      | none => rfl
      | some deeper => exact ih deeper (index + 1)

theorem scanIndented_eq {lines others : List String}
    (alike : List.Forall₂ (fun line other =>
      isBlankText line = isBlankText other ∧ indentation line = indentation other) lines others)
    (base last index : Nat) :
    scanIndented base last index lines = scanIndented base last index others := by
  induction alike generalizing last index with
  | nil => rfl
  | cons here _ ih => rw [scanIndented, scanIndented, here.1, here.2, ih, ih]

theorem windowEnd_eq {lines others : List String} (long : lines.length = others.length)
    (scanLimit start : Nat) : windowEnd lines scanLimit start = windowEnd others scanLimit start := by
  rw [windowEnd, windowEnd, long]

theorem forall₂_window {rel : String → String → Prop} {lines others : List String}
    (alike : List.Forall₂ rel lines others) (scanLimit start : Nat) :
    List.Forall₂ rel (window lines scanLimit start) (window others scanLimit start) := by
  rw [window, window, windowEnd_eq alike.length_eq]
  exact List.forall₂_drop start (List.forall₂_take _ alike)

theorem spanBy_eq {scan : LineScan} {lines others : List String}
    (alike : List.Forall₂ (fun line other => ∀ depth, scan depth line = scan depth other) lines others)
    (scanLimit start : Nat) : spanBy scan lines scanLimit start = spanBy scan others scanLimit start := by
  rw [spanBy, spanBy, closingLine?_eq (forall₂_window alike scanLimit start) 0 start,
    windowEnd_eq alike.length_eq]

theorem byIndentation_eq {lines others : List String}
    (alike : List.Forall₂ (fun line other =>
      isBlankText line = isBlankText other ∧ indentation line = indentation other) lines others)
    (scanLimit start : Nat) :
    byIndentation lines scanLimit start = byIndentation others scanLimit start := by
  have scanned := forall₂_window alike scanLimit start
  rw [byIndentation, byIndentation, windowEnd_eq alike.length_eq, alike.length_eq]
  generalize window lines scanLimit start = seen at scanned ⊢
  generalize window others scanLimit start = seenToo at scanned ⊢
  cases scanned with
  | nil => rfl
  | cons here rest =>
      dsimp only
      rw [here.2, scanIndented_eq rest]

end Body

/-- Two lines that look the same to the scan for the end of a body. -/
def BlockStyle.SameMarks : BlockStyle → String → String → Prop
  | .braces, line, other => Body.braces line = Body.braces other
  | .indentation, line, other =>
      isBlankText line = isBlankText other ∧ Body.indentation line = Body.indentation other
  | .endKeyword, line, other => Body.codeWords line = Body.codeWords other

instance : ∀ (style : BlockStyle) (line other : String), Decidable (style.SameMarks line other)
  | .braces, _, _ => inferInstanceAs (Decidable (_ = _))
  | .indentation, _, _ => inferInstanceAs (Decidable (_ = _ ∧ _ = _))
  | .endKeyword, _, _ => inferInstanceAs (Decidable (_ = _))

theorem BlockStyle.SameMarks.refl (style : BlockStyle) (line : String) : style.SameMarks line line := by
  cases style with
  | braces => rfl
  | indentation => exact ⟨rfl, rfl⟩
  | endKeyword => rfl

theorem Body.isolate_eq {style : BlockStyle} {lines others : List String}
    (alike : List.Forall₂ style.SameMarks lines others) (scanLimit start : Nat) :
    isolate style lines scanLimit start = isolate style others scanLimit start := by
  cases style with
  | braces =>
      apply spanBy_eq
      apply alike.imp
      intro line other same depth
      have marks : braces line = braces other := same
      rw [← scanBraces_filter, ← scanBraces_filter depth other.toList]
      exact congrArg (scanBraces depth) marks
  | indentation => exact byIndentation_eq alike scanLimit start
  | endKeyword =>
      apply spanBy_eq
      apply alike.imp
      intro line other same depth
      have words : codeWords line = codeWords other := same
      dsimp only
      rw [words]

namespace Text

theorem dropBytes?_isSuffix {text rest : List Char} :
    ∀ {offset : Nat}, dropBytes? text offset = some rest → rest <:+ text := by
  induction text with
  | nil =>
      intro offset dropped
      cases offset with
      | zero => exact Option.some.inj dropped ▸ List.suffix_refl _
      | succ offset => contradiction
  | cons c further ih =>
      intro offset dropped
      cases offset with
      | zero => exact Option.some.inj dropped ▸ List.suffix_refl _
      | succ offset =>
          rw [dropBytes?, Option.ite_none_right_eq_some] at dropped
          · exact (ih dropped.2).trans (List.suffix_cons c further)
          · exact Nat.succ_ne_zero offset

end Text

namespace Language

variable {language : Language}

theorem isComment_dropCarriageReturn (line : String) :
    language.isComment (dropCarriageReturn line) = language.isComment line := by
  rw [isComment, isComment, trim_dropCarriageReturn]

theorem callNames_of_isComment {line : String} (comment : language.isComment line = true) :
    language.callNames line = [] :=
  if_pos comment

theorem flatMap_callNames_lone (line : String) :
    (rejoined [line]).flatMap language.callNames =
      if line.toList.isEmpty then [] else language.callNames line := by
  rw [rejoined]
  split
  · rfl
  · exact List.flatMap_singleton language.callNames line

theorem OnlyCommentsDiffer.callNames_rejoined {pieces others : List String}
    (alike : language.OnlyCommentsDiffer pieces others) :
    (rejoined pieces).flatMap language.callNames = (rejoined others).flatMap language.callNames := by
  induction alike with
  | nil => rfl
  | @cons line other rest more here later ih =>
      cases later with
      | nil =>
          rw [flatMap_callNames_lone, flatMap_callNames_lone]
          rcases here with rfl | ⟨comment, commentToo⟩
          · rfl
          · rw [callNames_of_isComment comment, callNames_of_isComment commentToo, ite_self, ite_self]
      | cons next further =>
          rw [rejoined, rejoined, List.flatMap_cons, List.flatMap_cons, ih]
          have called : language.callNames (dropCarriageReturn line) =
              language.callNames (dropCarriageReturn other) := by
            rcases here with rfl | ⟨comment, commentToo⟩
            · rfl
            · rw [← isComment_dropCarriageReturn] at comment commentToo
              rw [callNames_of_isComment comment, callNames_of_isComment commentToo]
          rw [called]

theorem OnlyCommentsDiffer.callsIn_intercalate {pieces others : List String}
    (alike : language.OnlyCommentsDiffer pieces others)
    (plain : ∀ piece ∈ pieces, '\n' ∉ piece.toList) (plainToo : ∀ piece ∈ others, '\n' ∉ piece.toList)
    (withBuiltins : Bool) :
    language.callsIn ("\n".intercalate pieces) withBuiltins =
      language.callsIn ("\n".intercalate others) withBuiltins := by
  rw [callsIn, callsIn, lines_intercalate plain, lines_intercalate plainToo, alike.callNames_rejoined]

theorem OnlyCommentsDiffer.callsIn_bodyText {lines others : List String}
    (alike : language.OnlyCommentsDiffer lines others) (plain : ∀ line ∈ lines, '\n' ∉ line.toList)
    (plainToo : ∀ line ∈ others, '\n' ∉ line.toList) {scanLimit start : Nat}
    (span : Body.isolate language.table.blockStyle lines scanLimit start =
      Body.isolate language.table.blockStyle others scanLimit start)
    {first : String} (here : first ∈ lines) (rules : TargetRules) (withBuiltins : Bool) :
    language.callsIn (language.bodyText rules lines scanLimit start first) withBuiltins =
      language.callsIn (language.bodyText rules others scanLimit start first) withBuiltins := by
  rw [bodyText, bodyText, ← span]
  generalize ended : Body.isolate language.table.blockStyle lines scanLimit start = span
  generalize tailed : (dropBytes? first.toList ((rules.declaredNameEnd? first).getD 0)).getD [] = tail
  have tailPlain : '\n' ∉ (String.ofList tail).toList := by
    rw [String.toList_ofList, ← tailed]
    cases dropped : dropBytes? first.toList ((rules.declaredNameEnd? first).getD 0) with
    | none => exact List.not_mem_nil
    | some rest => exact fun inside => plain first here ((dropBytes?_isSuffix dropped).subset inside)
  have further := List.forall₂_drop (start + 1) (List.forall₂_take (span.stop + 1) alike)
  have within {lines : List String} (plain : ∀ line ∈ lines, '\n' ∉ line.toList) :
      ∀ piece ∈ String.ofList tail :: (lines.take (span.stop + 1)).drop (start + 1),
        '\n' ∉ piece.toList := by
    intro piece member
    rcases List.mem_cons.mp member with rfl | later
    · exact tailPlain
    · exact plain piece (List.mem_of_mem_take (List.mem_of_mem_drop later))
  have pieces : language.OnlyCommentsDiffer
      (String.ofList tail :: (lines.take (span.stop + 1)).drop (start + 1))
      (String.ofList tail :: (others.take (span.stop + 1)).drop (start + 1)) :=
    .cons (Or.inl rfl) further
  exact pieces.callsIn_intercalate (within plain) (within plainToo) withBuiltins

end Language

/-! ### Comments without words

Where the first number sign of a line hides what follows it from the scan, a comment that begins with one
has no words at all. -/

theorem Text.isMarkedWordPart_of_isBlank {c : Char} (blank : isBlank c = true) :
    Body.isMarkedWordPart c = false := by
  have apart : ∀ code ∈ blankCodes, Body.isMarkedWordPart (Char.ofNat code) = false := by
    decide +kernel
  exact of_isBlank (Body.isMarkedWordPart · = false) apart blank

theorem filter_splitTokens {part : Char → Bool} {text : List Char}
    (separate : ∀ c ∈ text, part c = false) : (splitTokens part [] text).filter (· ≠ []) = [] := by
  induction text with
  | nil => rfl
  | cons c rest ih =>
      obtain ⟨here, later⟩ := List.forall_mem_cons.mp separate
      rw [splitTokens, if_neg (Bool.eq_false_iff.mp here), List.filter_cons_of_neg (by simp)]
      exact ih later

namespace Language

variable {language : Language}

theorem codeWords_of_isComment
    (hashes : ∀ opener ∈ language.table.commentPrefixes, opener.toList.head? = some '#')
    {line : String} (comment : language.isComment line = true) : Body.codeWords line = [] := by
  have leading (c : Char) (member : c ∈ line.toList.takeWhile isBlank) :
      Body.isMarkedWordPart c = false :=
    isMarkedWordPart_of_isBlank (List.mem_takeWhile_imp member)
  have whole : line.toList = line.toList.takeWhile isBlank ++ trimStart line.toList :=
    List.takeWhile_append_dropWhile.symm
  have rest := append_trimEnd (trimStart line.toList)
  have apart : ∀ c ∈ line.toList.takeWhile (· ≠ '#'), Body.isMarkedWordPart c = false := by
    intro c member
    rw [isComment, Bool.or_eq_true, decide_eq_true_eq, List.any_eq_true] at comment
    rcases comment with lone | ⟨opener, inPrefixes, opens⟩
    · rw [lone] at rest
      have inLine := (List.takeWhile_prefix _).subset member
      rw [whole, rest] at inLine
      rcases List.mem_append.mp inLine with before | inRest
      · exact leading c before
      rcases List.mem_cons.mp inRest with rfl | after
      · decide
      · exact isMarkedWordPart_of_isBlank (List.mem_takeWhile_imp (List.mem_reverse.mp after))
    · obtain ⟨further, same⟩ := List.isPrefixOf_iff_prefix.mp opens
      cases opened : opener.toList with
      | nil =>
          have sign := hashes opener inPrefixes
          rw [opened] at sign
          cases sign
      | cons first more =>
          have sign := hashes opener inPrefixes
          rw [opened, List.head?_cons, Option.some.injEq] at sign
          rw [opened, sign] at same
          rw [← same] at rest
          rw [whole, rest, List.takeWhile_append_of_pos, List.cons_append, List.cons_append,
            List.takeWhile_cons_of_neg (by decide), List.append_nil] at member
          · exact leading c member
          · intro other inBlanks
            have blank := List.mem_takeWhile_imp inBlanks
            rw [decide_eq_true_eq]
            rintro rfl
            cases blank
  rw [Body.codeWords, filter_splitTokens apart, List.map_nil]

end Language

end Callsite

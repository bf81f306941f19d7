import Callsite.Proofs.Language.CallSites
import Callsite.Proofs.Language.Comments
import Callsite.Proofs.Pattern.Extension
import Callsite.Proofs.Text.JoinedLines
import Callsite.Proofs.Surroundings

set_option autoImplicit false

/-! Calls in the bodies of wider windows. A line without an opening parenthesis calls nothing, and a carriage
return at the end of a line does not matter. So the names called in lines that are joined are those called in
the lines, one after another, and a wider window has the names of a narrower one first. -/

namespace Callsite

open Pattern Text

/-! ### Joined lines -/

namespace Text

section

variable {β : Type} {read : List Char → List β} (empty : read [] = [])
  (ends : ∀ line, read (line ++ ['\r']) = read line)

include ends in
theorem read_closeLine (line : List Char) : read (closeLine line) = read line.reverse := by
  rcases closeLine_eq_reverse_or line with same | carriage
  · rw [same]
  · rw [carriage, ends]

include empty ends

theorem flatMap_splitLines_append (text more : List Char) :
    ∀ line, (splitLines line (text ++ '\n' :: more)).flatMap read =
      (splitLines line text).flatMap read ++ (splitLines [] more).flatMap read := by
  induction text with
  | nil =>
      intro line
      have closed : splitLines line ('\n' :: more) = closeLine line :: splitLines [] more := rfl
      rw [List.nil_append, closed, List.flatMap_cons, read_closeLine ends, splitLines]
      cases line with
      | nil => simp [empty]
      | cons c rest => simp
  | cons c text ih =>
      intro line
      rw [List.cons_append, splitLines, splitLines]
      split
      · rw [List.flatMap_cons, List.flatMap_cons, ih, List.append_assoc]
      · exact ih (c :: line)

end

variable {β : Type} {read : String → List β}

theorem flatMap_lines_intercalate (empty : read "" = [])
    (ends : ∀ line : List Char, read (String.ofList (line ++ ['\r'])) = read (String.ofList line))
    (piece : String) (pieces : List String) :
    (lines ("\n".intercalate (piece :: pieces))).flatMap read =
      (piece :: pieces).flatMap fun piece => (lines piece).flatMap read := by
  induction pieces generalizing piece with
  | nil => simp
  | cons next rest ih =>
      have joined : ("\n".intercalate (piece :: next :: rest)).toList =
          piece.toList ++ '\n' :: ("\n".intercalate (next :: rest)).toList := by
        simp [String.intercalate_cons_cons]
      rw [List.flatMap_cons, ← ih next, lines, lines, lines, joined, List.flatMap_map, List.flatMap_map,
        List.flatMap_map]
      exact @flatMap_splitLines_append _ (fun line => read (String.ofList line)) empty ends _ _ []

theorem mem_of_mem_splitLines {text piece : List Char} {c : Char} (inside : c ∈ piece) :
    ∀ {line : List Char}, piece ∈ splitLines line text → c ∈ line ∨ c ∈ text := by
  induction text with
  | nil =>
      intro line member
      rw [splitLines] at member
      split at member
      · contradiction
      · rw [List.mem_singleton.mp member] at inside
        exact .inl (List.mem_reverse.mp inside)
  | cons d text ih =>
      intro line member
      rw [splitLines] at member
      split at member
      · rcases List.mem_cons.mp member with rfl | later
        · rcases closeLine_eq_reverse_or line with same | carriage
          · rw [same] at inside
            exact .inl (List.mem_reverse.mp inside)
          · have within : c ∈ line.reverse := carriage ▸ List.mem_append_left _ inside
            exact .inl (List.mem_reverse.mp within)
        · exact .inr (List.mem_cons_of_mem d (by simpa using ih later))
      · rcases ih member with within | later
        · rcases List.mem_cons.mp within with rfl | before
          · exact .inr List.mem_cons_self
          · exact .inl before
        · exact .inr (List.mem_cons_of_mem d later)

end Text

/-! ### Names called -/

/-- The call rules match nothing behind an opening parenthesis, and take a carriage return for the end of the
line. -/
def Language.EndsCalls (language : Language) : Prop :=
  ∀ rule ∈ language.callRules, rule.pattern.EndsWith '(' ∧ rule.pattern.Overlooks ['\r']

namespace Language.EndsCalls

variable {language : Language} (endsCalls : language.EndsCalls)

include endsCalls

theorem callNames_eq_nil {line : String} (absent : '(' ∉ line.toList) : language.callNames line = [] := by
  have noHits : language.callRules.flatMap (·.findAll line) = [] := by
    apply List.flatMap_eq_nil_iff.mpr
    intro rule member
    exact Rule.findAll_eq_nil (endsCalls rule member).1 absent
  unfold callNames callHits
  simp [noHits]

theorem callNames_carriageReturn (line : List Char) :
    language.callNames (String.ofList (line ++ ['\r'])) = language.callNames (String.ofList line) := by
  have comment : language.isComment (String.ofList (line ++ ['\r'])) =
      language.isComment (String.ofList line) := by
    simp only [isComment, String.toList_ofList, trimEnd_trimStart_append line (show isBlank '\r' by decide)]
  have hits : language.callRules.flatMap (·.findAll (String.ofList (line ++ ['\r']))) =
      language.callRules.flatMap (·.findAll (String.ofList line)) := by
    apply List.flatMap_congr
    intro rule member
    obtain ⟨ends, overlooks⟩ := endsCalls rule member
    exact Rule.findAll_append overlooks ends (by decide) (by simp)
  unfold callNames callHits
  rw [comment, hits]

theorem flatMap_callNames_eq_nil {text : String} (absent : '(' ∉ text.toList) :
    (lines text).flatMap language.callNames = [] := by
  apply List.flatMap_eq_nil_iff.mpr
  intro line member
  obtain ⟨piece, inText, rfl⟩ := List.mem_map.mp member
  apply endsCalls.callNames_eq_nil
  rw [String.toList_ofList]
  intro inside
  simpa [absent] using mem_of_mem_splitLines inside inText

theorem flatMap_callNames_intercalate (piece : String) (pieces : List String) :
    (lines ("\n".intercalate (piece :: pieces))).flatMap language.callNames =
      (piece :: pieces).flatMap fun piece => (lines piece).flatMap language.callNames :=
  flatMap_lines_intercalate (endsCalls.callNames_eq_nil (by decide)) endsCalls.callNames_carriageReturn
    piece pieces

theorem flatMap_callNames_blank {texts : List String} (blank : ∀ text ∈ texts, isBlankText text = true) :
    (texts.flatMap fun text => (lines text).flatMap language.callNames) = [] := by
  apply List.flatMap_eq_nil_iff.mpr
  intro text member
  apply endsCalls.flatMap_callNames_eq_nil
  intro inside
  have allBlank := blank text member
  rw [isBlankText, List.all_eq_true] at allBlank
  exact absurd (allBlank '(' inside) (by decide)

/-- The further lines of a body in a narrow window call what the first of those in a wider one call. -/
theorem flatMap_further_isPrefix (style : BlockStyle) (lines : List String) {scanLimit wider : Nat}
    (more : scanLimit ≤ wider) (start : Nat) :
    let further := fun scanLimit =>
      (lines.take ((Body.isolate style lines scanLimit start).stop + 1)).drop (start + 1)
    let names := fun text => (Text.lines text).flatMap language.callNames
    (further scanLimit).flatMap names <+: (further wider).flatMap names := by
  intro further names
  have first := Body.start_le_stop style lines wider start
  rcases Nat.le_total (Body.isolate style lines scanLimit start).stop
    (Body.isolate style lines wider start).stop with shorter | longer
  · have initial : further scanLimit <+: further wider :=
      (List.take_prefix_take_left (Nat.succ_le_succ shorter)).drop (start + 1)
    exact initial.flatMap names
  · have split : further scanLimit = further wider ++
        (lines.take ((Body.isolate style lines scanLimit start).stop + 1)).drop
          ((Body.isolate style lines wider start).stop + 1) := by
      simp only [further]
      generalize (Body.isolate style lines scanLimit start).stop = narrow at longer ⊢
      generalize (Body.isolate style lines wider start).stop = wide at longer first ⊢
      have cut : start + 1 + (wide - start) = wide + 1 := by omega
      rw [← List.take_append_drop (wide - start) ((lines.take (narrow + 1)).drop (start + 1)), List.take_drop,
        List.drop_drop, cut, List.take_take, Nat.min_eq_left (Nat.succ_le_succ longer)]
    -- What the wider window loses are blank lines.
    have lost : ((lines.take ((Body.isolate style lines scanLimit start).stop + 1)).drop
        ((Body.isolate style lines wider start).stop + 1)).flatMap names = [] := by
      apply endsCalls.flatMap_callNames_blank
      intro text member
      obtain ⟨place, found⟩ := List.mem_iff_getElem?.mp member
      rw [List.getElem?_drop, List.getElem?_take] at found
      split at found
      · rename_i inside
        have behind : (Body.isolate style lines wider start).stop <
            (Body.isolate style lines wider start).stop + 1 + place := by omega
        exact Body.isBlankText_of_isolate more behind (Nat.le_of_lt_succ inside) found
      · contradiction
    rw [split, List.flatMap_append, lost, List.append_nil]

end Language.EndsCalls

theorem eraseDups_isPrefix {α : Type} [BEq α] [LawfulBEq α] {items more : List α} (first : items <+: more) :
    items.eraseDups <+: more.eraseDups := by
  obtain ⟨rest, rfl⟩ := first
  rw [List.eraseDups_append]
  exact List.prefix_append _ _

theorem Language.EndsCalls.callsIn_bodyText_isPrefix {language : Language} (endsCalls : language.EndsCalls)
    (rules : TargetRules) (lines : List String) {scanLimit wider : Nat} (more : scanLimit ≤ wider)
    (start : Nat) (first : String) (withBuiltins : Bool) :
    language.callsIn (language.bodyText rules lines scanLimit start first) withBuiltins <+:
      language.callsIn (language.bodyText rules lines wider start first) withBuiltins := by
  have further := endsCalls.flatMap_further_isPrefix language.table.blockStyle lines more start
  rw [callsIn, callsIn]
  apply eraseDups_isPrefix
  apply List.IsPrefix.filter
  rw [bodyText, bodyText, endsCalls.flatMap_callNames_intercalate, endsCalls.flatMap_callNames_intercalate,
    List.flatMap_cons, List.flatMap_cons]
  exact (List.prefix_append_right_inj _).mpr further

/-! ### The shipped call rules -/

theorem Pattern.endsWith_sequence (pieces : List Pattern) (c : Char) :
    (sequence (pieces ++ [chars (.single c)])).EndsWith c := by
  intro cursor way member
  rw [ways_sequence_append, List.mem_flatMap] at member
  obtain ⟨first, inPieces, member⟩ := member
  obtain ⟨last, inLast, rfl⟩ := List.mem_map.mp member
  obtain ⟨consumed, reaches, _⟩ := exists_reaches_of_mem_ways inPieces
  change last ∈ (chars (.single c)).ways first.stop at inLast
  cases split : first.stop.rest with
  | nil =>
      rw [ways_chars_nil split] at inLast
      contradiction
  | cons d rest =>
      rw [ways_chars_cons split] at inLast
      split at inLast
      · rename_i has
        cases CharSet.has_single_iff.mp has
        cases List.mem_singleton.mp inLast
        exact ⟨consumed, reaches.trans (.past split (.here _))⟩
      · contradiction

namespace Shipped

theorem plainCall_ends : (plainCall.fill identifier).EndsWith '(' :=
  endsWith_sequence [look (.wordBoundary false), group 1 identifier, blanks] '('

theorem memberCall_ends : (memberCall.fill identifier).EndsWith '(' :=
  endsWith_sequence (memberCall.front ++ [group 1 identifier, blanks]) '('

/-- Neither a carriage return nor the end of a line belongs to a word. -/
theorem plainCall_overlooks : (plainCall.fill identifier).Overlooks ['\r'] := by
  have only : (plainCall.fill identifier).looks = [.wordBoundary false] := by decide
  intro condition member before
  rw [only, List.mem_singleton] at member
  have apart : isWordPart '\r' = false := by decide
  rw [member]
  simp [Look.holds, Look.inWord, apart]

theorem memberCall_overlooks : (memberCall.fill identifier).Overlooks ['\r'] := by
  have none : (memberCall.fill identifier).looks = [] := by decide
  intro condition member
  rw [none] at member
  contradiction

theorem endsCalls : ∀ table ∈ generic :: tables, table.language.EndsCalls := by
  intro table shipped rule member
  obtain ⟨rules, compiled, fills⟩ := compileAll_of_framed callTemplates_framed none
  have listed : table.language.callRules = rules := by
    show rulesOf table.calls = rules
    rw [calls_eq table shipped, rulesOf_eq compiled]
  rw [listed] at member
  cases fills with
  | cons plain rest =>
      cases rest with
      | cons dotted none =>
          cases none
          simp only [List.mem_cons, List.not_mem_nil, or_false] at member
          rcases member with rfl | rfl
          · rw [plain.pattern]
            exact ⟨plainCall_ends, plainCall_overlooks⟩
          · rw [dotted.pattern]
            exact ⟨memberCall_ends, memberCall_overlooks⟩

theorem registry_endsCalls : registry.Every Language.EndsCalls :=
  registry_every endsCalls

end Shipped

end Callsite

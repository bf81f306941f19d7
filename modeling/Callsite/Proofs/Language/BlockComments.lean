import Callsite.Proofs.Language.Bodies
import Callsite.Proofs.Language.ShippedRegistry

set_option autoImplicit false

/-! Lines with a block comment on them. Whether such a line counts as a comment is settled in front of the block comment:
one that begins with it counts as a comment to its end, whatever stands behind, and one with other text in front
does only if a comment begins there. -/

namespace Callsite

open Text

def blockLine (before comment rest : String) : String :=
  before ++ "/*" ++ comment ++ "*/" ++ rest

theorem trim_blockLine (before comment rest : String) :
    trimEnd (trimStart (blockLine before comment rest).toList) =
      trimStart before.toList ++ '/' :: '*' :: (comment.toList ++ '*' :: '/' :: trimEnd rest.toList) := by
  have whole : (blockLine before comment rest).toList =
      before.toList ++ '/' :: '*' :: (comment.toList ++ '*' :: '/' :: rest.toList) := by
    simp [blockLine]
  have early : trimStart before.toList ++ '/' :: '*' :: (comment.toList ++ '*' :: '/' :: rest.toList) =
      (trimStart before.toList ++ '/' :: '*' :: comment.toList ++ ['*']) ++ '/' :: rest.toList := by
    simp
  rw [whole, trimStart_append_cons _ (by decide), early, trimEnd_append_cons _ (by decide)]
  simp

namespace Language

variable {language : Language}

theorem isComment_iff {line : String} : language.isComment line = true ↔
    trimEnd (trimStart line.toList) = ['*'] ∨
      ∃ opener ∈ language.table.commentPrefixes, opener.toList <+: trimEnd (trimStart line.toList) := by
  rw [isComment, Bool.or_eq_true, decide_eq_true_eq, List.any_eq_true]
  simp only [List.isPrefixOf_iff_prefix]

theorem isComment_blockLine_iff {before comment rest : String} :
    language.isComment (blockLine before comment rest) = true ↔
      ∃ opener ∈ language.table.commentPrefixes, opener.toList <+: trimStart before.toList ++
        '/' :: '*' :: (comment.toList ++ '*' :: '/' :: trimEnd rest.toList) := by
  rw [isComment_iff, trim_blockLine, or_iff_right]
  intro alone
  have short := congrArg List.length alone
  simp only [List.length_append, List.length_cons, List.length_nil] at short
  omega

/-- Whether no search sees anything on a line. -/
structure PassesOver (language : Language) (line : String) : Prop where
  calls : language.callNames line = []
  sites : ∀ rules, language.callSite? rules line = none
  scopes : ∀ kinds number, language.scopeOpenedBy? kinds number line = none
  definitions : ∀ rules name file number rest, definitionIn? language rules name file number (line :: rest) =
    definitionIn? language rules name file (number + 1) rest

theorem passesOver_of_isComment {line : String} (comment : language.isComment line = true) :
    language.PassesOver line where
  calls := callNames_of_isComment comment
  sites rules := callSite?_of_isComment rules comment
  scopes kinds number := scopeOpenedBy?_of_isComment kinds number comment
  definitions rules name file number rest := by
    rw [definitionIn?, if_pos comment]

end Language

namespace Shipped

theorem length_commentPrefixes : ∀ table ∈ generic :: tables, ∀ opener ∈ table.commentPrefixes,
    opener.toList.length ≤ 2 := by
  decide +kernel

/-- A line that begins with a block comment counts as a comment, whatever stands behind that, and no search sees
anything on it. With other text in front, a line is a comment just if one begins with that text, the slash of the
block comment included. -/
theorem isComment_blockLine (languageName before comment rest : String)
    (block : "/*" ∈ (registry.language languageName).table.commentPrefixes) :
    (isBlankText before = true →
      (registry.language languageName).isComment (blockLine before comment rest) = true ∧
        (registry.language languageName).PassesOver (blockLine before comment rest)) ∧
    (isBlankText before = false →
      ((registry.language languageName).isComment (blockLine before comment rest) = true ↔
        ∃ opener ∈ (registry.language languageName).table.commentPrefixes,
          opener.toList <+: trimStart before.toList ++ ['/'])) := by
  constructor
  · intro blank
    have comment : (registry.language languageName).isComment (blockLine before comment rest) = true := by
      rw [Language.isComment_blockLine_iff, trimStart_eq_nil_iff.mpr blank]
      exact ⟨"/*", block, List.prefix_append ['/', '*'] _⟩
    exact ⟨comment, Language.passesOver_of_isComment comment⟩
  · intro filled
    have every : registry.Every fun language => ∀ opener ∈ language.table.commentPrefixes,
        opener.toList.length ≤ 2 := registry_every length_commentPrefixes
    have short := every.language languageName
    have stands : trimStart before.toList ≠ [] := by
      rw [Ne, trimStart_eq_nil_iff, filled]
      exact Bool.false_ne_true
    have longer : 2 ≤ (trimStart before.toList ++ ['/']).length := by
      have positive := List.length_pos_iff.mpr stands
      rw [List.length_append, List.length_singleton]
      omega
    have further : trimStart before.toList ++ ['/'] <+: trimStart before.toList ++
        '/' :: '*' :: (comment.toList ++ '*' :: '/' :: trimEnd rest.toList) := by
      rw [List.prefix_append_right_inj]
      exact List.prefix_append ['/'] _
    -- No prefix is long enough to reach beyond the slash.
    rw [Language.isComment_blockLine_iff]
    refine exists_congr fun opener => and_congr_right fun listed => ?_
    refine ⟨fun begins => ?_, fun begins => begins.trans further⟩
    exact List.prefix_of_prefix_length_le begins further (Nat.le_trans (short opener listed) longer)

end Shipped

/-! ### Calls beside a comment -/

namespace Aside

theorem block_listed : "/*" ∈ (Shipped.registry.language "javascript").table.commentPrefixes := by
  decide +kernel

/-- A call behind a block comment is passed over when the line begins with the comment, and only then. -/
theorem passed_over_at_start :
    "/*" ∈ (Shipped.registry.language "javascript").table.commentPrefixes ∧
    isBlankText "  " = true ∧ isBlankText "f(); " = false ∧
    (Shipped.registry.language "javascript").PassesOver (blockLine "  " " g() " " h()") ∧
    (Shipped.registry.language "javascript").isComment (blockLine "f(); " " g() " " h()") = false := by
  have blank : isBlankText "  " = true := by decide +kernel
  have filled : isBlankText "f(); " = false := by decide +kernel
  have first := (Shipped.isComment_blockLine "javascript" "  " " g() " " h()" block_listed).1 blank
  have behind := (Shipped.isComment_blockLine "javascript" "f(); " " g() " " h()" block_listed).2 filled
  have none : ¬∃ opener ∈ (Shipped.registry.language "javascript").table.commentPrefixes,
      opener.toList <+: trimStart "f(); ".toList ++ ['/'] := by
    decide +kernel
  exact ⟨block_listed, blank, filled, first.2, eq_false_of_ne_true (mt behind.mp none)⟩

/-- The comment is closed, and the text behind it is a call and not a comment, but the line counts as one. -/
theorem call_counts_as_comment :
    "/*" ∈ (Shipped.registry.language "javascript").table.commentPrefixes ∧
    ¬['*', '/'] <:+: " c ".toList ∧ isBlankText " f()" = false ∧
    (Shipped.registry.language "javascript").isComment " f()" = false ∧
    (Shipped.registry.language "javascript").callNames " f()" = ["f"] ∧
    (Shipped.registry.language "javascript").isComment (blockLine "" " c " " f()") = true ∧
    (Shipped.registry.language "javascript").callNames (blockLine "" " c " " f()") = [] := by
  decide +kernel

end Aside

end Callsite

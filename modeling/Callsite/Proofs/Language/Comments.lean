import Mathlib.Data.List.Forall2
import Callsite.Proofs.Language.Scopes

set_option autoImplicit false

/-! Comments and what lies around them. The searches for definitions, scopes and callers pass over lines
that are comments, so they find the same in texts that differ in such lines only. -/

namespace Callsite

namespace Language

variable {language : Language}

/-- Two lines that are the same unless both are comments. -/
def CommentsAside (language : Language) (line other : String) : Prop :=
  line = other ∨ language.isComment line = true ∧ language.isComment other = true

instance (language : Language) (line other : String) : Decidable (language.CommentsAside line other) :=
  inferInstanceAs (Decidable (_ ∨ _ ∧ _))

/-- Two texts that are line by line the same, comments aside. -/
def OnlyCommentsDiffer (language : Language) : List String → List String → Prop :=
  List.Forall₂ language.CommentsAside

instance (language : Language) (lines others : List String) :
    Decidable (language.OnlyCommentsDiffer lines others) :=
  inferInstanceAs (Decidable (List.Forall₂ language.CommentsAside lines others))

namespace CommentsAside

variable {line other : String} (alike : language.CommentsAside line other)

include alike in
theorem isComment : language.isComment line = language.isComment other := by
  rcases alike with same | ⟨comment, commentToo⟩
  · rw [same]
  · rw [comment, commentToo]

include alike in
theorem eq_of_text (text : language.isComment line = false) : line = other := by
  rcases alike with same | ⟨comment, _⟩
  · exact same
  · rw [text] at comment
    contradiction

theorem eq_of_blind {α : Type} (alike : language.CommentsAside line other) {view : String → α} {blind : α}
    (ignores : ∀ line, language.isComment line = true → view line = blind) : view line = view other := by
  rcases alike with same | ⟨comment, commentToo⟩
  · rw [same]
  · rw [ignores line comment, ignores other commentToo]

end CommentsAside

theorem OnlyCommentsDiffer.refl (language : Language) (lines : List String) :
    language.OnlyCommentsDiffer lines lines :=
  List.forall₂_same.mpr fun _ _ => Or.inl rfl

theorem OnlyCommentsDiffer.getElem? {lines others : List String}
    (alike : language.OnlyCommentsDiffer lines others) {index : Nat} {line : String}
    (inside : lines[index]? = some line) (text : language.isComment line = false) :
    others[index]? = some line := by
  induction alike generalizing index with
  | nil => contradiction
  | cons here _ ih =>
      cases index with
      | zero =>
          rw [List.getElem?_cons_zero, Option.some.injEq] at inside ⊢
          subst inside
          exact (here.eq_of_text text).symm
      | succ index =>
          rw [List.getElem?_cons_succ] at inside ⊢
          exact ih inside

theorem OnlyCommentsDiffer.definitionIn?_eq {lines others : List String}
    (alike : language.OnlyCommentsDiffer lines others) (rules : TargetRules) (name : String)
    (file : SourceFile) (number : Nat) :
    definitionIn? language rules name file number lines =
      definitionIn? language rules name file number others := by
  induction alike generalizing number with
  | nil => rfl
  | cons here _ ih =>
      rw [definitionIn?, definitionIn?, ih, ← here.isComment]
      cases text : language.isComment _ with
      | true => rfl
      | false => rw [here.eq_of_text text]

/-! ### Scopes -/

theorem scopeOpenedBy?_of_isComment (kinds : List ScopeKind) (number : Nat) {line : String}
    (comment : language.isComment line = true) : language.scopeOpenedBy? kinds number line = none :=
  if_pos comment

theorem callSite?_of_isComment (rules : TargetRules) {line : String}
    (comment : language.isComment line = true) : language.callSite? rules line = none :=
  if_pos comment

theorem OnlyCommentsDiffer.scopeAbove?_eq {above others : List String}
    (alike : language.OnlyCommentsDiffer above others) (kinds : List ScopeKind) :
    language.scopeAbove? kinds above = language.scopeAbove? kinds others := by
  induction alike with
  | nil => rfl
  | @cons line other above others here rest ih =>
      have opened := here.eq_of_blind fun _ => scopeOpenedBy?_of_isComment kinds (above.length + 1)
      rw [scopeAbove?, scopeAbove?, ih, opened, rest.length_eq]

theorem OnlyCommentsDiffer.enclosing?_eq {lines others : List String}
    (alike : language.OnlyCommentsDiffer lines others) (kinds : List ScopeKind) (index : Nat) :
    language.enclosing? kinds lines index none = language.enclosing? kinds others index none := by
  rw [enclosing?_none, enclosing?_none]
  have upTo := List.rel_reverse (List.forall₂_take (index + 1) alike)
  exact OnlyCommentsDiffer.scopeAbove?_eq upTo kinds

/-! ### Callers -/

theorem OnlyCommentsDiffer.callerScopes_eq {lines others : List String}
    (alike : language.OnlyCommentsDiffer lines others) (rules : TargetRules) :
    ∀ (index : Nat) (above beyond : Thunk (Option Scope)), above.get = beyond.get →
      language.callerScopes rules lines index above =
        language.callerScopes rules others index beyond := by
  induction alike with
  | nil => intros; rfl
  | @cons line other _ _ here _ ih =>
      intro index above beyond same
      have opened := here.eq_of_blind fun _ => scopeOpenedBy?_of_isComment [.function] (index + 1)
      have caller : (language.callSite? rules line).bind (fun site =>
            (language.scopeOpenedBy? [.function] (index + 1) (visible line site)).or beyond.get) =
          (language.callSite? rules other).bind fun site =>
            (language.scopeOpenedBy? [.function] (index + 1) (visible other site)).or beyond.get := by
        rcases here with rfl | ⟨comment, commentToo⟩
        · rfl
        · rw [callSite?_of_isComment rules comment, callSite?_of_isComment rules commentToo,
            Option.bind_none, Option.bind_none]
      have further := ih (index + 1)
        ⟨fun _ => (language.scopeOpenedBy? [.function] (index + 1) line).or beyond.get⟩
        ⟨fun _ => (language.scopeOpenedBy? [.function] (index + 1) other).or beyond.get⟩
        (by simp only [Thunk.get, opened])
      simp only [callerScopes, same, caller, further]

theorem OnlyCommentsDiffer.callersIn_eq {lines others : List String}
    (alike : language.OnlyCommentsDiffer lines others) (rules : TargetRules) (file : SourceFile)
    (depth : Nat) :
    language.callersIn rules file lines depth = language.callersIn rules file others depth := by
  rw [callersIn, callersIn, ← alike.callerScopes_eq rules 0 _ _ rfl]
  apply List.map_congr_left
  intro scope member
  obtain ⟨_, line, _, inside, text, _⟩ := exists_line_of_mem_callerScopes member
  rw [callerNode, callerNode, inside, alike.getElem? inside text]

end Language

end Callsite

import Callsite.Proofs.Language.Calls
import Callsite.Proofs.Language.Names
import Callsite.Trace

set_option autoImplicit false

/-! Where the scopes around calls and the called names come from. A scope stands on a line that a rule
opens, and its name is an identifier on that line, even if only the part before a call site was looked
at. A called name is an identifier too. -/

namespace Callsite

namespace Text

theorem takeBytes?_isPrefix {text before : List Char} :
    ∀ {offset : Nat}, takeBytes? text offset = some before → before <+: text := by
  induction text generalizing before with
  | nil =>
      intro offset taken
      cases offset with
      | zero =>
          cases Option.some.inj taken
          exact List.nil_prefix
      | succ offset => contradiction
  | cons c rest ih =>
      intro offset taken
      cases offset with
      | zero =>
          cases Option.some.inj taken
          exact List.nil_prefix
      | succ offset =>
          rw [takeBytes?, Option.ite_none_right_eq_some, Option.map_eq_some_iff] at taken
          · obtain ⟨_, more, takenRest, rfl⟩ := taken
            exact List.cons_prefix_cons.mpr ⟨rfl, ih takenRest⟩
          · exact Nat.succ_ne_zero offset

end Text

namespace Language

theorem visible_isPrefix (line : String) (column : Nat) :
    (visible line column).toList <+: line.toList := by
  rw [visible]
  cases taken : Text.takeBytes? line.toList column with
  | none => exact List.prefix_refl _
  | some before =>
      show (String.ofList before).toList <+: line.toList
      rw [String.toList_ofList]
      exact Text.takeBytes?_isPrefix taken

variable {language : Language}

theorem exists_rule_of_openerHit? {rules : List Rule} {line : String} {hit : Hit}
    (opened : language.openerHit? rules line = some hit) :
    ∃ rule ∈ rules, rule.find? line = some hit ∧ language.isKeyword hit.name = false ∧
      language.isStatementLed line hit.start = false := by
  obtain ⟨rule, member, hits⟩ := List.exists_of_findSome?_eq_some opened
  obtain ⟨found, kept⟩ := Option.filter_eq_some_iff.mp hits
  rw [Bool.and_eq_true, Bool.not_eq_true', Bool.not_eq_true'] at kept
  exact ⟨rule, member, found, kept.1, kept.2⟩

theorem exists_hit_of_scopeOpenedBy? {kinds : List ScopeKind} {number : Nat} {line : String}
    {scope : Scope} (opened : language.scopeOpenedBy? kinds number line = some scope) :
    language.isComment line = false ∧ ∃ kind ∈ kinds, ∃ hit,
      language.openerHit? (language.openers kind) line = some hit ∧
        scope = ⟨hit.name, number, kind, hit.kind = .abstractDeclaration⟩ := by
  rw [scopeOpenedBy?, Option.ite_none_left_eq_some, Bool.not_eq_true] at opened
  obtain ⟨text, opened⟩ := opened
  obtain ⟨kind, member, opened⟩ := List.exists_of_findSome?_eq_some opened
  obtain ⟨hit, hits, rfl⟩ := Option.map_eq_some_iff.mp opened
  exact ⟨text, kind, member, hit, hits, rfl⟩

theorem Regular.name_of_scopeOpenedBy? (regular : language.Regular) {kinds : List ScopeKind}
    {number : Nat} {line : String} {scope : Scope}
    (opened : language.scopeOpenedBy? kinds number line = some scope) :
    Pattern.isIdentifier scope.name.toList = true ∧ scope.name.toList <:+: line.toList := by
  obtain ⟨_, kind, _, hit, hits, rfl⟩ := exists_hit_of_scopeOpenedBy? opened
  obtain ⟨rule, member, found, _⟩ := exists_rule_of_openerHit? hits
  have named := (regular.openers kind rule member).of_find? found
  exact ⟨named.isIdentifier, named.isInfix⟩

theorem exists_line_of_scopeAbove? {kinds : List ScopeKind} {scope : Scope} :
    ∀ {above : List String}, language.scopeAbove? kinds above = some scope →
      1 ≤ scope.line ∧ ∃ line, above.reverse[scope.line - 1]? = some line ∧
        language.scopeOpenedBy? kinds scope.line line = some scope := by
  intro above
  induction above with
  | nil => intro found; contradiction
  | cons line above ih =>
      intro found
      rw [scopeAbove?, Option.or_eq_some_iff] at found
      rcases found with opened | ⟨_, found⟩
      · obtain ⟨_, kind, _, hit, hits, rfl⟩ := exists_hit_of_scopeOpenedBy? opened
        refine ⟨Nat.succ_pos _, line, ?_, opened⟩
        rw [List.reverse_cons]
        show (above.reverse ++ [line])[above.length]? = some line
        rw [List.getElem?_append_right (by simp)]
        simp
      · obtain ⟨positive, other, stands, opened⟩ := ih found
        refine ⟨positive, other, ?_, opened⟩
        rw [List.reverse_cons, List.getElem?_append_left (List.getElem?_eq_some_iff.mp stands).1]
        exact stands

theorem line_le_of_scopeAbove? {kinds : List ScopeKind} {scope : Scope} {above : List String}
    (found : language.scopeAbove? kinds above = some scope) : scope.line ≤ above.length := by
  induction above with
  | nil => contradiction
  | cons line above ih =>
      rw [scopeAbove?, Option.or_eq_some_iff] at found
      rcases found with opened | ⟨_, found⟩
      · obtain ⟨_, _, _, _, _, rfl⟩ := exists_hit_of_scopeOpenedBy? opened
        exact Nat.le_refl _
      · exact Nat.le_succ_of_le (ih found)

theorem enclosing?_none (kinds : List ScopeKind) (lines : List String) (index : Nat) :
    language.enclosing? kinds lines index none =
      language.scopeAbove? kinds (lines.take (index + 1)).reverse := by
  rw [enclosing?]
  cases (lines.take (index + 1)).reverse <;> rfl

/-- The scope of a call site is opened on a line above it, or by what stands left of it. -/
theorem exists_line_of_enclosingFunction? {lines : List String} {index site : Nat} {line : String}
    (inside : lines[index]? = some line) {scope : Scope}
    (found : language.enclosingFunction? lines index (some site) = some scope) :
    1 ≤ scope.line ∧ ∃ text, language.scopeOpenedBy? [.function] scope.line text = some scope ∧
      (lines[scope.line - 1]? = some text ∨
        scope.line = index + 1 ∧ text = visible line site) := by
  have short : index < lines.length := (List.getElem?_eq_some_iff.mp inside).1
  have upTo : (lines.take (index + 1)).reverse = line :: (lines.take index).reverse := by
    rw [List.take_add_one, inside, Option.toList_some, List.reverse_append]
    rfl
  rw [enclosingFunction?, enclosing?, upTo] at found
  dsimp only at found
  rw [if_pos short] at found
  obtain ⟨positive, text, stands, opened⟩ := exists_line_of_scopeAbove? found
  refine ⟨positive, text, opened, ?_⟩
  rw [List.reverse_cons, List.reverse_reverse] at stands
  by_cases upwards : scope.line - 1 < index
  · left
    rw [List.getElem?_append_left (by rw [List.length_take]; omega), List.getElem?_take_of_lt upwards]
      at stands
    exact stands
  · right
    have last := (List.getElem?_eq_some_iff.mp stands).1
    rw [List.length_append, List.length_take, List.length_singleton] at last
    have here : scope.line - 1 = (lines.take index).length := by
      rw [List.length_take]
      omega
    rw [here, List.getElem?_concat_length] at stands
    rw [List.length_take] at here
    exact ⟨by omega, (Option.some.inj stands).symm⟩

theorem text_of_callSite? {rules : TargetRules} {line : String} {site : Nat}
    (called : language.callSite? rules line = some site) : language.isComment line = false := by
  rw [callSite?, Option.ite_none_left_eq_some, Bool.not_eq_true] at called
  exact called.1

/-- A scope in which a target is called is opened by a line of the file that is no comment, or by the part
of it before the call. -/
theorem exists_line_of_mem_callerScopes {rules : TargetRules} {lines : List String} {scope : Scope}
    (member : scope ∈ language.callerScopes rules lines 0 (Thunk.pure none)) :
    1 ≤ scope.line ∧ ∃ line text, lines[scope.line - 1]? = some line ∧
      language.isComment line = false ∧ text.toList <+: line.toList ∧
      language.scopeOpenedBy? [.function] scope.line text = some scope := by
  rw [callerScopes_eq] at member
  obtain ⟨⟨line, index⟩, inLines, found⟩ := List.mem_filterMap.mp member
  obtain ⟨site, called, found⟩ := Option.bind_eq_some_iff.mp found
  have inside : lines[index]? = some line := List.mk_mem_zipIdx_iff_getElem?.mp inLines
  obtain ⟨positive, text, opened, place⟩ := exists_line_of_enclosingFunction? inside found
  refine ⟨positive, ?_⟩
  rcases place with stands | ⟨here, seen⟩
  · have visible := (exists_hit_of_scopeOpenedBy? opened).1
    exact ⟨text, text, stands, visible, List.prefix_refl _, opened⟩
  · subst seen
    refine ⟨line, visible line site, ?_, text_of_callSite? called, visible_isPrefix line site, opened⟩
    rw [here]
    exact inside

theorem Regular.exists_line_of_mem_callerScopes (regular : language.Regular) {rules : TargetRules}
    {lines : List String} {scope : Scope}
    (member : scope ∈ language.callerScopes rules lines 0 (Thunk.pure none)) :
    1 ≤ scope.line ∧ ∃ line, lines[scope.line - 1]? = some line ∧ language.isComment line = false ∧
      Pattern.isIdentifier scope.name.toList = true ∧ scope.name.toList <:+: line.toList := by
  obtain ⟨positive, line, text, inside, visible, part, opened⟩ :=
    Language.exists_line_of_mem_callerScopes member
  have named := regular.name_of_scopeOpenedBy? opened
  exact ⟨positive, line, inside, visible, named.1, named.2.trans part.isInfix⟩

theorem Regular.isIdentifier_of_mem_callsIn (regular : language.Regular) {text : String}
    {withBuiltins : Bool} {name : String} (called : name ∈ language.callsIn text withBuiltins) :
    Pattern.isIdentifier name.toList = true := by
  obtain ⟨_, line, _, _, rule, member, hit, inRule, rfl⟩ := exists_hit_of_mem_callsIn called
  exact ((regular.calls rule member).of_mem_findAll inRule).isIdentifier

end Language

end Callsite

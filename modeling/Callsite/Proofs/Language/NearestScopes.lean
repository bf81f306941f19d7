import Callsite.Proofs.Language.Scopes

set_option autoImplicit false

/-! The nearest scopes. From one line to the next the scope stays what it is, unless the next line opens one.
So a scope reaches from the line that opens it to the next such line, whatever stands further down; and the
scope of both kinds is the nearer one of the function and the type. -/

namespace Callsite

/-- Of a type and a function, the one that is declared further down; the type, if one line declares both. -/
def Scope.nearer (type function : Scope) : Scope :=
  if type.line < function.line then function else type

namespace Language

/-- The scope that line `index`, counted from 0, opens. -/
def openedAt? (language : Language) (kinds : List ScopeKind) (lines : List String) (index : Nat) :
    Option Scope :=
  lines[index]?.bind (language.scopeOpenedBy? kinds (index + 1))

variable {language : Language} {kinds : List ScopeKind} {lines : List String} {index later : Nat} {scope : Scope}

/-! ### From one line to the next -/

theorem exists_hit_of_openedAt? (opened : language.openedAt? kinds lines index = some scope) :
    index < lines.length ∧ scope.line = index + 1 ∧ language.isKeyword scope.name = false := by
  obtain ⟨line, stands, opened⟩ := Option.bind_eq_some_iff.mp opened
  obtain ⟨_, kind, _, hit, hits, rfl⟩ := exists_hit_of_scopeOpenedBy? opened
  obtain ⟨_, _, _, plain, _⟩ := exists_rule_of_openerHit? hits
  exact ⟨(List.getElem?_eq_some_iff.mp stands).1, rfl, plain⟩

theorem scopeAbove?_take_succ (kinds : List ScopeKind) (lines : List String) (count : Nat) :
    language.scopeAbove? kinds (lines.take (count + 1)).reverse =
      (language.openedAt? kinds lines count).or (language.scopeAbove? kinds (lines.take count).reverse) := by
  rw [List.take_add_one, openedAt?]
  cases stands : lines[count]? with
  | none =>
      rw [Option.toList_none, List.append_nil, Option.bind_none, Option.none_or]
  | some line =>
      have short : count < lines.length := (List.getElem?_eq_some_iff.mp stands).1
      have length : (lines.take count).reverse.length = count := by
        rw [List.length_reverse, List.length_take, Nat.min_eq_left (Nat.le_of_lt short)]
      rw [Option.toList_some, List.reverse_append, List.reverse_singleton, List.singleton_append, scopeAbove?,
        length, Option.bind_some]

theorem enclosing?_zero (kinds : List ScopeKind) (lines : List String) :
    language.enclosing? kinds lines 0 none = language.openedAt? kinds lines 0 := by
  rw [enclosing?_none, scopeAbove?_take_succ, List.take_zero, List.reverse_nil, scopeAbove?, Option.or_none]

theorem enclosing?_succ (kinds : List ScopeKind) (lines : List String) (index : Nat) :
    language.enclosing? kinds lines (index + 1) none =
      (language.openedAt? kinds lines (index + 1)).or (language.enclosing? kinds lines index none) := by
  rw [enclosing?_none, scopeAbove?_take_succ, ← enclosing?_none]

/-! ### Two kinds of scopes -/

theorem openedAt?_both (lines : List String) (index : Nat) :
    language.openedAt? [.type, .function] lines index =
      (language.openedAt? [.type] lines index).or (language.openedAt? [.function] lines index) := by
  rw [openedAt?, openedAt?, openedAt?]
  cases lines[index]? with
  | none => rfl
  | some line =>
      rw [Option.bind_some, Option.bind_some, Option.bind_some, scopeOpenedBy?, scopeOpenedBy?, scopeOpenedBy?]
      split
      · rfl
      · simp only [List.findSome?_cons, List.findSome?_nil]
        cases language.openerHit? (language.openers .type) line <;>
          cases language.openerHit? (language.openers .function) line <;> rfl

/-- Among the first lines, the scope of both kinds is the nearer one. The induction goes through the lines: one
that opens a scope stands below the lines of all scopes opened before. -/
theorem scopeAbove?_both (lines : List String) (count : Nat) :
    language.scopeAbove? [.type, .function] (lines.take count).reverse =
      Option.merge Scope.nearer (language.scopeAbove? [.type] (lines.take count).reverse)
        (language.scopeAbove? [.function] (lines.take count).reverse) := by
  induction count with
  | zero => rfl
  | succ count ih =>
      have below {kinds : List ScopeKind} {scope : Scope}
          (found : language.scopeAbove? kinds (lines.take count).reverse = some scope) :
          scope.line < count + 1 := by
        have above := line_le_of_scopeAbove? found
        rw [List.length_reverse, List.length_take] at above
        omega
      rw [scopeAbove?_take_succ, scopeAbove?_take_succ, scopeAbove?_take_succ, openedAt?_both, ih]
      cases type : language.openedAt? [.type] lines count with
      | none =>
          cases function : language.openedAt? [.function] lines count with
          | none => rfl
          | some opened =>
              have line := (exists_hit_of_openedAt? function).2.1
              cases earlier : language.scopeAbove? [.type] (lines.take count).reverse with
              | none => rfl
              | some scope =>
                  have near : scope.line < opened.line := line ▸ below earlier
                  exact congrArg some (if_pos near).symm
      | some opened =>
          have line := (exists_hit_of_openedAt? type).2.1
          cases function : (language.openedAt? [.function] lines count).or
              (language.scopeAbove? [.function] (lines.take count).reverse) with
          | none => rfl
          | some scope =>
              have far : ¬opened.line < scope.line := by
                rcases Option.or_eq_some_iff.mp function with here | ⟨_, earlier⟩
                · have lineToo := (exists_hit_of_openedAt? here).2.1
                  omega
                · have earlier := below earlier
                  omega
              exact congrArg some (if_neg far).symm

/-- The scope around a line is the nearer one of the type and the function around it: the one of them that there
is, or the one that is declared further down, which is the type if one line declares both. -/
theorem enclosingScope?_nearer (language : Language) (lines : List String) (index : Nat) :
    (language.enclosingScope? lines index = none ↔
      language.enclosingFunction? lines index none = none ∧ language.enclosingType? lines index = none) ∧
    language.enclosingScope? lines index =
      Option.merge Scope.nearer (language.enclosingType? lines index)
        (language.enclosingFunction? lines index none) := by
  have merged : language.enclosingScope? lines index =
      Option.merge Scope.nearer (language.enclosingType? lines index)
        (language.enclosingFunction? lines index none) := by
    rw [enclosingScope?, enclosingType?, enclosingFunction?, enclosing?_none, enclosing?_none, enclosing?_none,
      scopeAbove?_both]
  refine ⟨?_, merged⟩
  rw [merged]
  cases language.enclosingType? lines index <;> cases language.enclosingFunction? lines index none <;> simp

/-! ### How far a scope reaches -/

/-- The scopes of lines, as `scopeOf` tells them: each reaches from the line that opens it to the next one that
opens a scope, and nothing further down matters. -/
structure Settled (language : Language) (scopeOf : List String → Nat → Option Scope) : Prop where
  bounds : ∀ {lines index scope}, scopeOf lines index = some scope →
    1 ≤ scope.line ∧ scope.line ≤ min (index + 1) lines.length
  plain : ∀ {lines index scope}, scopeOf lines index = some scope → language.isKeyword scope.name = false
  reaches : ∀ {lines index scope}, scopeOf lines index = some scope →
    ∀ between, scope.line - 1 ≤ between → between ≤ index → scopeOf lines between = some scope
  upwards : ∀ {lines others index}, lines.take (index + 1) = others.take (index + 1) →
    scopeOf lines index = scopeOf others index
  pastEnd : ∀ {lines index}, lines.length ≤ index → scopeOf lines index = scopeOf lines (lines.length - 1)
  downwards : ∀ {lines index later scope}, index ≤ later → scopeOf lines index = some scope →
    ∃ nearer, scopeOf lines later = some nearer ∧ scope.line ≤ nearer.line

theorem enclosing?_cases (found : language.enclosing? kinds lines (index + 1) none = some scope) :
    language.openedAt? kinds lines (index + 1) = some scope ∨
      language.enclosing? kinds lines index none = some scope := by
  rw [enclosing?_succ, Option.or_eq_some_iff] at found
  exact found.imp id And.right

theorem exists_openedAt?_of_enclosing? (found : language.enclosing? kinds lines index none = some scope) :
    ∃ opening ≤ index, language.openedAt? kinds lines opening = some scope := by
  induction index with
  | zero => exact ⟨0, Nat.le_refl 0, enclosing?_zero kinds lines ▸ found⟩
  | succ index ih =>
      rcases enclosing?_cases found with here | above
      · exact ⟨index + 1, Nat.le_refl _, here⟩
      · obtain ⟨opening, before, opened⟩ := ih above
        exact ⟨opening, Nat.le_succ_of_le before, opened⟩

theorem enclosing?_of_between (found : language.enclosing? kinds lines index none = some scope) {between : Nat}
    (below : scope.line - 1 ≤ between) (above : between ≤ index) :
    language.enclosing? kinds lines between none = some scope := by
  induction index with
  | zero => exact Nat.le_zero.mp above ▸ found
  | succ index ih =>
      rcases Nat.le_succ_iff.mp above with earlier | rfl
      · rcases enclosing?_cases found with here | further
        · have line := (exists_hit_of_openedAt? here).2.1
          omega
        · exact ih further earlier
      · exact found

theorem exists_enclosing?_of_le (found : language.enclosing? kinds lines index none = some scope)
    (below : index ≤ later) :
    ∃ nearer, language.enclosing? kinds lines later none = some nearer ∧ scope.line ≤ nearer.line := by
  induction later, below using Nat.le_induction with
  | base => exact ⟨scope, found, Nat.le_refl _⟩
  | succ later below ih =>
      rw [enclosing?_succ]
      cases opened : language.openedAt? kinds lines (later + 1) with
      | none => exact ih
      | some nearer =>
          obtain ⟨opening, before, first⟩ := exists_openedAt?_of_enclosing? found
          have line := (exists_hit_of_openedAt? first).2.1
          have lineToo := (exists_hit_of_openedAt? opened).2.1
          exact ⟨nearer, rfl, by omega⟩

theorem enclosing?_settled (language : Language) (kinds : List ScopeKind) :
    language.Settled fun lines index => language.enclosing? kinds lines index none where
  bounds found := by
    obtain ⟨opening, before, opened⟩ := exists_openedAt?_of_enclosing? found
    obtain ⟨inside, line, _⟩ := exists_hit_of_openedAt? opened
    omega
  plain found := by
    obtain ⟨_, _, opened⟩ := exists_openedAt?_of_enclosing? found
    exact (exists_hit_of_openedAt? opened).2.2
  reaches found between below above := enclosing?_of_between found below above
  upwards same := by rw [enclosing?_none, enclosing?_none, same]
  pastEnd {lines index} past := by
    have whole : lines.take (index + 1) = lines := List.take_of_length_le (Nat.le_succ_of_le past)
    have wholeToo : lines.take (lines.length - 1 + 1) = lines := List.take_of_length_le (by omega)
    rw [enclosing?_none, enclosing?_none, whole, wholeToo]
  downwards below found := exists_enclosing?_of_le found below

/-- The function, the type and the scope around a line, with the whole line in view, all reach from the line that
opens them to the next one that opens such a scope. -/
theorem scopes_settled (language : Language) :
    language.Settled (fun lines index => language.enclosingFunction? lines index none) ∧
      language.Settled language.enclosingType? ∧ language.Settled language.enclosingScope? :=
  ⟨language.enclosing?_settled [.function], language.enclosing?_settled [.type],
    language.enclosing?_settled [.type, .function]⟩

end Language

end Callsite

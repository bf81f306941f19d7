import Callsite.Proofs.Language.AbstractRules
import Callsite.Proofs.Language.ShippedRegistry

set_option autoImplicit false

/-! Scopes that can be found again. The function around a line stands on a line that declares it: the rules
for its name find it there, by a rule of the same kind as the one that opened the scope. -/

namespace Callsite

open Pattern

/-! ### Tables in order -/

theorem ranked_of_kind (kind : RuleKind) {kinds : List RuleKind} (same : ∀ other ∈ kinds, other = kind)
    (frames : List Frame) : Ranked (kinds.zip frames) := by
  refine List.pairwise_of_forall_mem_list fun earlier inFront later behind => .inl ?_
  rw [same _ (List.of_mem_zip inFront).1, same _ (List.of_mem_zip behind).1]

theorem Ranked.cons {kind : RuleKind} {frame : Frame} {kinds : List RuleKind} {frames : List Frame}
    (yields : ∀ later ∈ frames, frame.Yields later) (ranked : Ranked (kinds.zip frames)) :
    Ranked ((kind :: kinds).zip (frame :: frames)) :=
  List.pairwise_cons.mpr ⟨fun _ member => .inr (yields _ (List.of_mem_zip member).2), ranked⟩

/-- The rules for functions all begin with a line, and give way to later rules of other kinds. -/
structure LanguageTable.Orderly (table : LanguageTable) (frames : List Frame) : Prop where
  framed : FramedAll table.declarations frames
  ranked : Ranked ((table.declarations.map RuleTemplate.kind).zip frames)

theorem FramedAll.orderly {table : LanguageTable} {frames : List Frame}
    (framed : FramedAll table.declarations frames)
    (same : ∀ kind ∈ table.declarations.map RuleTemplate.kind, kind = .declaration) : table.Orderly frames :=
  ⟨framed, ranked_of_kind .declaration same frames⟩

namespace Shipped

theorem java_orderly : java.Orderly [javaAbstract, javaMethod, javaConstructor] := by
  refine ⟨java_framed, .cons ?_ (ranked_of_kind .declaration (by decide) _)⟩
  simp only [List.forall_mem_cons]
  exact ⟨javaAbstract_yields_javaMethod, javaAbstract_yields_javaConstructor, List.forall_mem_nil _⟩

theorem csharp_orderly : csharp.Orderly [csharpAbstract, csharpArrow, csharpMethod, csharpConstructor] := by
  refine ⟨csharp_framed, .cons ?_ (ranked_of_kind .declaration (by decide) _)⟩
  simp only [List.forall_mem_cons]
  exact ⟨csharpAbstract_yields_csharpArrow, csharpAbstract_yields_csharpMethod,
    csharpAbstract_yields_csharpConstructor, List.forall_mem_nil _⟩

theorem rust_orderly : rust.Orderly [rustSignature, rustFunction] := by
  refine ⟨rust_framed, .cons ?_ (ranked_of_kind .declaration (by decide) _)⟩
  exact List.forall_mem_singleton.mpr rustSignature_yields_rustFunction

theorem cpp_orderly : cpp.Orderly [cppVirtual, cppFunction, cppMember] := by
  refine ⟨cpp_framed, .cons ?_ (ranked_of_kind .declaration (by decide) _)⟩
  simp only [List.forall_mem_cons]
  exact ⟨cppVirtual_yields_cppFunction, cppVirtual_yields_cppMember, List.forall_mem_nil _⟩

theorem typescript_orderly : typescript.Orderly
    [typescriptAbstract, typescriptFunction, typescriptArrow, scriptProperty, typescriptMethod] := by
  refine ⟨typescript_framed, .cons ?_ (ranked_of_kind .declaration (by decide) _)⟩
  simp only [List.forall_mem_cons]
  exact ⟨typescriptAbstract_yields_typescriptFunction, typescriptAbstract_yields_typescriptArrow,
    typescriptAbstract_yields_scriptProperty, typescriptAbstract_yields_typescriptMethod, List.forall_mem_nil _⟩

theorem php_orderly : php.Orderly [phpAbstract, phpFunction] := by
  refine ⟨php_framed, .cons ?_ (ranked_of_kind .declaration (by decide) _)⟩
  exact List.forall_mem_singleton.mpr phpAbstract_yields_phpFunction

theorem tables_orderly : ∀ table ∈ generic :: tables, ∃ frames, table.Orderly frames := by
  simp only [tables, List.forall_mem_cons]
  exact ⟨⟨_, generic_framed.orderly (by decide)⟩, ⟨_, javascript_framed.orderly (by decide)⟩,
    ⟨_, typescript_orderly⟩, ⟨_, python_framed.orderly (by decide)⟩, ⟨_, java_orderly⟩, ⟨_, csharp_orderly⟩,
    ⟨_, go_framed.orderly (by decide)⟩, ⟨_, rust_orderly⟩, ⟨_, cpp_orderly⟩,
    ⟨_, ruby_framed.orderly (by decide)⟩, ⟨_, php_orderly⟩, List.forall_mem_nil _⟩

end Shipped

/-! ### Scopes -/

theorem paired_of_framed {templates : List RuleTemplate} {frames : List Frame}
    (framed : FramedAll templates frames) (target : String) :
    ∃ frees targets, compileAll templates none = .ok frees ∧ compileAll templates (some target) = .ok targets ∧
      Paired target ((templates.map RuleTemplate.kind).zip frames) frees targets := by
  induction framed with
  | nil => exact ⟨[], [], rfl, rfl, .nil⟩
  | cons first _ ih =>
      obtain ⟨framed, anchored⟩ := first
      obtain ⟨free, compiledFree, fillsFree, kindFree⟩ := framed.compile none
      obtain ⟨rule, compiledRule, fillsRule, kindRule⟩ := framed.compile (some target)
      obtain ⟨frees, targets, compiledFrees, compiledTargets, paired⟩ := ih
      exact ⟨free :: frees, rule :: targets, compileAll_cons compiledFree compiledFrees,
        compileAll_cons compiledRule compiledTargets,
        .cons fillsFree fillsRule kindFree kindRule anchored paired⟩

namespace Language

variable {language : Language} {lines : List String} {index : Nat} {scope : Scope}

def Declares (language : Language) (line : String) (scope : Scope) : Prop :=
  ∃ rules hit, language.rulesFor scope.name = .ok rules ∧ rules.declaration? line = some hit ∧
    hit.name = scope.name ∧ (hit.kind = .abstractDeclaration ↔ scope.abstractDeclaration = true)

theorem exists_line_above_of_enclosingFunction?
    (found : language.enclosingFunction? lines index none = some scope) :
    1 ≤ scope.line ∧ ∃ line, lines[scope.line - 1]? = some line ∧
      language.scopeOpenedBy? [.function] scope.line line = some scope := by
  rw [enclosingFunction?, enclosing?_none] at found
  obtain ⟨positive, line, stands, opened⟩ := exists_line_of_scopeAbove? found
  rw [List.reverse_reverse, List.getElem?_take] at stands
  split at stands
  · exact ⟨positive, line, stands, opened⟩
  · contradiction

end Language

theorem LanguageTable.Orderly.declares {table : LanguageTable} {frames : List Frame}
    (orderly : table.Orderly frames) (slotted : ∀ template ∈ table.calls, template.Slotted) {line : String}
    {number : Nat} {scope : Scope}
    (opened : table.language.scopeOpenedBy? [.function] number line = some scope) :
    table.language.Declares line scope ∧ table.language.isKeyword scope.name = false := by
  obtain ⟨_, kind, member, hit, hits, rfl⟩ := Language.exists_hit_of_scopeOpenedBy? opened
  cases List.mem_singleton.mp member
  obtain ⟨frees, targets, compiledFrees, compiledTargets, paired⟩ :=
    paired_of_framed orderly.framed hit.name
  obtain ⟨calls, compiledCalls, _⟩ := compileAll_of_slotted slotted (some hit.name)
  have openers : table.language.openers .function = frees := rulesOf_eq compiledFrees
  rw [openers] at hits
  obtain ⟨found, declared, named, kinds⟩ := paired.exists_declaration orderly.ranked hits rfl
  obtain ⟨_, _, _, plain, _⟩ := Language.exists_rule_of_openerHit? hits
  refine ⟨⟨⟨targets, calls, table.statementWords⟩, found, ?_, declared, named, ?_⟩, plain⟩
  · have same : table.language.table = table := rfl
    rw [Language.rulesFor, same, compiledTargets, compiledCalls]
    rfl
  · rw [kinds, decide_eq_true_eq]

/-- The function around a line stands on a line that declares it, abstract or not as the scope says, and its
name is no keyword. -/
theorem Shipped.declares_of_enclosingFunction? (languageName : String) {lines : List String} {index : Nat}
    {scope : Scope}
    (found : (registry.language languageName).enclosingFunction? lines index none = some scope) :
    1 ≤ scope.line ∧ ∃ line, lines[scope.line - 1]? = some line ∧
      (registry.language languageName).Declares line scope ∧
        (registry.language languageName).isKeyword scope.name = false := by
  have each : registry.Every fun language => ∀ {number line scope},
      language.scopeOpenedBy? [.function] number line = some scope →
        language.Declares line scope ∧ language.isKeyword scope.name = false := by
    refine registry_every fun table member => ?_
    obtain ⟨frames, orderly⟩ := tables_orderly table member
    have slotted := List.forall_mem_append.mp (templates_slotted table member)
    intro number line scope opened
    exact orderly.declares slotted.2 opened
  obtain ⟨positive, line, stands, opened⟩ := Language.exists_line_above_of_enclosingFunction? found
  exact ⟨positive, line, stands, each.language languageName opened⟩

namespace Signature

/-- A declaration that the rules for signatures and those for functions both read. -/
def lines : List String :=
  ["trait Shape \x7b", "    fn area(&self) -> f64;", "\x7d"]

def scope : Scope :=
  ⟨"area", 2, .function, true⟩

theorem enclosing : (Shipped.registry.language "rust").enclosingFunction? lines 2 none = some scope := by
  have known : Shipped.registry.language "rust" = Shipped.rust.language := rfl
  -- The rules are taken from their frames, since to read the templates once more is slow.
  rw [known, LanguageTable.language, Shipped.rust_framed.rulesOf_eq]
  decide +kernel

theorem area_declared : 1 ≤ scope.line ∧ ∃ line, lines[scope.line - 1]? = some line ∧
    (Shipped.registry.language "rust").Declares line scope ∧
      (Shipped.registry.language "rust").isKeyword scope.name = false :=
  Shipped.declares_of_enclosingFunction? "rust" enclosing

end Signature

end Callsite

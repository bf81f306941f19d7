import Callsite.Language.Registry
import Callsite.Proofs.Pattern.Slot
import Callsite.Scope

set_option autoImplicit false

/-! The names of hits. A rule made from a slotted template captures a match of what fills its slot: the
name that is looked for, or an identifier. Either way the name of a hit stands on the line. -/

namespace Callsite

open Pattern

/-! ### Matches in a text -/

/-- A match of the pattern that begins somewhere in the text. -/
structure Found.Stands (found : Found) (pattern : Pattern) (text : List Char) : Prop where
  start : ∃ before, (Cursor.start text).Reaches before found.start
  way : found.way ∈ pattern.ways found.start

namespace Pattern

private theorem stands_of_match? {pattern : Pattern} {text : List Char} {start : Cursor}
    (member : start ∈ positions text none 0) {way : Way} (matched : pattern.match? start = some way) :
    (Found.mk start way).Stands pattern text :=
  ⟨exists_reaches_of_mem_positions member, List.mem_of_head? matched⟩

theorem stands_of_find? {pattern : Pattern} {text : List Char} {found : Found}
    (finds : pattern.find? text = some found) : found.Stands pattern text := by
  rw [find?_eq] at finds
  obtain ⟨start, member, matched⟩ := List.exists_of_findSome?_eq_some finds
  obtain ⟨way, first, rfl⟩ := Option.map_eq_some_iff.mp matched
  exact stands_of_match? member first

theorem exists_of_mem_select {found : Found} {starts : List (Cursor × Thunk (Option Way))} :
    ∀ {taken : Option Nat}, found ∈ select taken starts →
      ∃ start ∈ starts, start.1 = found.start ∧ start.2.get = some found.way := by
  induction starts with
  | nil => intro taken member; contradiction
  | cons head rest ih =>
      intro taken member
      have later : ∀ {taken}, found ∈ select taken rest →
          ∃ start ∈ head :: rest, start.1 = found.start ∧ start.2.get = some found.way := by
        intro taken member
        obtain ⟨start, inRest, facts⟩ := ih member
        exact ⟨start, List.mem_cons_of_mem head inRest, facts⟩
      rw [select] at member
      split at member
      · exact later member
      split at member
      · exact later member
      · rename_i way matched
        dsimp only at member
        split at member
        · exact later member
        · rcases List.mem_cons.mp member with rfl | inRest
          · exact ⟨head, List.mem_cons_self, rfl, matched⟩
          · exact later inRest

theorem stands_of_mem_findAll {pattern : Pattern} {text : List Char} {found : Found}
    (member : found ∈ pattern.findAll text) : found.Stands pattern text := by
  rw [findAll_eq] at member
  obtain ⟨start, inStarts, same, matched⟩ := exists_of_mem_select member
  obtain ⟨cursor, inText, rfl⟩ := List.mem_map.mp inStarts
  subst same
  exact stands_of_match? inText matched

end Pattern

/-! ### Hits -/

/-- A hit whose name is a match of `inner` in the text, at the byte where the hit starts. -/
def Hit.NamedBy (hit : Hit) (inner : Pattern) (text : List Char) : Prop :=
  ∃ before start way, (Cursor.start text).Reaches before start ∧ way ∈ inner.ways start ∧
    hit.name.toList = start.textUpTo way.stop ∧ hit.start = start.offset

theorem Rule.kind_of_find? {rule : Rule} {line : String} {hit : Hit}
    (found : rule.find? line = some hit) : hit.kind = rule.kind := by
  obtain ⟨_, _, captured⟩ := Option.bind_eq_some_iff.mp found
  obtain ⟨_, _, rfl⟩ := Option.map_eq_some_iff.mp captured
  rfl

/-- A rule whose name group has the body `inner` wherever it occurs. -/
structure Rule.NamesBy (rule : Rule) (inner : Pattern) : Prop where
  captures : rule.group ≠ 0
  plain : ∀ body, (rule.group, body) ∉ inner.groups
  all : ∀ body, (rule.group, body) ∈ rule.pattern.groups → body = inner

namespace Rule.NamesBy

variable {rule : Rule} {inner : Pattern} (names : rule.NamesBy inner)

include names

private theorem namedBy_of_hit? {text : List Char} {found : Found} {hit : Hit}
    (stands : found.Stands rule.pattern text) (hits : rule.hit? found = some hit) :
    hit.NamedBy inner text := by
  obtain ⟨⟨start, stop⟩, captured, rfl⟩ := Option.map_eq_some_iff.mp hits
  rw [Found.group?, if_neg names.captures] at captured
  obtain ⟨⟨skipped, reached⟩, way, inWays, rfl⟩ :=
    captured_of_group? names.plain names.all stands.way captured
  obtain ⟨before, ahead⟩ := stands.start
  exact ⟨before ++ skipped, start, way, ahead.trans reached, inWays, String.toList_ofList, rfl⟩

theorem of_find? {line : String} {hit : Hit} (hits : rule.find? line = some hit) :
    hit.NamedBy inner line.toList := by
  rw [Rule.find?, Rule.found?_eq, Option.bind_eq_some_iff] at hits
  obtain ⟨found, finds, hits⟩ := hits
  exact names.namedBy_of_hit? (stands_of_find? finds) hits

theorem of_mem_findAll {line : String} {hit : Hit} (member : hit ∈ rule.findAll line) :
    hit.NamedBy inner line.toList := by
  rw [Rule.findAll, Rule.allFound_eq] at member
  obtain ⟨found, finds, hits⟩ := List.mem_filterMap.mp member
  exact names.namedBy_of_hit? (stands_of_mem_findAll finds) hits

end Rule.NamesBy

namespace Hit.NamedBy

variable {hit : Hit} {text : List Char}

theorem isInfix {inner : Pattern} (named : hit.NamedBy inner text) : hit.name.toList <:+: text := by
  obtain ⟨before, start, way, reached, inWays, name, _⟩ := named
  obtain ⟨consumed, onward, _⟩ := exists_reaches_of_mem_ways inWays
  have whole : text = before ++ start.rest := reached.rest_eq
  rw [name, onward.textUpTo_eq, whole, onward.rest_eq, ← List.append_assoc]
  exact List.infix_append before consumed way.stop.rest

theorem eq_of_literals {target : String} (named : hit.NamedBy (literals target.toList) text) :
    hit.name = target := by
  obtain ⟨before, start, way, _, inWays, name, _⟩ := named
  have spelled : hit.name.toList = target.toList := by
    rw [name, (reaches_of_mem_literals inWays).textUpTo_eq]
  rw [← String.ofList_toList (s := hit.name), spelled, String.ofList_toList]

theorem isIdentifier (named : hit.NamedBy identifier text) :
    Pattern.isIdentifier hit.name.toList = true := by
  obtain ⟨before, start, way, _, inWays, spelled, _⟩ := named
  obtain ⟨name, onward, shape⟩ := isIdentifier_of_mem_ways inWays
  rw [spelled, onward.textUpTo_eq, shape]

end Hit.NamedBy

/-! ### Compiled templates -/

theorem Pattern.groups_slotBody (target : Option String) : (slotBody target).groups = [] := by
  cases target with
  | none => rfl
  | some target => exact groups_literals target.toList

theorem RuleTemplate.Slotted.compile {template : RuleTemplate} (slotted : template.Slotted)
    (target : Option String) :
    ∃ rule, template.compile target = .ok rule ∧ rule.NamesBy (slotBody target) := by
  obtain ⟨shape, group, reads⟩ := slotted
  have plain : ∀ index body, (index, body) ∉ (slotBody target).groups := by
    intro index body
    rw [groups_slotBody]
    exact List.not_mem_nil
  refine ⟨_, by rw [RuleTemplate.compile, reads target]; rfl, ?_, plain _, ?_⟩
  · rw [group]
    exact Nat.one_ne_zero
  · intro body member
    rw [group] at member
    exact eq_of_mem_groups_fillGroup (plain 1) member

theorem compileAll_cons {template : RuleTemplate} {templates : List RuleTemplate} {target : Option String}
    {rule : Rule} {rules : List Rule} (compiled : template.compile target = .ok rule)
    (compiledRest : compileAll templates target = .ok rules) :
    compileAll (template :: templates) target = .ok (rule :: rules) := by
  rw [compileAll] at compiledRest
  rw [compileAll, List.mapM_cons, compiled, compiledRest]
  rfl

theorem compileAll_of_slotted {templates : List RuleTemplate}
    (slotted : ∀ template ∈ templates, template.Slotted) (target : Option String) :
    ∃ rules, compileAll templates target = .ok rules ∧
      ∀ rule ∈ rules, rule.NamesBy (slotBody target) := by
  induction templates with
  | nil => exact ⟨[], rfl, nofun⟩
  | cons template rest ih =>
      obtain ⟨rule, compiled, names⟩ := (slotted template List.mem_cons_self).compile target
      obtain ⟨rules, compiledRest, namesRest⟩ :=
        ih fun other member => slotted other (List.mem_cons_of_mem template member)
      exact ⟨rule :: rules, compileAll_cons compiled compiledRest, List.forall_mem_cons.mpr ⟨names, namesRest⟩⟩

def LanguageTable.templates (table : LanguageTable) : List RuleTemplate :=
  table.declarations ++ table.typeOpeners ++ table.calls

/-- A language whose rules for any name capture identifiers, and whose rules for one name compile and
capture that name. -/
structure Language.Regular (language : Language) : Prop where
  openers : ∀ kind, ∀ rule ∈ language.openers kind, rule.NamesBy identifier
  calls : ∀ rule ∈ language.callRules, rule.NamesBy identifier
  rulesFor : ∀ target, ∃ rules, language.rulesFor target = .ok rules ∧
    ∀ rule ∈ rules.declarations ++ rules.calls, rule.NamesBy (literals target.toList)

section

variable {language : Language} (regular : language.Regular) {target : String} {rules : TargetRules}
  (compiled : language.rulesFor target = .ok rules) {line : String} {hit : Hit}
  (declared : rules.declaration? line = some hit)

include regular compiled declared

theorem Language.Regular.exists_rule_of_declaration? :
    ∃ rule : Rule, rule.NamesBy (literals target.toList) ∧ rule.find? line = some hit := by
  obtain ⟨same, compiledSame, names⟩ := regular.rulesFor target
  cases Except.ok.inj (compiledSame.symm.trans compiled)
  obtain ⟨rule, member, hits⟩ := List.exists_of_findSome?_eq_some declared
  exact ⟨rule, names rule (List.mem_append_left _ member), (Option.filter_eq_some_iff.mp hits).1⟩

theorem Language.Regular.isInfix_of_declaration? : target.toList <:+: line.toList := by
  obtain ⟨rule, names, found⟩ := regular.exists_rule_of_declaration? compiled declared
  have named := names.of_find? found
  rw [← named.eq_of_literals]
  exact named.isInfix

end

/-- The rules of the templates for any name, or none if not all templates compile. -/
def rulesOf (templates : List RuleTemplate) : List Rule :=
  (compileAll templates none).toOption.getD []

theorem rulesOf_eq {templates : List RuleTemplate} {rules : List Rule}
    (compiled : compileAll templates none = .ok rules) : rulesOf templates = rules := by
  rw [rulesOf, compiled]
  rfl

def LanguageTable.language (table : LanguageTable) : Language :=
  ⟨table, rulesOf table.declarations, rulesOf table.typeOpeners, rulesOf table.calls⟩

theorem LanguageTable.ofTable_of_slotted {table : LanguageTable}
    (slotted : ∀ template ∈ table.templates, template.Slotted) :
    Language.ofTable table = .ok table.language ∧ table.language.Regular := by
  rw [templates, List.forall_mem_append, List.forall_mem_append] at slotted
  obtain ⟨⟨declarations, typeOpeners⟩, calls⟩ := slotted
  obtain ⟨functions, compiledFunctions, namesFunctions⟩ := compileAll_of_slotted declarations none
  obtain ⟨types, compiledTypes, namesTypes⟩ := compileAll_of_slotted typeOpeners none
  obtain ⟨sites, compiledSites, namesSites⟩ := compileAll_of_slotted calls none
  have whole : table.language = ⟨table, functions, types, sites⟩ := by
    rw [language, rulesOf_eq compiledFunctions, rulesOf_eq compiledTypes, rulesOf_eq compiledSites]
  rw [whole]
  refine ⟨?_, ?_, namesSites, ?_⟩
  · rw [Language.ofTable, compiledFunctions, compiledTypes, compiledSites]
    rfl
  · intro kind
    cases kind with
    | function => exact namesFunctions
    | type => exact namesTypes
  · intro target
    obtain ⟨declared, compiledDeclared, namesDeclared⟩ := compileAll_of_slotted declarations (some target)
    obtain ⟨called, compiledCalled, namesCalled⟩ := compileAll_of_slotted calls (some target)
    refine ⟨⟨declared, called, table.statementWords⟩, ?_, ?_⟩
    · rw [Language.rulesFor, compiledDeclared, compiledCalled]
      rfl
    · exact List.forall_mem_append.mpr ⟨namesDeclared, namesCalled⟩

end Callsite

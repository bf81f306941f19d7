import Callsite.Proofs.Provenance
import Callsite.Proofs.SourceLines

set_option autoImplicit false

/-! The definition that a search finds. It is the first line of the listing, in the order of files and of
their lines, that is no comment and declares the name; and a line declares it by the first rule whose hit no
statement word leads. -/

namespace Callsite

/-! ### The deciding rule -/

/-- Whether `rule` decides what a line declares: it has a hit that no statement word leads, and no rule
before it has one. -/
structure TargetRules.Decides (rules : TargetRules) (line : String) (rule : Rule) (hit : Hit) :
    Prop where
  found : rule.find? line = some hit
  unled : precededByWord line hit.start rules.statementWords = false
  first : ∃ before after, rules.declarations = before ++ rule :: after ∧
    ∀ other ∈ before, ∀ lead, other.find? line = some lead →
      precededByWord line lead.start rules.statementWords = true

theorem TargetRules.declaration?_eq_some_iff {rules : TargetRules} {line : String} {hit : Hit} :
    rules.declaration? line = some hit ↔ ∃ rule, rules.Decides line rule hit := by
  rw [declaration?, firstDeclaration, List.findSome?_eq_some_iff]
  constructor
  · rintro ⟨before, rule, after, split, kept, none⟩
    obtain ⟨found, unled⟩ := Option.filter_eq_some_iff.mp kept
    refine ⟨rule, found, (Bool.not_eq_true' _).mp unled, before, after, split, ?_⟩
    intro other member lead hits
    have dropped := none other member
    rw [hits, Option.filter_some, ite_eq_right_iff] at dropped
    cases led : precededByWord line lead.start rules.statementWords with
    | true => rfl
    | false => exact absurd (dropped (by rw [led]; rfl)) (Option.some_ne_none lead)
  · rintro ⟨rule, found, unled, before, after, split, led⟩
    refine ⟨before, rule, after, split, ?_, fun other member => ?_⟩
    · rw [found, Option.filter_some, unled]
      rfl
    · cases hits : other.find? line with
      | none => rfl
      | some lead =>
          rw [Option.filter_some, led other member lead hits]
          rfl

namespace SourceLine

def definition (line : SourceLine) (name : String) (kind : RuleKind) : CallNode where
  functionName := name
  filePath := line.file.path
  line := line.index + 1
  signature := Text.trim line.text
  language := line.file.language
  abstractDeclaration := kind = .abstractDeclaration

/-- Whether a line is no comment and `rule` decides that it declares `name`. -/
structure Declares (registry : Registry) (name : String) (line : SourceLine) (rule : Rule) : Prop where
  code : (registry.language line.file.language).isComment line.text = false
  decided : ∃ rules hit, (registry.language line.file.language).rulesFor name = .ok rules ∧
    rules.Decides line.text rule hit

end SourceLine

/-! ### The search -/

theorem definitionIn?_eq_findSome? (language : Language) (rules : TargetRules) (name : String)
    (file : SourceFile) (lines some : List String) :
    ∀ index, definitionIn? language rules name file (index + 1) some =
      (some.zipIdx index).findSome? fun (text, index) =>
        (if language.isComment text then none else rules.declaration? text).map fun hit =>
          SourceLine.definition ⟨file, lines, index, text⟩ name hit.kind := by
  induction some with
  | nil => exact fun _ => rfl
  | cons line rest ih =>
      intro index
      rw [definitionIn?, List.zipIdx_cons, List.findSome?_cons]
      dsimp only
      cases if language.isComment line then none else rules.declaration? line with
      | some hit => rfl
      | none => exact ih (index + 1)

namespace Workspace

variable (workspace : Workspace) (name : String)

def definitionOn? (line : SourceLine) : Option CallNode :=
  let language := workspace.registry.language line.file.language
  match language.rulesFor name with
  | .error _ => none
  | .ok rules =>
      (if language.isComment line.text then none else rules.declaration? line.text).map fun hit =>
        line.definition name hit.kind

variable {workspace name}

theorem definitionOn?_eq_some_iff {line : SourceLine} {node : CallNode} :
    workspace.definitionOn? name line = some node ↔
      ∃ rule, line.Declares workspace.registry name rule ∧ node = line.definition name rule.kind := by
  rw [definitionOn?]
  constructor
  · intro found
    cases compiled : (workspace.registry.language line.file.language).rulesFor name with
    | error fault =>
        rw [compiled] at found
        contradiction
    | ok rules =>
        rw [compiled] at found
        obtain ⟨hit, hits, rfl⟩ := Option.map_eq_some_iff.mp found
        rw [Option.ite_none_left_eq_some, Bool.not_eq_true] at hits
        obtain ⟨rule, decides⟩ := TargetRules.declaration?_eq_some_iff.mp hits.2
        refine ⟨rule, ⟨hits.1, rules, hit, compiled, decides⟩, ?_⟩
        rw [Rule.kind_of_find? decides.found]
  · rintro ⟨rule, ⟨code, rules, hit, compiled, decides⟩, rfl⟩
    have declared := TargetRules.declaration?_eq_some_iff.mpr ⟨rule, decides⟩
    rw [compiled]
    simp only [code, declared, Rule.kind_of_find? decides.found, Bool.false_eq_true, if_false,
      Option.map_some]

theorem definitionIn?_eq_linesIn {file : SourceFile} {lines : List String} {rules : TargetRules}
    (read : workspace.linesAfresh? file.path = some lines)
    (compiled : (workspace.registry.language file.language).rulesFor name = .ok rules) :
    definitionIn? (workspace.registry.language file.language) rules name file 1 lines =
      (workspace.linesIn file).findSome? (workspace.definitionOn? name) := by
  rw [definitionIn?_eq_findSome? _ _ _ _ lines, linesIn, read]
  dsimp only
  rw [List.findSome?_map]
  congr 1
  funext entry
  simp only [Function.comp_apply, definitionOn?, compiled]

theorem definitionAmong?_eq_linesThrough
    (compiles : ∀ language, ∃ rules, (workspace.registry.language language).rulesFor name = .ok rules)
    (files : List SourceFile) :
    workspace.definitionAmong? name files =
      .ok ((workspace.linesThrough files).findSome? (workspace.definitionOn? name)) := by
  induction files with
  | nil => rfl
  | cons file rest ih =>
      rw [definitionAmong?, linesThrough, List.flatMap_cons, List.findSome?_append]
      cases read : workspace.linesAfresh? file.path with
      | none =>
          have none : workspace.linesIn file = [] := by rw [linesIn, read]
          rw [none]
          exact ih
      | some lines =>
          obtain ⟨rules, compiled⟩ := compiles file.language
          rw [rulesAfresh, compiled, ← definitionIn?_eq_linesIn read compiled]
          simp only [Except.mapError, bind, Except.bind]
          cases definitionIn? (workspace.registry.language file.language) rules name file 1 lines with
          | some node => rfl
          | none => exact ih

theorem definitionAfresh?_eq_of_listed {root : Path} {files : List SourceFile}
    (listed : workspace.filesAfresh root = .ok files) :
    workspace.definitionAfresh? name root = workspace.definitionAmong? name files := by
  rw [definitionAfresh?, listed]
  rfl

/-- A fresh search finds what stands on the least line that declares the name. -/
theorem definitionAfresh?_eq_some_iff_least {root : Path} {files : List SourceFile}
    (compiles : ∀ language, ∃ rules, (workspace.registry.language language).rulesFor name = .ok rules)
    (listed : workspace.filesAfresh root = .ok files)
    (ordered : files.Pairwise fun file other => file.path.compare other.path = .lt) {node : CallNode} :
    workspace.definitionAfresh? name root = .ok (some node) ↔
      ∃ (line : SourceLine) (rule : Rule), line.Listed workspace root ∧
        line.Declares workspace.registry name rule ∧ node = line.definition name rule.kind ∧
        ∀ (other : SourceLine) (decider : Rule), other.Listed workspace root →
          other.Declares workspace.registry name decider → other = line ∨ line.Before other := by
  rw [definitionAfresh?_eq_of_listed listed, definitionAmong?_eq_linesThrough compiles, Except.ok.injEq,
    findSome?_eq_some_iff_least (pairwise_linesThrough ordered) SourceLine.Before.asymm]
  simp only [← SourceLine.listed_iff listed, definitionOn?_eq_some_iff, Option.isSome_iff_exists]
  constructor
  · rintro ⟨line, inListing, ⟨rule, declares, same⟩, least⟩
    refine ⟨line, rule, inListing, declares, same, fun other decider inListingToo declaresToo => ?_⟩
    exact least other inListingToo ⟨_, decider, declaresToo, rfl⟩
  · rintro ⟨line, rule, inListing, declares, same, least⟩
    refine ⟨line, inListing, ⟨rule, declares, same⟩, ?_⟩
    rintro other inListingToo ⟨_, decider, declaresToo, _⟩
    exact least other decider inListingToo declaresToo

theorem exists_definitionAfresh?_iff {root : Path}
    (compiles : ∀ language, ∃ rules,
      (workspace.registry.language language).rulesFor name = .ok rules) :
    (∃ node, workspace.definitionAfresh? name root = .ok (some node)) ↔
      ∃ (line : SourceLine) (rule : Rule), line.Listed workspace root ∧
        line.Declares workspace.registry name rule := by
  constructor
  · rintro ⟨node, found⟩
    obtain ⟨files, listed, searched⟩ := bind_eq_ok_iff.mp found
    rw [definitionAmong?_eq_linesThrough compiles, Except.ok.injEq] at searched
    obtain ⟨line, member, here⟩ := List.exists_of_findSome?_eq_some searched
    obtain ⟨rule, declares, _⟩ := definitionOn?_eq_some_iff.mp here
    exact ⟨line, rule, (SourceLine.listed_iff listed).mpr member, declares⟩
  · rintro ⟨line, rule, inListing, declares⟩
    obtain ⟨files, listed, _⟩ := inListing.listed
    have here := definitionOn?_eq_some_iff.mpr ⟨rule, declares, rfl⟩
    have found : ((workspace.linesThrough files).findSome? (workspace.definitionOn? name)).isSome :=
      List.findSome?_isSome_iff.mpr
        ⟨line, (SourceLine.listed_iff listed).mp inListing, Option.isSome_of_eq_some here⟩
    obtain ⟨node, same⟩ := Option.isSome_iff_exists.mp found
    refine ⟨node, bind_eq_ok_iff.mpr ⟨files, listed, ?_⟩⟩
    rw [definitionAmong?_eq_linesThrough compiles, same]

end Workspace

/-- In a corpus in memory a search for a name finds a definition exactly if a line of a readable file in the
listing is no comment and declares the name. What it finds stands on the least such line, in the order of
paths and then of lines, is abstract as the rule that decides says, and has no edges. -/
theorem MemoryCorpus.definition?_least (corpus : MemoryCorpus) (ordered : corpus.Ordered)
    (extensions : Dictionary String) (filter : LanguageFilter) (root : Path) (name : String) :
    let workspace := corpus.workspace extensions filter
    let result := (outcome (workspace.definition? name root) {}).1
    ((∃ node, result = .ok (some node)) ↔
        ∃ (line : SourceLine) (rule : Rule), line.Listed workspace root ∧
          line.Declares workspace.registry name rule) ∧
      ∀ node, result = .ok (some node) →
        ∃ (line : SourceLine) (rule : Rule), line.Listed workspace root ∧
          line.Declares workspace.registry name rule ∧
          node.functionName = name ∧ node.filePath = line.file.path ∧ node.line = line.index + 1 ∧
          node.abstractDeclaration = decide (rule.kind = .abstractDeclaration) ∧
          node.depth = 0 ∧ node.callers = [] ∧ node.callees = [] ∧
          ∀ (other : SourceLine) (decider : Rule), other.Listed workspace root →
            other.Declares workspace.registry name decider → other = line ∨ line.Before other := by
  intro workspace result
  have byPlace : workspace.corpus.ByPlace := corpus.toCorpus_byPlace
  have fresh : result = workspace.definitionAfresh? name root :=
    (Workspace.definition?_agrees byPlace name root {} (Session.sound_empty workspace)).1
  have compiles := corpus.exists_rulesFor extensions filter name
  rw [fresh]
  refine ⟨Workspace.exists_definitionAfresh?_iff compiles, fun node found => ?_⟩
  obtain ⟨files, listed, _⟩ := bind_eq_ok_iff.mp found
  obtain ⟨line, rule, inListing, declares, rfl, least⟩ :=
    (Workspace.definitionAfresh?_eq_some_iff_least compiles listed (ordered.pairwise_list listed)).mp
      found
  exact ⟨line, rule, inListing, declares, rfl, rfl, rfl, rfl, rfl, rfl, rfl, least⟩

/-! ### A comment, a call and a declaration -/

namespace Drafts

def corpus : MemoryCorpus where
  files := [
    ⟨⟨"a.java"⟩, "java", none⟩,
    ⟨⟨"b.java"⟩, "java", some "// int area() \x7b\n  return area(2) \x7b\n  abstract int area();"⟩,
    ⟨⟨"c.java"⟩, "java", some "int area() \x7b"⟩]

theorem definition_outline :
    ((outcome ((corpus.workspace {} .any).definition? "area" ⟨""⟩) {}).1.toOption.map
      (Option.map fun node => (node.filePath.text, node.line, node.abstractDeclaration))) =
      some (some ("b.java", 3, true)) := by
  have known : (corpus.workspace {} .any).registry.language "java" = Shipped.java.language := rfl
  -- The rules are taken from their frames, since to read the templates once more is slow.
  have compiled := Shipped.java_framed.rulesFor_eq rfl "area"
  have fresh := (Workspace.definition?_agrees corpus.toCorpus_byPlace "area" ⟨""⟩ {}
    (Session.sound_empty (corpus.workspace {} .any))).1
  have listed : (corpus.workspace {} .any).filesAfresh ⟨""⟩ =
      .ok [⟨⟨"a.java"⟩, "java"⟩, ⟨⟨"b.java"⟩, "java"⟩, ⟨⟨"c.java"⟩, "java"⟩] := rfl
  rw [fresh, Workspace.definitionAfresh?_eq_of_listed listed]
  simp only [Workspace.definitionAmong?, Workspace.rulesAfresh, known, compiled]
  decide +kernel

/-- The unreadable file, the comment and the line after `return` do not count. -/
theorem definition_least :
    ∃ node, (outcome ((corpus.workspace {} .any).definition? "area" ⟨""⟩) {}).1 = .ok (some node) ∧
      node.filePath = ⟨"b.java"⟩ ∧ node.line = 3 ∧ node.abstractDeclaration = true ∧
      ∃ (line : SourceLine) (rule : Rule), line.Listed (corpus.workspace {} .any) ⟨""⟩ ∧
        line.Declares (corpus.workspace {} .any).registry "area" rule ∧
        node.filePath = line.file.path ∧ rule.kind = .abstractDeclaration ∧
        ∀ (other : SourceLine) (decider : Rule), other.Listed (corpus.workspace {} .any) ⟨""⟩ →
          other.Declares (corpus.workspace {} .any).registry "area" decider →
            other = line ∨ line.Before other := by
  have ordered : corpus.Ordered := by
    unfold MemoryCorpus.Ordered
    decide +kernel
  obtain ⟨found, came, outline⟩ := Option.map_eq_some_iff.mp definition_outline
  obtain ⟨node, rfl, traits⟩ := Option.map_eq_some_iff.mp outline
  obtain ⟨path, traits⟩ := Prod.mk.inj traits
  obtain ⟨number, isAbstract⟩ := Prod.mk.inj traits
  have result := eq_ok_of_toOption came
  obtain ⟨line, rule, listed, declares, _, here, _, flag, _, _, _, least⟩ :=
    (MemoryCorpus.definition?_least corpus ordered {} .any ⟨""⟩ "area").2 node result
  have kind : rule.kind = .abstractDeclaration := of_decide_eq_true (flag.symm.trans isAbstract)
  exact ⟨node, result, congrArg Path.mk path, number, isAbstract, line, rule, listed, declares, here,
    kind, least⟩

end Drafts

end Callsite

import Callsite.Proofs.Provenance
import Callsite.Proofs.Shape
import Callsite.Proofs.SourceLines

set_option autoImplicit false

/-! The callers that a search finds. A call site is a line that is no comment, calls the target beyond the
name it may declare, and stands in a function; the callers are these functions, each once and where its first
call site puts it. -/

namespace Callsite

open Text

/-! ### Call sites -/

namespace TargetRules

theorem exists_leftmost {hits : List Hit} (some : hits ≠ []) :
    ∃ best, leftmost hits = .some best ∧ best ∈ hits ∧ ∀ hit ∈ hits, best.start ≤ hit.start := by
  induction hits with
  | nil => exact absurd rfl some
  | cons head rest ih =>
      rw [leftmost]
      cases rest with
      | nil =>
          refine ⟨head, rfl, List.mem_cons_self, fun hit member => ?_⟩
          rw [List.mem_singleton.mp member]
      | cons next further =>
          obtain ⟨best, chosen, member, least⟩ := ih (List.cons_ne_nil next further)
          rw [chosen]
          dsimp only
          by_cases nearer : head.start ≤ best.start
          · rw [if_pos nearer]
            refine ⟨head, rfl, List.mem_cons_self, fun hit inHits => ?_⟩
            rcases List.mem_cons.mp inHits with rfl | inRest
            · exact Nat.le_refl _
            · exact Nat.le_trans nearer (least hit inRest)
          · rw [if_neg nearer]
            refine ⟨best, rfl, List.mem_cons_of_mem head member, fun hit inHits => ?_⟩
            rcases List.mem_cons.mp inHits with rfl | inRest
            · exact Nat.le_of_lt (Nat.lt_of_not_le nearer)
            · exact least hit inRest

/-- Whether the leftmost call of the target at byte `offset` or later begins at byte `column`. The rules
look at what stands from `offset` on. -/
structure CallsAt (rules : TargetRules) (line : String) (offset column : Nat) : Prop where
  found : ∃ tail, dropBytes? line.toList offset = some tail ∧
    ∃ rule ∈ rules.calls, ∃ hit, rule.find? (String.ofList tail) = some hit ∧
      column = hit.start + offset ∧
      ∀ other ∈ rules.calls, ∀ further, other.find? (String.ofList tail) = some further →
        hit.start ≤ further.start

theorem firstCallFrom?_start_eq_some_iff {rules : TargetRules} {line : String} {offset column : Nat} :
    (rules.firstCallFrom? line offset).map Hit.start = some column ↔
      rules.CallsAt line offset column := by
  rw [firstCallFrom?]
  cases cut : dropBytes? line.toList offset with
  | none =>
      refine ⟨nofun, ?_⟩
      rintro ⟨tail, cutToo, _⟩
      rw [cut] at cutToo
      contradiction
  | some tail =>
      show Option.map Hit.start ((leftmost (rules.calls.filterMap (·.find? (String.ofList tail)))).bind
        fun hit => some { hit with start := hit.start + offset, stop := hit.stop + offset }) = _ ↔ _
      by_cases none : rules.calls.filterMap (·.find? (String.ofList tail)) = []
      · rw [none]
        refine ⟨nofun, ?_⟩
        rintro ⟨other, cutToo, rule, member, hit, found, _⟩
        cases Option.some.inj (cut.symm.trans cutToo)
        have inHits : hit ∈ rules.calls.filterMap (·.find? (String.ofList tail)) :=
          List.mem_filterMap.mpr ⟨rule, member, found⟩
        rw [none] at inHits
        contradiction
      · obtain ⟨best, chosen, inHits, least⟩ := exists_leftmost none
        obtain ⟨rule, member, found⟩ := List.mem_filterMap.mp inHits
        have least (other : Rule) (inCalls : other ∈ rules.calls) (further : Hit)
            (hits : other.find? (String.ofList tail) = some further) : best.start ≤ further.start :=
          least further (List.mem_filterMap.mpr ⟨other, inCalls, hits⟩)
        rw [chosen]
        constructor
        · intro here
          exact ⟨tail, cut, rule, member, best, found, (Option.some.inj here).symm, least⟩
        · rintro ⟨other, cutToo, caller, inCalls, hit, hits, rfl, leastToo⟩
          cases Option.some.inj (cut.symm.trans cutToo)
          have nearer := least caller inCalls hit hits
          have nearerToo := leastToo rule member best found
          show some (best.start + offset) = _
          rw [Nat.le_antisymm nearer nearerToo]

end TargetRules

/-- Whether a line is a call site of `name` in `scope`: it is no comment, it calls `name` beyond the name
that it may declare, and what stands up to the call is enclosed by the function. -/
structure SourceLine.CallsFrom (registry : Registry) (name : String) (line : SourceLine) (scope : Scope) :
    Prop where
  code : (registry.language line.file.language).isComment line.text = false
  called : ∃ rules column, (registry.language line.file.language).rulesFor name = .ok rules ∧
    rules.CallsAt line.text ((rules.declaredNameEnd? line.text).getD 0) column ∧
    (registry.language line.file.language).enclosingFunction? line.lines line.index (some column) =
      some scope

/-- Whether `node` is the function of `scope`, without edges. It is declared on the line or above it. -/
structure SourceLine.AttributedTo (site : SourceLine) (scope : Scope) (depth : Nat) (node : CallNode) :
    Prop where
  functionName : node.functionName = scope.name
  filePath : node.filePath = site.file.path
  language : node.language = site.file.language
  line : node.line = scope.line
  above : 1 ≤ node.line ∧ node.line ≤ site.index + 1
  signature : ∃ opening, site.lines[scope.line - 1]? = some opening ∧ node.signature = trim opening
  abstractDeclaration : node.abstractDeclaration = scope.abstractDeclaration
  depth : node.depth = depth
  callers : node.callers = []
  callees : node.callees = []

namespace Language

variable {language : Language}

theorem line_le_of_enclosing? {kinds : List ScopeKind} {lines : List String} {index : Nat}
    {column : Option Nat} {scope : Scope}
    (found : language.enclosing? kinds lines index column = some scope) : scope.line ≤ index + 1 := by
  rw [enclosing?] at found
  split at found
  · contradiction
  · rename_i line above upTo
    have length := congrArg List.length upTo
    rw [List.length_reverse, List.length_take, List.length_cons] at length
    have least := line_le_of_scopeAbove? found
    rw [List.length_cons] at least
    omega

theorem callSite?_eq_some_iff {rules : TargetRules} {line : String} {column : Nat} :
    language.callSite? rules line = some column ↔ language.isComment line = false ∧
      rules.CallsAt line ((rules.declaredNameEnd? line).getD 0) column := by
  rw [callSite?, Option.ite_none_left_eq_some, Bool.not_eq_true,
    TargetRules.firstCallFrom?_start_eq_some_iff]

end Language

/-! ### The search -/

namespace Workspace

variable (workspace : Workspace) (name : String)

def callerScope? (line : SourceLine) : Option Scope :=
  let language := workspace.registry.language line.file.language
  match language.rulesFor name with
  | .error _ => none
  | .ok rules => (language.callSite? rules line.text).bind fun column =>
      language.enclosingFunction? line.lines line.index (some column)

/-- The call sites of `name` on the lines of some files, each with the function around it. -/
def callSites (files : List SourceFile) : List (SourceLine × Scope) :=
  (workspace.linesThrough files).filterMap fun line =>
    (workspace.callerScope? name line).map fun scope => (line, scope)

variable {workspace name}

theorem callerScope?_eq_some_iff {line : SourceLine} {scope : Scope} :
    workspace.callerScope? name line = some scope ↔
      line.CallsFrom workspace.registry name scope := by
  rw [callerScope?]
  constructor
  · intro found
    cases compiled : (workspace.registry.language line.file.language).rulesFor name with
    | error fault =>
        rw [compiled] at found
        contradiction
    | ok rules =>
        rw [compiled] at found
        obtain ⟨column, site, enclosed⟩ := Option.bind_eq_some_iff.mp found
        obtain ⟨code, calls⟩ := Language.callSite?_eq_some_iff.mp site
        exact ⟨code, rules, column, compiled, calls, enclosed⟩
  · rintro ⟨code, rules, column, compiled, calls, enclosed⟩
    rw [compiled]
    exact Option.bind_eq_some_iff.mpr
      ⟨column, Language.callSite?_eq_some_iff.mpr ⟨code, calls⟩, enclosed⟩

theorem mem_callSites {files : List SourceFile} {site : SourceLine × Scope} :
    site ∈ workspace.callSites name files ↔ site.1 ∈ workspace.linesThrough files ∧
      site.1.CallsFrom workspace.registry name site.2 := by
  rw [callSites, List.mem_filterMap]
  constructor
  · rintro ⟨line, member, found⟩
    obtain ⟨scope, called, rfl⟩ := Option.map_eq_some_iff.mp found
    exact ⟨member, callerScope?_eq_some_iff.mp called⟩
  · rintro ⟨member, calls⟩
    exact ⟨site.1, member, Option.map_eq_some_iff.mpr
      ⟨site.2, callerScope?_eq_some_iff.mpr calls, rfl⟩⟩

theorem pairwise_callSites {files : List SourceFile}
    (ordered : files.Pairwise fun file other => file.path.compare other.path = .lt) :
    (workspace.callSites name files).Pairwise fun site other => site.1.Before other.1 := by
  refine List.Pairwise.filterMap _ ?_ (pairwise_linesThrough ordered)
  intro line other before site found siteToo foundToo
  obtain ⟨_, _, rfl⟩ := Option.map_eq_some_iff.mp found
  obtain ⟨_, _, rfl⟩ := Option.map_eq_some_iff.mp foundToo
  exact before

def siteNode (depth : Nat) (site : SourceLine × Scope) : CallNode :=
  Language.callerNode site.1.file site.1.lines depth site.2

theorem callersIn_eq_linesIn {file : SourceFile} {lines : List String} {rules : TargetRules}
    (read : workspace.linesAfresh? file.path = some lines)
    (compiled : (workspace.registry.language file.language).rulesFor name = .ok rules) (depth : Nat) :
    (workspace.registry.language file.language).callersIn rules file lines depth =
      ((workspace.linesIn file).filterMap fun line =>
        (workspace.callerScope? name line).map fun scope => (line, scope)).map (siteNode depth) := by
  rw [Language.callersIn, Language.callerScopes_eq, linesIn, read]
  dsimp only
  rw [List.filterMap_map, List.map_filterMap, List.map_filterMap]
  congr 1
  funext entry
  simp only [Function.comp_apply, callerScope?, compiled, Option.map_map]
  rfl

theorem callersAmongAfresh_eq_callSites
    (compiles : ∀ language, ∃ rules, (workspace.registry.language language).rulesFor name = .ok rules)
    (depth : Nat) (files : List SourceFile) :
    workspace.callersAmongAfresh name depth files =
      .ok ((workspace.callSites name files).map (siteNode depth)) := by
  induction files with
  | nil => rfl
  | cons file rest ih =>
      rw [callersAmongAfresh, callSites, linesThrough, List.flatMap_cons, List.filterMap_append,
        List.map_append]
      cases read : workspace.linesAfresh? file.path with
      | none =>
          have none : workspace.linesIn file = [] := by rw [linesIn, read]
          rw [none]
          exact ih
      | some lines =>
          obtain ⟨rules, compiled⟩ := compiles file.language
          rw [rulesAfresh, compiled, ih, ← callersIn_eq_linesIn read compiled depth]
          rfl

def siteKey (site : SourceLine × Scope) : FunctionKey :=
  (site.1.file.path.parts, site.2.name)

theorem callersAfresh_eq_callSites {root : Path} {node : CallNode} {files : List SourceFile}
    (compiles : ∀ language, ∃ rules,
      (workspace.registry.language language).rulesFor node.functionName = .ok rules)
    (listed : workspace.filesAfresh root = .ok files) :
    workspace.callersAfresh root node =
      .ok ((distinctBy siteKey [] (workspace.callSites node.functionName files)).map
        (siteNode (node.depth + 1))) := by
  rw [callersAfresh, listed]
  show (workspace.callersAmongAfresh node.functionName (node.depth + 1) files >>= _) = _
  rw [callersAmongAfresh_eq_callSites compiles]
  show Except.ok (distinctBy CallNode.key [] _) = _
  rw [distinctBy_map]
  rfl

theorem attributedTo_siteNode {files : List SourceFile} {site : SourceLine × Scope}
    (member : site ∈ workspace.callSites name files) (depth : Nat) :
    site.1.AttributedTo site.2 depth (siteNode depth site) := by
  obtain ⟨inLines, calls⟩ := mem_callSites.mp member
  obtain ⟨_, _, inside⟩ := mem_linesThrough.mp inLines
  obtain ⟨rules, column, _, _, enclosed⟩ := calls.called
  have positive := (Language.exists_line_of_enclosingFunction? inside enclosed).1
  have above := Language.line_le_of_enclosing? enclosed
  have short : site.1.index < site.1.lines.length := (List.getElem?_eq_some_iff.mp inside).1
  have stands : site.2.line - 1 < site.1.lines.length := by omega
  have opening := List.getElem?_eq_getElem stands
  constructor
  · rfl
  · rfl
  · rfl
  · rfl
  · exact ⟨positive, above⟩
  · refine ⟨_, opening, ?_⟩
    show trim (site.1.lines[site.2.line - 1]?.getD "") = _
    rw [opening]
    rfl
  · rfl
  · rfl
  · rfl
  · rfl

end Workspace

/-- Whether a call site of `name` is the first of those in the same function of the same file. -/
structure SourceLine.LeadsFrom (workspace : Workspace) (root : Path) (name : String) (line : SourceLine)
    (scope : Scope) : Prop where
  listed : line.Listed workspace root
  calls : line.CallsFrom workspace.registry name scope
  first : ∀ (other : SourceLine) (further : Scope), other.Listed workspace root →
    other.CallsFrom workspace.registry name further → other.Before line →
      (other.file.path.parts, further.name) ≠ (line.file.path.parts, scope.name)

/-- In a corpus in memory the callers of a function are the functions around its call sites. There is one
for each pair of a file and a name over all call sites, they stand in the order of the first call sites of
these pairs, and each is the function around that first call site. Only a root that cannot be listed has
no answer. -/
theorem MemoryCorpus.callers_of_callSites (corpus : MemoryCorpus) (ordered : corpus.Ordered)
    (extensions : Dictionary String) (filter : LanguageFilter) (root : Path) (node : CallNode)
    {session : Session} (sound : session.Sound (corpus.workspace extensions filter)) :
    let workspace := corpus.workspace extensions filter
    let result := (outcome (workspace.callers root node) session).1
    (∀ failure, corpus.list root filter = .error failure → result = .error failure) ∧
    ∀ files, corpus.list root filter = .ok files →
      ∃ (sites : List (SourceLine × Scope)) (found : List CallNode), result = .ok found ∧
        (∀ site, site ∈ sites ↔ site.1.LeadsFrom workspace root node.functionName site.2) ∧
        sites.Pairwise (fun site other => site.1.Before other.1) ∧
        List.Forall₂ (fun site caller => site.1.AttributedTo site.2 (node.depth + 1) caller) sites
          found ∧
        (found.map CallNode.key).Nodup ∧
        ∀ pair, pair ∈ found.map CallNode.key ↔ ∃ (line : SourceLine) (scope : Scope),
          line.Listed workspace root ∧ line.CallsFrom workspace.registry node.functionName scope ∧
            pair = (line.file.path.parts, scope.name) := by
  intro workspace result
  have byPlace : workspace.corpus.ByPlace := corpus.toCorpus_byPlace
  have fresh : result = workspace.callersAfresh root node :=
    (Workspace.callers_agrees byPlace root node session sound).1
  have compiles := corpus.exists_rulesFor extensions filter node.functionName
  rw [fresh]
  refine ⟨fun failure refused => ?_, fun files listed => ?_⟩
  · have unlisted : workspace.filesAfresh root = .error failure := refused
    rw [Workspace.callersAfresh, unlisted]
    rfl
  have listing : workspace.filesAfresh root = .ok files := listed
  have inOrder : (workspace.callSites node.functionName files).Pairwise fun site other =>
      site.1.Before other.1 :=
    Workspace.pairwise_callSites (ordered.pairwise_list listed)
  have isSite (site : SourceLine × Scope) :
      site ∈ workspace.callSites node.functionName files ↔
        site.1.Listed workspace root ∧ site.1.CallsFrom workspace.registry node.functionName site.2 := by
    rw [Workspace.mem_callSites, SourceLine.listed_iff listing]
  refine ⟨distinctBy Workspace.siteKey [] (workspace.callSites node.functionName files), _,
    Workspace.callersAfresh_eq_callSites compiles listing, fun site => ?_, ?_, ?_, ?_, fun pair => ?_⟩
  · rw [mem_distinctBy_iff_least inOrder SourceLine.Before.asymm, isSite]
    constructor
    · rintro ⟨⟨inListing, calls⟩, _, least⟩
      exact ⟨inListing, calls, fun other further inListingToo callsToo =>
        least (other, further) ((isSite _).mpr ⟨inListingToo, callsToo⟩)⟩
    · rintro ⟨inListing, calls, first⟩
      refine ⟨⟨inListing, calls⟩, List.not_mem_nil, fun other member => ?_⟩
      obtain ⟨inListingToo, callsToo⟩ := (isSite other).mp member
      exact first other.1 other.2 inListingToo callsToo
  · exact inOrder.sublist (distinctBy_sublist _ _ _)
  · refine List.forall₂_map_right_iff.mpr (List.forall₂_same.mpr fun site kept => ?_)
    exact Workspace.attributedTo_siteNode (mem_distinctBy kept) _
  · rw [List.map_map]
    exact nodup_map_distinctBy Workspace.siteKey _ []
  · rw [List.map_map]
    constructor
    · intro member
      obtain ⟨site, kept, rfl⟩ := List.mem_map.mp member
      obtain ⟨inListing, calls⟩ := (isSite site).mp (mem_distinctBy kept)
      exact ⟨site.1, site.2, inListing, calls, rfl⟩
    · rintro ⟨line, scope, inListing, calls, rfl⟩
      have member := (isSite (line, scope)).mpr ⟨inListing, calls⟩
      obtain ⟨kept, inKept, same⟩ :=
        exists_mem_distinctBy Workspace.siteKey member List.not_mem_nil
      exact List.mem_map.mpr ⟨kept, inKept, same⟩

/-! ### Two calls in one function -/

namespace Recipes

def corpus : MemoryCorpus where
  files := [
    ⟨⟨"a.py"⟩, "python", none⟩,
    ⟨⟨"b.py"⟩, "python", some "def f():\n    # g()\n    g()\n    g()\ndef h(): g()\n"⟩]

def target : CallNode :=
  .placeholder "g" 0

theorem callers_outline :
    ((outcome ((corpus.workspace {} .any).callers ⟨""⟩ target) {}).1.toOption.map
      (List.map fun caller => (caller.functionName, caller.line, caller.depth))) =
      some [("f", 1, 1), ("h", 5, 1)] := by
  decide +kernel

/-- The second call in `f` adds no caller. -/
theorem callers_of_two_calls :
    ∃ (sites : List (SourceLine × Scope)) (found : List CallNode),
      (outcome ((corpus.workspace {} .any).callers ⟨""⟩ target) {}).1 = .ok found ∧
      found.map (fun caller => (caller.functionName, caller.line, caller.depth)) =
        [("f", 1, 1), ("h", 5, 1)] ∧
      (∀ site, site ∈ sites ↔ site.1.LeadsFrom (corpus.workspace {} .any) ⟨""⟩ "g" site.2) ∧
      sites.Pairwise (fun site other => site.1.Before other.1) ∧
      List.Forall₂ (fun site caller => site.1.AttributedTo site.2 1 caller) sites found := by
  have ordered : corpus.Ordered := by
    unfold MemoryCorpus.Ordered
    decide +kernel
  obtain ⟨sites, found, came, isSite, inOrder, attributed, _⟩ :=
    (MemoryCorpus.callers_of_callSites corpus ordered {} .any ⟨""⟩ target
      (Session.sound_empty _)).2 [⟨⟨"a.py"⟩, "python"⟩, ⟨⟨"b.py"⟩, "python"⟩] (by decide)
  obtain ⟨callers, result, outline⟩ := Option.map_eq_some_iff.mp callers_outline
  cases Except.ok.inj (came.symm.trans (eq_ok_of_toOption result))
  exact ⟨sites, found, came, outline, isSite, inOrder, attributed⟩

end Recipes

end Callsite

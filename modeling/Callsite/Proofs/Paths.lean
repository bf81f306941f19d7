import Mathlib.Data.Finset.Prod
import Mathlib.Data.List.Infix
import Callsite.Proofs.Provenance

set_option autoImplicit false

/-! Paths down a call tree along one kind of edge. On a path no function is followed twice, and those that
are followed come from the listed files and the names on their lines; so paths are short, however deep a
trace may go. -/

namespace Callsite

/-- A path from `top` that goes on from each item to one of those next to it. -/
inductive Descends {α : Type} (next : α → List α) : α → List α → Prop where
  | here (top : α) : Descends next top [top]
  | on {top item : α} {path : List α} (member : item ∈ next top)
      (rest : Descends next item path) : Descends next top (top :: path)

theorem Descends.exists_map {α β : Type} {next : α → List α} {nextImage : β → List β} {image : α → β}
    (commutes : ∀ item, nextImage (image item) = (next item).map image) {path : List β} :
    ∀ {top : α}, Descends nextImage (image top) path →
      ∃ way, Descends next top way ∧ path = way.map image := by
  intro top descends
  generalize same : image top = start at descends
  induction descends generalizing top with
  | here start =>
      subst same
      exact ⟨[top], .here top, rfl⟩
  | @on start item path member rest ih =>
      subst same
      rw [commutes] at member
      obtain ⟨origin, inNext, rfl⟩ := List.mem_map.mp member
      obtain ⟨way, goes, rfl⟩ := ih rfl
      exact ⟨top :: way, .on inNext goes, rfl⟩

/-! ### Visits on a path -/

/-- A path of visits below the functions of `path`; its first visit stands at depth `depth`. -/
structure Visit.Orderly (limit : Nat) (path : List FunctionKey) (depth : Nat) (way : List Visit) :
    Prop where
  fresh : ∀ visit ∈ way, visit.followed = true → visit.node.key ∉ path
  distinct : way.Pairwise fun ancestor visit =>
    visit.followed = true → ancestor.node.key ≠ visit.node.key
  leaf : ∀ visit ∈ way, visit.followed = false → visit.further = []
  bounded : ∀ visit ∈ way, visit.followed = true → visit.node.depth < limit
  bare : ∀ visit ∈ way, visit.node.Bare
  depths : way.map (·.node.depth) = List.range' depth way.length

namespace Visit.Orderly

variable {limit depth : Nat} {path : List FunctionKey} {way : List Visit}

theorem single {visit : Visit} (fresh : visit.followed = true → visit.node.key ∉ path)
    (leaf : visit.followed = false → visit.further = [])
    (bounded : visit.followed = true → visit.node.depth < limit)
    (bare : visit.node.Bare) : Orderly limit path visit.node.depth [visit] := by
  constructor
  · exact List.forall_mem_singleton.mpr fresh
  · exact List.pairwise_singleton _ _
  · exact List.forall_mem_singleton.mpr leaf
  · exact List.forall_mem_singleton.mpr bounded
  · exact List.forall_mem_singleton.mpr bare
  · rfl

theorem cons {node : CallNode} {further : List Visit} (own : node.key ∉ path)
    (above : node.depth < limit) (bare : node.Bare)
    (rest : Orderly limit (node.key :: path) (node.depth + 1) way) :
    Orderly limit path node.depth (⟨node, true, further⟩ :: way) := by
  constructor
  · refine List.forall_mem_cons.mpr ⟨fun _ => own, fun visit member followed => ?_⟩
    exact fun known => rest.fresh visit member followed (List.mem_cons_of_mem _ known)
  · refine List.pairwise_cons.mpr ⟨fun visit member followed same => ?_, rest.distinct⟩
    exact rest.fresh visit member followed (List.mem_cons.mpr (Or.inl same.symm))
  · exact List.forall_mem_cons.mpr ⟨nofun, rest.leaf⟩
  · exact List.forall_mem_cons.mpr ⟨fun _ => above, rest.bounded⟩
  · exact List.forall_mem_cons.mpr ⟨bare, rest.bare⟩
  · rw [List.map_cons, rest.depths, List.length_cons, List.range'_succ]

theorem nodup_followed (orderly : Orderly limit path depth way) :
    ((way.filter Visit.followed).map (·.node.key)).Nodup := by
  rw [List.Nodup, List.pairwise_map, List.pairwise_filter]
  exact orderly.distinct.imp fun distinct _ followed => distinct followed

end Visit.Orderly

theorem Descends.length_le_followed {top : Visit} {way : List Visit}
    (descends : Descends Visit.further top way)
    (leaf : ∀ visit ∈ way, visit.followed = false → visit.further = []) :
    way.length ≤ (way.filter Visit.followed).length + 1 := by
  induction descends with
  | here top => exact Nat.le_add_left 1 _
  | @on top visit way member rest ih =>
      obtain ⟨leafTop, leafRest⟩ := List.forall_mem_cons.mp leaf
      have followed : top.followed = true := by
        cases flag : top.followed with
        | true => rfl
        | false =>
            rw [leafTop flag] at member
            contradiction
      have shorter := ih leafRest
      rw [List.filter_cons_of_pos followed, List.length_cons, List.length_cons]
      omega

theorem Visit.Orderly.length_le {limit depth : Nat} {path : List FunctionKey} {top : Visit}
    {way : List Visit} (orderly : Orderly limit path depth way)
    (descends : Descends Visit.further top way) {keys : Finset FunctionKey}
    (within : ∀ visit ∈ way, visit.followed = true → visit.node.key ∈ keys) :
    way.length ≤ 1 + keys.card := by
  have followed := descends.length_le_followed orderly.leaf
  have contained : ((way.filter Visit.followed).map (·.node.key)).toFinset ⊆ keys := by
    intro key member
    obtain ⟨visit, inFilter, rfl⟩ := List.mem_map.mp (List.mem_toFinset.mp member)
    obtain ⟨inWay, flag⟩ := List.mem_filter.mp inFilter
    exact within visit inWay flag
  have counted := Finset.card_le_card contained
  rw [List.toFinset_card_of_nodup orderly.nodup_followed, List.length_map] at counted
  omega

namespace Workspace

variable {workspace : Workspace} {options : TraceOptions} {root : Path} {limit : Nat}

/-- All paths down a visit are orderly, if the visited node has no edges yet. -/
def OrderlyBelow (limit : Nat) (path : List FunctionKey) (visit : Visit) : Prop :=
  visit.node.Bare → ∀ way, Descends Visit.further visit way →
    Visit.Orderly limit path visit.node.depth way

theorem orderlyBelow_of_visit {edge : Edge} {path : List FunctionKey} {node : CallNode} {visit : Visit}
    (visited : workspace.visit options root limit edge path node = .ok visit) :
    OrderlyBelow limit path visit := by
  refine visit_induction (OrderlyBelow limit) ?_ ?_ path node visited
  · intro path node _ bare way descends
    cases descends with
    | here => exact .single nofun (fun _ => rfl) nofun bare
    | on member _ => contradiction
  · -- Below a node that is followed, its key has joined the path.
    intro path node further above _ own _ each bare way descends
    cases descends with
    | here => exact .single (fun _ => own) nofun (fun _ => above) bare
    | @on _ child way member rest =>
        obtain ⟨depth, childBare, held⟩ := each child member
        refine .cons own above bare ?_
        rw [← depth]
        exact held childBare way rest

end Workspace

/-! ### The functions that can be followed -/

def identifiersOn (lines : List String) : Finset String :=
  let stretches := lines.flatMap fun line => line.toList.tails.flatMap List.inits
  ((stretches.filter Pattern.isIdentifier).map String.ofList).toFinset

theorem mem_identifiersOn {lines : List String} {name : String} :
    name ∈ identifiersOn lines ↔
      Pattern.isIdentifier name.toList = true ∧ ∃ line ∈ lines, name.toList <:+: line.toList := by
  have stands (line : String) (text : List Char) :
      text ∈ line.toList.tails.flatMap List.inits ↔ text <:+: line.toList := by
    rw [List.mem_flatMap, List.infix_iff_prefix_suffix]
    refine exists_congr fun tail => ?_
    rw [List.mem_tails, List.mem_inits, And.comm]
  rw [identifiersOn, List.mem_toFinset, List.mem_map]
  constructor
  · rintro ⟨text, member, rfl⟩
    obtain ⟨inStretches, identifies⟩ := List.mem_filter.mp member
    obtain ⟨line, inLines, inLine⟩ := List.mem_flatMap.mp inStretches
    rw [String.toList_ofList]
    exact ⟨identifies, line, inLines, (stands line text).mp inLine⟩
  · rintro ⟨identifies, line, inLines, inLine⟩
    refine ⟨name.toList, List.mem_filter.mpr ⟨?_, identifies⟩, String.ofList_toList⟩
    exact List.mem_flatMap.mpr ⟨line, inLines, (stands line name.toList).mpr inLine⟩

namespace Workspace

def linesOf (workspace : Workspace) (files : List SourceFile) : List String :=
  files.flatMap fun file => (workspace.linesAfresh? file.path).getD []

def keysOf (workspace : Workspace) (files : List SourceFile) (name : String) : Finset FunctionKey :=
  (files.map (·.path.parts)).toFinset ×ˢ insert name (identifiersOn (workspace.linesOf files))

theorem card_keysOf_le (workspace : Workspace) (files : List SourceFile) (name : String) :
    (workspace.keysOf files name).card ≤
      files.length * (1 + (identifiersOn (workspace.linesOf files)).card) := by
  have places : (files.map (·.path.parts)).toFinset.card ≤ files.length := by
    rw [← List.length_map (·.path.parts)]
    exact List.toFinset_card_le _
  have names := Finset.card_insert_le name (identifiersOn (workspace.linesOf files))
  rw [keysOf, Finset.card_product]
  refine Nat.mul_le_mul places ?_
  omega

/-- A node as it may stand in a tree around `name`: it has a source, and is named so or by an
identifier. -/
structure Admits (workspace : Workspace) (root : Path) (name : String) (node : CallNode) : Prop where
  sourced : workspace.Sourced root node
  named : node.functionName = name ∨ Pattern.isIdentifier node.functionName.toList = true
  bare : node.Bare

section

variable {workspace : Workspace} {options : TraceOptions} {root : Path} {limit : Nat} {name : String}

theorem Admits.key_mem {files : List SourceFile} (listed : workspace.filesAfresh root = .ok files)
    {node : CallNode} (admitted : workspace.Admits root name node) (own : node.isExternal = false) :
    node.key ∈ workspace.keysOf files name := by
  obtain ⟨same, listedSame, file, member, lines, read, line, stands⟩ := admitted.sourced.located own
  cases Except.ok.inj (listedSame.symm.trans listed)
  refine Finset.mem_product.mpr ⟨?_, Finset.mem_insert.mpr ?_⟩
  · refine List.mem_toFinset.mpr (List.mem_map.mpr ⟨file, member, ?_⟩)
    rw [CallNode.key, stands.filePath]
  · refine admitted.named.imp_right fun identifies => mem_identifiersOn.mpr ⟨identifies, line, ?_, ?_⟩
    · refine List.mem_flatMap.mpr ⟨file, member, ?_⟩
      rw [read]
      exact List.mem_of_getElem? stands.atLine
    · exact stands.named

theorem admits_of_mem_neighboursAfresh (regular : workspace.registry.Regular) {node : CallNode}
    {edge : Edge} {found : List CallNode}
    (searched : workspace.neighboursAfresh options root node edge = .ok found) {child : CallNode}
    (member : child ∈ found) : workspace.Admits root name child := by
  obtain ⟨sourced, identifies, _⟩ := sourced_of_mem_neighboursAfresh regular searched member
  have placed := atDepth_of_mem_neighboursAfresh searched member
  exact ⟨sourced, Or.inr identifies, placed ▸ ⟨rfl, rfl⟩⟩

theorem admits_of_definitionAfresh? (regular : workspace.registry.Regular) {definition : CallNode}
    (found : workspace.definitionAfresh? name root = .ok (some definition)) :
    workspace.Admits root name (definition.atDepth 0) := by
  obtain ⟨located, same⟩ := locates_of_definitionAfresh? regular found
  exact ⟨Or.inl (located.of_same rfl), Or.inl same, rfl, rfl⟩

/-- The functions followed on a path down a visit are among those that can be, if the visited node is one
that may stand in a tree. -/
def FollowsAmong (workspace : Workspace) (root : Path) (name : String) (files : List SourceFile)
    (visit : Visit) : Prop :=
  workspace.Admits root name visit.node → ∀ way, Descends Visit.further visit way →
    ∀ inner ∈ way, inner.followed = true → inner.node.key ∈ workspace.keysOf files name

theorem followsAmong_of_visit (regular : workspace.registry.Regular) {files : List SourceFile}
    (listed : workspace.filesAfresh root = .ok files) {edge : Edge} {path : List FunctionKey}
    {node : CallNode} {visit : Visit}
    (visited : workspace.visit options root limit edge path node = .ok visit) :
    workspace.FollowsAmong root name files visit := by
  refine visit_induction (fun _ => workspace.FollowsAmong root name files) ?_ ?_ path node visited
  · intro path node _ _ way descends
    cases descends with
    | here => exact List.forall_mem_singleton.mpr nofun
    | on member _ => contradiction
  · intro path node further _ own _ searched each admitted way descends
    have here := admitted.key_mem listed own
    cases descends with
    | here => exact List.forall_mem_singleton.mpr fun _ => here
    | @on _ child way member rest =>
        have next : workspace.Admits root name child.node :=
          admits_of_mem_neighboursAfresh regular searched (List.mem_map_of_mem member)
        exact List.forall_mem_cons.mpr ⟨fun _ => here, (each child member).2.2 next way rest⟩

end

end Workspace

/-! ### Paths from the root -/

/-- A path of nodes from the root of the tree of a survey, and the visits `rest` that made the nodes below
the root. -/
structure Survey.Traverses (survey : Survey) (edge : Edge) (limit bound : Nat) (nodes : List CallNode)
    (rest : List Visit) : Prop where
  nodes_eq : nodes = survey.tree :: rest.map (Visit.tree edge)
  descends : Descends Visit.further (survey.along edge) (survey.along edge :: rest)
  distinct : (((survey.along edge :: rest).filter Visit.followed).map (·.node.key)).Nodup
  deepens : ∀ visit ∈ survey.along edge :: rest, visit.followed = true → visit.node.depth + 1 ≤ limit
  repeated : nodes.Pairwise fun ancestor node =>
    ancestor.key = node.key → node.callers = [] ∧ node.callees = []
  short : nodes.length ≤ 1 + bound
  depths : nodes.map CallNode.depth = List.range nodes.length

theorem Visit.tree_key (edge : Edge) (visit : Visit) : (visit.tree edge).key = visit.node.key := by
  rcases visit with ⟨node, followed, further⟩
  cases edge <;> rfl

theorem Visit.tree_depth (edge : Edge) (visit : Visit) : (visit.tree edge).depth = visit.node.depth := by
  rcases visit with ⟨node, followed, further⟩
  cases edge <;> rfl

theorem Visit.tree_leaf (edge : Edge) {visit : Visit} (leaf : visit.further = [])
    (bare : visit.node.Bare) : (visit.tree edge).callers = [] ∧ (visit.tree edge).callees = [] := by
  rcases visit with ⟨node, followed, further⟩
  have none : further = [] := leaf
  have edges := Workspace.edges_attach bare (trees edge further) edge
  rw [none] at edges
  have both := List.append_eq_nil_iff.mp edges
  rw [none]
  exact both

theorem Survey.exists_visits (survey : Survey) {edge : Edge} {nodes : List CallNode}
    (descends : Descends (CallNode.along · edge) survey.tree nodes) :
    ∃ rest, nodes = survey.tree :: rest.map (Visit.tree edge) ∧
      Descends Visit.further (survey.along edge) (survey.along edge :: rest) := by
  cases descends with
  | here => exact ⟨[], rfl, .here _⟩
  | @on _ child path member onward =>
      rw [survey.along_tree] at member
      obtain ⟨visit, inFurther, rfl⟩ := List.mem_map.mp member
      obtain ⟨way, goes, rfl⟩ := onward.exists_map (Visit.tree_along edge)
      exact ⟨way, rfl, .on inFurther goes⟩

namespace Workspace

variable {workspace : Workspace} {options : TraceOptions} {root : Path} {limit : Nat} {name : String}

theorem exists_traverses (regular : workspace.registry.Regular) {files : List SourceFile}
    (listed : workspace.filesAfresh root = .ok files) {survey : Survey}
    (surveyed : workspace.survey? options root limit name = .ok (some survey)) {edge : Edge}
    {nodes : List CallNode} (descends : Descends (CallNode.along · edge) survey.tree nodes) :
    ∃ rest, survey.Traverses edge limit
      (files.length * (1 + (identifiersOn (workspace.linesOf files)).card)) nodes rest := by
  obtain ⟨definition, defined, start⟩ := exists_definition_of_survey? surveyed
  obtain ⟨reached, within, visited⟩ := exists_visit_of_survey? surveyed edge
  obtain ⟨rest, rfl, goes⟩ := survey.exists_visits descends
  have admitted : workspace.Admits root name survey.start := by
    rw [start]
    exact admits_of_definitionAfresh? regular defined
  have top : (survey.along edge).node = survey.start := visit_node visited
  have sameKey : survey.tree.key = (survey.along edge).node.key := by
    rw [top]
    rfl
  have orderly : Visit.Orderly reached [] survey.start.depth (survey.along edge :: rest) := by
    have below := orderlyBelow_of_visit visited
    rw [OrderlyBelow, top] at below
    exact below admitted.bare _ goes
  have among : workspace.FollowsAmong root name files (survey.along edge) :=
    followsAmong_of_visit regular listed visited
  rw [FollowsAmong, top] at among
  have counted := orderly.length_le goes (among admitted _ goes)
  have size := workspace.card_keysOf_le files name
  refine ⟨rest, rfl, goes, orderly.nodup_followed, ?_, ?_, ?_, ?_⟩
  · intro visit member followed
    have above := orderly.bounded visit member followed
    omega
  · have childless (visit : Visit) (member : visit ∈ rest) (ancestor : Visit)
        (distinct : visit.followed = true → ancestor.node.key ≠ visit.node.key)
        (same : ancestor.node.key = visit.node.key) :
        (visit.tree edge).callers = [] ∧ (visit.tree edge).callees = [] := by
      have inWay : visit ∈ survey.along edge :: rest := List.mem_cons_of_mem _ member
      refine Visit.tree_leaf edge (orderly.leaf visit inWay ?_) (orderly.bare visit inWay)
      exact eq_false_of_ne_true fun followed => distinct followed same
    obtain ⟨distinctTop, distinctRest⟩ := List.pairwise_cons.mp orderly.distinct
    refine List.pairwise_cons.mpr ⟨?_, List.pairwise_map.mpr ?_⟩
    · intro node member same
      obtain ⟨visit, inRest, rfl⟩ := List.mem_map.mp member
      rw [sameKey, Visit.tree_key] at same
      exact childless visit inRest _ (distinctTop visit inRest) same
    · refine distinctRest.imp_of_mem fun {ancestor visit} _ inRest distinct same => ?_
      rw [Visit.tree_key, Visit.tree_key] at same
      exact childless visit inRest ancestor distinct same
  · rw [List.length_cons] at counted ⊢
    rw [List.length_map]
    omega
  · have depths := orderly.depths
    have zero : survey.start.depth = 0 := by
      rw [start]
      rfl
    rw [List.map_cons, top, zero, List.length_cons, ← List.range_eq_range'] at depths
    rw [List.map_cons, List.map_map, List.length_cons, List.length_map, ← depths]
    have same : CallNode.depth ∘ Visit.tree edge = fun visit => visit.node.depth := by
      funext visit
      exact Visit.tree_depth edge visit
    rw [same]
    exact congrArg (· :: _) zero

end Workspace

end Callsite

import Mathlib.Algebra.GroupWithZero.Nat
import Callsite.Proofs.Directions

set_option autoImplicit false

/-! Expansions. A trace counts the nodes whose edges it looks for. How many these are can be read off the tree
that it returns: in each direction asked for, they are the nodes above the depth bound that are no placeholders
and stand below no node for the same function. -/

namespace Callsite

namespace CallNode

/-! ### Places in a tree -/

mutual

/-- The nodes of a tree along one kind of edge, each with the nodes on the path to it, the nearest first;
`above` are those on the path to the tree. -/
def places (edge : Edge) (above : List CallNode) : CallNode → List (List CallNode × CallNode)
  | ⟨name, path, line, signature, language, isAbstract, depth, callers, callees⟩ =>
      let node : CallNode := ⟨name, path, line, signature, language, isAbstract, depth, callers, callees⟩
      (above, node) ::
        match edge with
        | .caller => placesAmong edge (node :: above) callers
        | .callee => placesAmong edge (node :: above) callees

def placesAmong (edge : Edge) (above : List CallNode) : List CallNode → List (List CallNode × CallNode)
  | [] => []
  | node :: rest => places edge above node ++ placesAmong edge above rest

end

theorem placesAmong_eq_flatMap (edge : Edge) (above nodes : List CallNode) :
    placesAmong edge above nodes = nodes.flatMap (places edge above) := by
  induction nodes with
  | nil => rfl
  | cons node rest ih => rw [placesAmong, ih, List.flatMap_cons]

theorem places_eq (edge : Edge) (above : List CallNode) (node : CallNode) :
    node.places edge above = (above, node) :: (node.along edge).flatMap (places edge (node :: above)) := by
  rcases node with ⟨name, path, line, signature, language, isAbstract, depth, callers, callees⟩
  cases edge with
  | caller =>
      rw [places, placesAmong_eq_flatMap]
      rfl
  | callee =>
      rw [places, placesAmong_eq_flatMap]
      rfl

/-- Whether the edges of a node at a place are looked for: it stands above the depth bound, is no placeholder,
and no node on the path to it is the same function. -/
def Opens (limit : Nat) (place : List CallNode × CallNode) : Prop :=
  place.2.depth < limit ∧ place.2.isExternal = false ∧ ∀ ancestor ∈ place.1, ancestor.key ≠ place.2.key

instance (limit : Nat) : DecidablePred (Opens limit) :=
  fun _ => inferInstanceAs (Decidable (_ ∧ _ ∧ _))

/-- The number of nodes of a tree along one kind of edge whose edges are looked for. -/
def openPlaces (edge : Edge) (limit : Nat) (above : List CallNode) (node : CallNode) : Nat :=
  (node.places edge above).countP (Opens limit)

theorem openPlaces_eq (edge : Edge) (limit : Nat) (above : List CallNode) (node : CallNode) :
    node.openPlaces edge limit above =
      (if Opens limit (above, node) then 1 else 0) +
        ((node.along edge).map (openPlaces edge limit (node :: above))).sum := by
  rw [openPlaces, places_eq, List.countP_cons, List.countP_flatMap, Nat.add_comm]
  simp only [decide_eq_true_eq]
  rfl

end CallNode

/-! ### Visits and the places in their trees -/

theorem Visit.expansionsOf_eq_sum (visits : List Visit) :
    expansionsOf visits = (visits.map expansions).sum := by
  induction visits with
  | nil => rfl
  | cons visit rest ih => rw [expansionsOf, ih, List.map_cons, List.sum_cons]

/-- Whether `top` stands for the root of the tree of a visit: it may have further edges of the other kind. -/
structure Visit.Tops (visit : Visit) (edge : Edge) (top : CallNode) : Prop where
  key : top.key = visit.node.key
  depth : top.depth = visit.node.depth
  external : top.isExternal = visit.node.isExternal
  along : top.along edge = visit.further.map (tree edge)

theorem Visit.tops_tree (visit : Visit) (edge : Edge) : visit.Tops edge (visit.tree edge) where
  key := visit.tree_key edge
  depth := visit.tree_depth edge
  external := visit.tree_isExternal edge
  along := visit.tree_along edge

theorem Survey.tops_tree {survey : Survey} {edge : Edge} (top : (survey.along edge).node = survey.start) :
    (survey.along edge).Tops edge survey.tree where
  key := by
    rw [top]
    rfl
  depth := by
    rw [top]
    rfl
  external := by
    rw [top]
    rfl
  along := survey.along_tree edge

namespace Workspace

variable {workspace : Workspace} {options : TraceOptions} {root : Path} {limit : Nat} {name : String}

def CountsPlaces (edge : Edge) (limit : Nat) (path : List FunctionKey) (visit : Visit) : Prop :=
  ∀ (above : List CallNode) (top : CallNode), above.map CallNode.key = path → visit.Tops edge top →
    top.openPlaces edge limit above = visit.expansions

theorem opens_iff {edge : Edge} {path : List FunctionKey} {above : List CallNode} {visit : Visit}
    {top : CallNode} (keys : above.map CallNode.key = path) (tops : visit.Tops edge top) :
    CallNode.Opens limit (above, top) ↔
      visit.node.depth < limit ∧ ¬visit.node.isExternal ∧ visit.node.key ∉ path := by
  rw [CallNode.Opens, tops.depth, tops.external, tops.key, Bool.not_eq_true, ← keys, List.mem_map]
  simp only [not_exists, not_and]

theorem countsPlaces_of_visit {edge : Edge} {path : List FunctionKey} {node : CallNode} {visit : Visit}
    (visited : workspace.visit options root limit edge path node = .ok visit) :
    CountsPlaces edge limit path visit := by
  refine visit_induction (CountsPlaces edge limit) ?_ ?_ path node visited
  · intro path node stays above top keys tops
    rw [CallNode.openPlaces_eq, if_neg (mt (opens_iff keys tops).mp stays), tops.along]
    rfl
  · -- The children stand below the node itself, whose key has joined the path.
    intro path node further shallow own fresh _ each above top keys tops
    have opens : CallNode.Opens limit (above, top) :=
      (opens_iff keys tops).mpr ⟨shallow, ne_true_of_eq_false own, fresh⟩
    have below : (top :: above).map CallNode.key = node.key :: path := by
      rw [List.map_cons, keys, tops.key]
    have counted (child : Visit) (member : child ∈ further) :
        (child.tree edge).openPlaces edge limit (top :: above) = child.expansions :=
      (each child member).2.2 (top :: above) _ below (child.tops_tree edge)
    have same : further.map (CallNode.openPlaces edge limit (top :: above) ∘ Visit.tree edge) =
        further.map Visit.expansions := List.map_congr_left counted
    rw [CallNode.openPlaces_eq, if_pos opens, tops.along, List.map_map, same, Visit.expansions,
      Visit.expansionsOf_eq_sum]
    rfl

theorem openPlaces_of_visitFrom {survey : Survey} {edge : Edge} (asked : edge ∈ options.direction.edges)
    (visited : workspace.visitFrom options root limit survey.start edge = .ok (survey.along edge)) :
    survey.tree.openPlaces edge limit [] = (survey.along edge).expansions := by
  rw [visitFrom, if_pos asked] at visited
  exact countsPlaces_of_visit visited [] survey.tree rfl (Survey.tops_tree (visit_node visited))

theorem expansions_of_visitFrom {survey : Survey} {edge : Edge} (unasked : edge ∉ options.direction.edges)
    (visited : workspace.visitFrom options root limit survey.start edge = .ok (survey.along edge)) :
    (survey.along edge).expansions = 0 := by
  rw [visitFrom, if_neg unasked] at visited
  rw [← Except.ok.inj visited]
  rfl

theorem expansions_of_survey? {survey : Survey}
    (surveyed : workspace.survey? options root limit name = .ok (some survey)) :
    survey.expansions =
      (options.direction.edges.map fun edge => survey.tree.openPlaces edge limit []).sum := by
  obtain ⟨_, _, _, visited⟩ := exists_of_survey? surveyed
  have asked (edge : Edge) (member : edge ∈ options.direction.edges) :
      survey.tree.openPlaces edge limit [] = (survey.along edge).expansions :=
    openPlaces_of_visitFrom member (visited edge)
  have unasked (edge : Edge) (other : edge ∉ options.direction.edges) :
      (survey.along edge).expansions = 0 :=
    expansions_of_visitFrom other (visited edge)
  rw [List.map_congr_left asked]
  cases direction : options.direction with
  | callers =>
      have none : survey.callees.expansions = 0 := unasked .callee (direction ▸ by decide)
      show survey.callers.expansions + survey.callees.expansions = survey.callers.expansions + 0
      rw [none]
  | callees =>
      have none : survey.callers.expansions = 0 := unasked .caller (direction ▸ by decide)
      show survey.callers.expansions + survey.callees.expansions = survey.callees.expansions + 0
      rw [none, Nat.zero_add, Nat.add_zero]
  | both => rfl

end Workspace

/-- A trace with time left counts the open places of its tree, over the directions asked for, or nothing if it
finds no tree. It comes to a result if the rules of all languages compile and its root can be listed. -/
theorem MemoryCorpus.expansions_of_trace (corpus : MemoryCorpus) (registry : Registry)
    (filter : LanguageFilter) (options : TraceOptions) (root : Path) (name : String)
    (unspent : 0 < options.timeoutMs) :
    let run := (outcome (Workspace.trace ⟨corpus.toCorpus, registry, filter⟩ options root name) {}).1
    (registry.Regular → ∀ files, corpus.list root filter = .ok files → ∃ output, run = .ok output) ∧
      ∀ output, run = .ok output → output.expansions =
        output.root.elim 0 fun tree => (options.direction.edges.map fun edge =>
          (tree.places edge []).countP (CallNode.Opens options.maxDepth)).sum := by
  intro run
  let workspace : Workspace := ⟨corpus.toCorpus, registry, filter⟩
  have byPlace : workspace.corpus.ByPlace := corpus.toCorpus_byPlace
  have reached : options.reach = options.maxDepth := if_neg (Nat.ne_of_gt unspent)
  constructor
  · intro regular files listed
    have listed : workspace.filesAfresh root = .ok files := listed
    obtain ⟨found, surveyed⟩ : ∃ found, workspace.survey? options root options.reach name = .ok found :=
      Workspace.exists_survey? regular listed options.reach name
    obtain ⟨output, came, _⟩ := Workspace.exists_output_of_survey? byPlace surveyed
    exact ⟨output, came⟩
  · intro output came
    obtain ⟨found, surveyed, rooted, counted⟩ := Workspace.exists_survey?_of_output byPlace came
    rw [rooted, counted]
    cases found with
    | none => rfl
    | some survey =>
        rw [reached] at surveyed
        exact Workspace.expansions_of_survey? surveyed

namespace Scripts

theorem expansions_outline :
    (outcome ((corpus.workspace {} .any).trace {} ⟨""⟩ "f") {}).1.toOption.map (fun output =>
      (output.expansions, output.root.map fun tree => (tree.callers.length, tree.callees.length))) =
      some (4, some (1, 2)) := by
  decide +kernel

/-- Up and down from a function the trace expands the function and its neighbour, but neither the function where
it comes again nor a placeholder. -/
theorem expansions_counted :
    0 < ({} : TraceOptions).timeoutMs ∧ (corpus.workspace {} .any).registry.Regular ∧
      corpus.list ⟨""⟩ .any = .ok files ∧
      ∃ output tree, (outcome ((corpus.workspace {} .any).trace {} ⟨""⟩ "f") {}).1 = .ok output ∧
        output.root = some tree ∧ output.expansions = 4 ∧
        (tree.places .caller []).countP (CallNode.Opens 5) +
          ((tree.places .callee []).countP (CallNode.Opens 5) + 0) = 4 := by
  have regular : (corpus.workspace {} .any).registry.Regular := Shipped.registry_regular.withExtensions {}
  obtain ⟨returns, counts⟩ := MemoryCorpus.expansions_of_trace corpus (corpus.workspace {} .any).registry .any {}
    ⟨""⟩ "f" (by decide)
  obtain ⟨output, came⟩ := returns regular files list_corpus
  have outline := expansions_outline
  have same : (outcome ((corpus.workspace {} .any).trace {} ⟨""⟩ "f") {}).1 = .ok output := came
  rw [same] at outline
  obtain ⟨four, shape⟩ := Prod.mk.inj (Option.some.inj outline)
  obtain ⟨tree, rooted, _⟩ := Option.map_eq_some_iff.mp shape
  have counted := counts output came
  rw [rooted, four] at counted
  exact ⟨by decide, regular, list_corpus, output, tree, same, rooted, four, counted.symm⟩

end Scripts

end Callsite

import Callsite.Proofs.Provenance
import Callsite.Report

set_option autoImplicit false

/-! Trees and reports as records. What is written of a tree or of a report reads back as it was, as long as
the fields can hold its numbers. -/

namespace Callsite

theorem Path.ofJson?_toJson (path : Path) : Path.ofJson? path.toJson = some path :=
  rfl

theorem Direction.ofJson?_toJson (direction : Direction) :
    Direction.ofJson? direction.toJson = some direction := by
  cases direction <;> rfl

namespace CallNode

/-- Whether a field can hold each number of a tree. -/
def Fits (node : CallNode) : Prop :=
  ∀ inner ∈ node.walk, inner.line < Json.numberBound ∧ inner.depth < Json.numberBound

def ofArray? : Json → Option (List CallNode)
  | .array items => ofJsons? items
  | _ => none

theorem ofEntry?_eq (key : String) (entries : Fields) :
    ofEntry? key entries = entries.require key ofArray? := by
  induction entries with
  | nil => rfl
  | cons entry rest ih =>
      obtain ⟨name, json⟩ := entry
      rw [Fields.require, List.lookup_cons]
      by_cases same : key = name
      · rw [beq_iff_eq.mpr same]
        cases json <;> rw [ ofEntry?, if_pos same] <;> first | rfl | exact nofun
      · rw [beq_eq_false_iff_ne.mpr same]
        cases json <;> rw [ ofEntry?, if_neg same] <;> first | exact ih | exact nofun

theorem ofItem?_eq (index : Nat) (items : List Json) :
    ofItem? index items = items[index]?.bind ofArray? := by
  induction items generalizing index with
  | nil => rfl
  | cons json rest ih =>
      cases index with
      | zero => cases json <;> rw [ofItem?] <;> first | rfl | exact nofun
      | succ index => exact ih index

/-- The array of the fields of a node, the nodes below as objects. -/
def toRow (node : CallNode) : Json :=
  .array [
    .string node.functionName, .string node.filePath.text, .natural node.line,
    .string node.signature, .string node.language, .bool node.abstractDeclaration,
    .natural node.depth, .array (toJsons node.callers), .array (toJsons node.callees)]

/-- The entries of a node, with `flag` in place of the one that may be missing. -/
def entriesWith (flag : Fields) (node : CallNode) : Fields :=
  [("function_name", .string node.functionName), ("file_path", .string node.filePath.text),
   ("line", .natural node.line), ("signature", .string node.signature),
   ("language", .string node.language)] ++
  flag ++
  [("depth", .natural node.depth), ("callers", .array (toJsons node.callers)),
   ("callees", .array (toJsons node.callees))]

/-- Whether `flag` says if a node is abstract. Saying nothing says that it is not. -/
def Flags (flag : Fields) (node : CallNode) : Prop :=
  flag = [("abstract_declaration", .bool node.abstractDeclaration)] ∨
    flag = [] ∧ node.abstractDeclaration = false

theorem toJson_eq (node : CallNode) :
    ∃ flag, Flags flag node ∧ node.toJson = .object (entriesWith flag node) := by
  rcases node with ⟨name, path, line, signature, language, isAbstract, depth, callers, callees⟩
  cases isAbstract with
  | false => exact ⟨[], Or.inr ⟨rfl, rfl⟩, rfl⟩
  | true => exact ⟨_, Or.inl rfl, rfl⟩

theorem Fits.own {node : CallNode} (fits : node.Fits) :
    node.line < Json.numberBound ∧ node.depth < Json.numberBound :=
  fits node (mem_walk.mpr (.inl rfl))

theorem Fits.child {node child : CallNode} (fits : node.Fits)
    (member : child ∈ node.callers ++ node.callees) : child.Fits :=
  fun inner within => fits inner (mem_walk.mpr (.inr ⟨child, member, within⟩))

section

variable {node : CallNode} {flag : Fields}

theorem ownFields?_of_record {json : Json} (fits : node.Fits) (flagged : Flags flag node)
    (recorded : json.record? fieldNames = some (entriesWith flag node)) :
    ownFields? json = some { node with callers := [], callees := [] } := by
  have line := Json.natural?_natural fits.own.1
  have depth := Json.natural?_natural fits.own.2
  rw [ownFields?, recorded]
  obtain rfl | ⟨rfl, unset⟩ := flagged
  · simp only [entriesWith, Fields.require, Fields.getOr, List.cons_append, List.nil_append, List.lookup_cons,
      String.reduceBEq, Option.bind_eq_bind, Option.bind_some, Json.string?, Json.bool?, line, depth]
  · simp only [entriesWith, Fields.require, Fields.getOr, List.cons_append, List.nil_append, List.lookup_cons,
      List.lookup_nil, String.reduceBEq, Option.bind_eq_bind, Option.bind_some, Json.string?, line, depth,
      ← unset]

theorem require_callers_entriesWith (flagged : Flags flag node) :
    Fields.require (entriesWith flag node) "callers" ofArray? = ofJsons? (toJsons node.callers) := by
  obtain rfl | ⟨rfl, _⟩ := flagged <;> rfl

theorem require_callees_entriesWith (flagged : Flags flag node) :
    Fields.require (entriesWith flag node) "callees" ofArray? = ofJsons? (toJsons node.callees) := by
  obtain rfl | ⟨rfl, _⟩ := flagged <;> rfl

end

mutual

theorem ofJson?_toJson (node : CallNode) (fits : node.Fits) : ofJson? node.toJson = some node := by
  match node with
  | ⟨name, path, line, signature, language, isAbstract, depth, callers, callees⟩ =>
      obtain ⟨flag, flagged, written⟩ := toJson_eq
        ⟨name, path, line, signature, language, isAbstract, depth, callers, callees⟩
      have above := ofJsons?_toJsons callers fun child member =>
        fits.child (List.mem_append_left _ member)
      have below := ofJsons?_toJsons callees fun child member =>
        fits.child (List.mem_append_right _ member)
      rw [written, ofJson?, ownFields?_of_record fits flagged rfl, ofEntry?_eq, ofEntry?_eq,
        require_callers_entriesWith flagged, require_callees_entriesWith flagged, above, below]
      rfl

theorem ofJsons?_toJsons (nodes : List CallNode) (fits : ∀ node ∈ nodes, node.Fits) :
    ofJsons? (toJsons nodes) = some nodes := by
  match nodes with
  | [] => rfl
  | node :: rest =>
      have first := ofJson?_toJson node (fits node List.mem_cons_self)
      have others := ofJsons?_toJsons rest fun other member => fits other (List.mem_cons_of_mem _ member)
      rw [toJsons, ofJsons?, first, others]
      rfl

end

theorem ofJson?_toRow (node : CallNode) (fits : node.Fits) : ofJson? node.toRow = some node := by
  have above := ofJsons?_toJsons node.callers fun child member =>
    fits.child (List.mem_append_left _ member)
  have below := ofJsons?_toJsons node.callees fun child member =>
    fits.child (List.mem_append_right _ member)
  have own : ownFields? node.toRow = some { node with callers := [], callees := [] } :=
    ownFields?_of_record fits (.inl rfl) rfl
  rcases node with ⟨name, path, line, signature, language, isAbstract, depth, callers, callees⟩
  rw [toRow] at own ⊢
  rw [ofJson?, own, ofItem?_eq, ofItem?_eq]
  simp only [List.getElem?_cons_succ, List.getElem?_cons_zero, Option.bind_some, ofArray?]
  rw [above, below]
  rfl

end CallNode

namespace TraceReport

structure Fits (report : TraceReport) : Prop where
  maxDepth : report.maxDepth < Json.numberBound
  totalNodes : report.totalNodes < Json.numberBound
  elapsedMs : report.elapsedMs < Json.numberBound
  root : ∀ tree ∈ report.root, tree.Fits

/-- The outcome is read from the entries that write it, whichever entries stand before them. -/
theorem outcome?_append {before : Fields} {root : Option CallNode} (fits : ∀ tree ∈ root, tree.Fits)
    (noStatus : before.lookup "status" = none) (noRoot : before.lookup "root" = none) :
    outcome? (before ++ outcomeEntries root) = some root := by
  rw [outcome?, List.lookup_append, noStatus, Option.none_or]
  cases root with
  | none => rfl
  | some tree =>
      have read : Fields.require (before ++ outcomeEntries (some tree)) "root" CallNode.ofJson? =
          some tree := by
        rw [Fields.require, List.lookup_append, noRoot, Option.none_or]
        exact tree.ofJson?_toJson (fits tree rfl)
      change (do some (some (← Fields.require _ _ _))) = _
      rw [read]
      rfl

def ownEntries (report : TraceReport) : Fields :=
  [("function_name", .string report.functionName), ("search_path", report.searchPath.toJson),
   ("direction", report.direction.toJson), ("max_depth", .natural report.maxDepth),
   ("total_nodes", .natural report.totalNodes), ("timestamp", .string report.timestamp.render),
   ("elapsed_ms", .natural report.elapsedMs), ("truncated", .bool report.truncated)]

theorem ofJson?_toJson {report : TraceReport} (fits : report.Fits)
    (timed : Timestamp.parse? report.timestamp.render = some report.timestamp) :
    ofJson? report.toJson = some report := by
  have maxDepth := Json.natural?_natural fits.maxDepth
  have totalNodes := Json.natural?_natural fits.totalNodes
  have elapsedMs := Json.natural?_natural fits.elapsedMs
  have outcome : outcome? (report.ownEntries ++ outcomeEntries report.root) = some report.root :=
    outcome?_append fits.root rfl rfl
  simp only [ownEntries, List.cons_append, List.nil_append] at outcome
  simp only [toJson, ofJson?, Fields.require, List.cons_append, List.nil_append, List.lookup_cons,
    String.reduceBEq, Option.bind_eq_bind, Option.bind_some, Json.string?, Json.bool?, Path.ofJson?_toJson,
    Direction.ofJson?_toJson, maxDepth, totalNodes, elapsedMs, timed, outcome]

end TraceReport

/-- Trees of any shape read back from what is written of them, and from the array of their fields; so do
reports, found or not, whose time reads back. -/
theorem records_read_back :
    (∀ node : CallNode, node.Fits →
      CallNode.ofJson? node.toJson = some node ∧ CallNode.ofJson? node.toRow = some node) ∧
    ∀ report : TraceReport, report.Fits →
      Timestamp.parse? report.timestamp.render = some report.timestamp →
        TraceReport.ofJson? report.toJson = some report :=
  ⟨fun node fits => ⟨node.ofJson?_toJson fits, node.ofJson?_toRow fits⟩,
    fun _ fits timed => TraceReport.ofJson?_toJson fits timed⟩

namespace Exhibit

/-- An abstract function with two functions above it, the higher one at the largest line that a field
holds, and a function outside of the corpus below it. -/
def tree : CallNode where
  functionName := "naïve"
  filePath := ⟨"a \"b\"/c\\d.rs"⟩
  line := 3
  signature := "abstract fn naïve();\t"
  language := "rust"
  abstractDeclaration := true
  callers :=
    [⟨"over", ⟨""⟩, 1, "\n", "", false, 1, [⟨"top", ⟨"/"⟩, UInt64.size - 1, "", "go", true, 2, [], []⟩], []⟩]
  callees := [CallNode.placeholder "under" 1]

def report (root : Option CallNode) : TraceReport where
  functionName := "naïve"
  searchPath := ⟨"."⟩
  direction := .both
  maxDepth := 2
  totalNodes := 4
  timestamp := ⟨1704164645, 678000000⟩
  elapsedMs := 0
  truncated := false
  root := root

theorem tree_fits : tree.Fits := by
  unfold CallNode.Fits
  decide

theorem report_fits (root : Option CallNode) (fits : ∀ tree ∈ root, tree.Fits) : (report root).Fits :=
  ⟨(by decide : 2 < Json.numberBound), (by decide : 4 < Json.numberBound),
    (by decide : 0 < Json.numberBound), fits⟩

theorem reads_back :
    CallNode.ofJson? tree.toJson = some tree ∧ CallNode.ofJson? tree.toRow = some tree ∧
      TraceReport.ofJson? (report (some tree)).toJson = some (report (some tree)) ∧
      TraceReport.ofJson? (report none).toJson = some (report none) := by
  have timed : Timestamp.parse? (report none).timestamp.render = some (report none).timestamp := by
    decide +kernel
  obtain ⟨object, row⟩ := records_read_back.1 tree tree_fits
  have found := records_read_back.2 (report (some tree)) (report_fits _ fun _ same => by
    cases same
    exact tree_fits) timed
  have missing := records_read_back.2 (report none) (report_fits _ nofun) timed
  exact ⟨object, row, found, missing⟩

end Exhibit

end Callsite

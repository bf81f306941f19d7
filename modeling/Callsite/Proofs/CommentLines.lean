import Callsite.Proofs.Mirror
import Callsite.Proofs.Provenance

set_option autoImplicit false

/-! What comments can change in answers. Definitions, callers and scopes do not depend on the text of comment
lines. Callees do through the end of the body only: a brace in a comment counts as a brace, and a comment that
is not indented ends a body as any other line does. -/

namespace Callsite

instance decidableRel {α β : Type} {rel : α → β → Prop} [∀ value other, Decidable (rel value other)] :
    ∀ value other, Decidable (Option.Rel rel value other)
  | none, none => isTrue .none
  | some value, some other =>
      decidable_of_iff (rel value other) ⟨.some, fun | .some related => related⟩
  | none, some _ => isFalse nofun
  | some _, none => isFalse nofun

namespace MemoryCorpus

def linesOf? (corpus : MemoryCorpus) (path : Path) : Option (List String) :=
  (corpus.toCorpus.read? path).map Text.lines

/-- Whether two corpora have the same files, with texts that differ in comments only. -/
structure DiffersInComments (registry : Registry) (left right : MemoryCorpus) : Prop where
  unlistable : left.unlistable = right.unlistable
  places : left.files.map (fun file => (file.path, file.language)) =
    right.files.map fun file => (file.path, file.language)
  texts : ∀ file ∈ left.files, Option.Rel (registry.language file.language).OnlyCommentsDiffer
    (left.linesOf? file.path) (right.linesOf? file.path)

def SameMarks (registry : Registry) (left right : MemoryCorpus) (file : StoredFile) : Prop :=
  Option.Rel (List.Forall₂ (registry.language file.language).table.blockStyle.SameMarks)
    (left.linesOf? file.path) (right.linesOf? file.path)

instance (registry : Registry) (left right : MemoryCorpus) (file : StoredFile) :
    Decidable (SameMarks registry left right file) :=
  inferInstanceAs (Decidable (Option.Rel _ _ _))

theorem list_eq_filter (corpus : MemoryCorpus) (root : Path) (filter : LanguageFilter) :
    corpus.list root filter =
      match corpus.unlistable.find? (·.same root) with
      | some place => .error (.unlistable place)
      | none => .ok <| ((corpus.files.map fun file => (file.path, file.language)).filter fun file =>
          file.1.isUnder root && filter.allows file.2).map fun file => ⟨file.1, file.2⟩ := by
  rw [list, List.filter_map, List.map_map]
  rfl

theorem exists_of_mem_list {corpus : MemoryCorpus} {root : Path} {filter : LanguageFilter}
    {files : List SourceFile} (listed : corpus.list root filter = .ok files) {file : SourceFile}
    (member : file ∈ files) : ∃ stored ∈ corpus.files, file = ⟨stored.path, stored.language⟩ := by
  rw [list] at listed
  split at listed
  · contradiction
  · cases Except.ok.inj listed
    obtain ⟨stored, inFiles, rfl⟩ := List.mem_map.mp member
    exact ⟨stored, (List.mem_filter.mp inFiles).1, rfl⟩

section

variable {registry : Registry} {left right : MemoryCorpus} (differs : DiffersInComments registry left right)

include differs

theorem DiffersInComments.mirrors (filter : LanguageFilter) (root : Path) :
    Workspace.Mirrors ⟨left.toCorpus, registry, filter⟩ ⟨right.toCorpus, registry, filter⟩ root := by
  refine ⟨left.toCorpus_byPlace, right.toCorpus_byPlace, rfl, ?_, ?_⟩
  · show left.list root filter = right.list root filter
    rw [list_eq_filter, list_eq_filter, differs.unlistable, differs.places]
  · intro files listed file member
    obtain ⟨stored, inFiles, rfl⟩ := exists_of_mem_list listed member
    exact differs.texts stored inFiles

omit differs in
theorem sameSpans (marks : ∀ file ∈ left.files, SameMarks registry left right file)
    (filter : LanguageFilter) (root : Path) :
    Workspace.SameSpans ⟨left.toCorpus, registry, filter⟩ ⟨right.toCorpus, registry, filter⟩ root := by
  intro files listed file member lines others read readToo scanLimit start
  obtain ⟨stored, inFiles, rfl⟩ := exists_of_mem_list listed member
  have alike := marks stored inFiles
  change left.linesOf? stored.path = some lines at read
  change right.linesOf? stored.path = some others at readToo
  rw [SameMarks, read, readToo] at alike
  cases alike with
  | some alike => exact Body.isolate_eq alike scanLimit start

/-- Comments do not influence definitions, callers and scopes. In two corpora whose texts differ in comments
only, every name has the same definition, every trace of callers comes to the same, and every line has the
same enclosing function, type and scope. -/
theorem definitions_callers_scopes_eq (filter : LanguageFilter) :
    (∀ (name : String) (root : Path),
      (outcome (Workspace.definition? ⟨left.toCorpus, registry, filter⟩ name root) {}).1 =
        (outcome (Workspace.definition? ⟨right.toCorpus, registry, filter⟩ name root) {}).1) ∧
    (∀ (options : TraceOptions) (root : Path) (name : String), options.direction = .callers →
      (outcome (Workspace.trace ⟨left.toCorpus, registry, filter⟩ options root name) {}).1 =
        (outcome (Workspace.trace ⟨right.toCorpus, registry, filter⟩ options root name) {}).1) ∧
    ∀ file ∈ left.files, ∀ index,
      (left.linesOf? file.path).map (fun lines =>
          ((registry.language file.language).enclosingFunction? lines index none,
            (registry.language file.language).enclosingType? lines index,
            (registry.language file.language).enclosingScope? lines index)) =
        (right.linesOf? file.path).map fun lines =>
          ((registry.language file.language).enclosingFunction? lines index none,
            (registry.language file.language).enclosingType? lines index,
            (registry.language file.language).enclosingScope? lines index) := by
  refine ⟨fun name root => ?_, fun options root name direction => ?_, fun file member index => ?_⟩
  · have empty : Session.Mirrors ⟨left.toCorpus, registry, filter⟩ ⟨right.toCorpus, registry, filter⟩
        {} {} := Session.mirrors_empty _ _
    have found := Workspace.definition?_couples (differs.mirrors filter root) name {} {} empty
    exact found.1.eq
  · have unasked : Edge.callee ∉ options.direction.edges := by
      rw [direction]
      decide
    have traced := Workspace.trace_mirrored (differs.mirrors filter root)
      (fun asked => absurd asked unasked) name
    exact traced.1
  · have texts := differs.texts file member
    generalize left.linesOf? file.path = read at texts ⊢
    generalize right.linesOf? file.path = readToo at texts ⊢
    cases texts with
    | none => rfl
    | some alike =>
        have scopes (kinds : List ScopeKind) := alike.enclosing?_eq kinds index
        simp only [Option.map_some, Language.enclosingFunction?, Language.enclosingType?,
          Language.enclosingScope?, scopes]

theorem DiffersInComments.trace_eq (marks : ∀ file ∈ left.files, SameMarks registry left right file)
    (filter : LanguageFilter) (options : TraceOptions) (root : Path) (name : String) :
    (outcome (Workspace.trace ⟨left.toCorpus, registry, filter⟩ options root name) {}).1 =
      (outcome (Workspace.trace ⟨right.toCorpus, registry, filter⟩ options root name) {}).1 := by
  have spans (_ : Edge.callee ∈ options.direction.edges) := sameSpans marks filter root
  exact (Workspace.trace_mirrored (differs.mirrors filter root) spans name).1

end

end MemoryCorpus

/-! ### The shipped languages -/

theorem Shipped.hashes_of_endKeyword : ∀ table ∈ generic :: tables, table.blockStyle = .endKeyword →
    ∀ opener ∈ table.commentPrefixes, opener.toList.head? = some '#' := by
  decide +kernel

theorem MemoryCorpus.DiffersInComments.sameMarks_of_endKeyword {extensions : Dictionary String}
    {left right : MemoryCorpus}
    (differs : DiffersInComments (Shipped.registry.withExtensions extensions) left right)
    {file : StoredFile} (member : file ∈ left.files)
    (style : ((Shipped.registry.withExtensions extensions).language file.language).table.blockStyle =
      .endKeyword) :
    SameMarks (Shipped.registry.withExtensions extensions) left right file := by
  have shipped : (Shipped.registry.withExtensions extensions).Every fun language =>
      language.table.blockStyle = .endKeyword →
        ∀ opener ∈ language.table.commentPrefixes, opener.toList.head? = some '#' :=
    (Shipped.registry_every Shipped.hashes_of_endKeyword).withExtensions extensions
  have hashes := shipped.language file.language style
  have texts := differs.texts file member
  rw [SameMarks, style]
  generalize left.linesOf? file.path = read at texts ⊢
  generalize right.linesOf? file.path = readToo at texts ⊢
  cases texts with
  | none => exact .none
  | some alike =>
      apply Option.Rel.some
      apply alike.imp
      rintro line other (rfl | ⟨comment, commentToo⟩)
      · exact BlockStyle.SameMarks.refl .endKeyword line
      · show Body.codeWords line = Body.codeWords other
        rw [Language.codeWords_of_isComment hashes comment,
          Language.codeWords_of_isComment hashes commentToo]

/-- With the shipped languages, comments may be exchanged without any change to a trace, if they have the
same braces where blocks stand between braces, and the same indentation where blocks are indented. Where
blocks end with a keyword, any comments may be exchanged. -/
theorem MemoryCorpus.trace_eq_of_comments {extensions : Dictionary String} {left right : MemoryCorpus}
    (differs : DiffersInComments (Shipped.registry.withExtensions extensions) left right)
    (marks : ∀ file ∈ left.files,
      ((Shipped.registry.withExtensions extensions).language file.language).table.blockStyle ≠
          .endKeyword →
        SameMarks (Shipped.registry.withExtensions extensions) left right file)
    (filter : LanguageFilter) (options : TraceOptions) (root : Path) (name : String) :
    (outcome ((left.workspace extensions filter).trace options root name) {}).1 =
      (outcome ((right.workspace extensions filter).trace options root name) {}).1 := by
  apply differs.trace_eq
  intro file member
  by_cases style : ((Shipped.registry.withExtensions extensions).language
      file.language).table.blockStyle = .endKeyword
  · exact differs.sameMarks_of_endKeyword member style
  · exact marks file member style

/-! ### A remark in two functions -/

namespace Remarks

def corpus (remark : String) : MemoryCorpus where
  files := [
    ⟨⟨"/repo/a.go"⟩, "go", some ("func a() \x7b\n\t// " ++ remark ++ "\n\tb()\n\x7d")⟩,
    ⟨⟨"/repo/b.rb"⟩, "ruby", some ("def b\n  # " ++ remark ++ "\n  a()\nend")⟩]

theorem differsInComments_brace :
    MemoryCorpus.DiffersInComments (Shipped.registry.withExtensions {}) (corpus "x")
      (corpus "\x7d") where
  unlistable := rfl
  places := rfl
  texts := by decide +kernel

theorem definition_and_callers_brace :
    (outcome (Workspace.definition? ⟨(corpus "x").toCorpus, Shipped.registry.withExtensions {}, .any⟩
          "a" ⟨"/repo"⟩) {}).1 =
        (outcome (Workspace.definition?
          ⟨(corpus "\x7d").toCorpus, Shipped.registry.withExtensions {}, .any⟩ "a" ⟨"/repo"⟩) {}).1 ∧
      (outcome (Workspace.trace ⟨(corpus "x").toCorpus, Shipped.registry.withExtensions {}, .any⟩
          { direction := .callers } ⟨"/repo"⟩ "b") {}).1 =
        (outcome (Workspace.trace ⟨(corpus "\x7d").toCorpus, Shipped.registry.withExtensions {}, .any⟩
          { direction := .callers } ⟨"/repo"⟩ "b") {}).1 := by
  have same := MemoryCorpus.definitions_callers_scopes_eq differsInComments_brace .any
  exact ⟨same.1 "a" ⟨"/repo"⟩, same.2.1 { direction := .callers } ⟨"/repo"⟩ "b" rfl⟩

/-- A remark with the word `end` changes no trace. -/
theorem trace_end :
    (outcome (((corpus "x").workspace {} .any).trace {} ⟨"/repo"⟩ "a") {}).1 =
      (outcome (((corpus "end").workspace {} .any).trace {} ⟨"/repo"⟩ "a") {}).1 := by
  have differs : MemoryCorpus.DiffersInComments (Shipped.registry.withExtensions {}) (corpus "x")
      (corpus "end") := by
    constructor
    · rfl
    · rfl
    · decide +kernel
  have marks : ∀ file ∈ (corpus "x").files,
      ((Shipped.registry.withExtensions {}).language file.language).table.blockStyle ≠ .endKeyword →
        MemoryCorpus.SameMarks (Shipped.registry.withExtensions {}) (corpus "x") (corpus "end")
          file := by
    decide +kernel
  exact MemoryCorpus.trace_eq_of_comments differs marks .any {} ⟨"/repo"⟩ "a"

/-- A remark with a closing brace hides the callees below it. -/
theorem trace_brace :
    MemoryCorpus.DiffersInComments (Shipped.registry.withExtensions {}) (corpus "x")
        (corpus "\x7d") ∧
      (outcome (((corpus "x").workspace {} ⟨["go"]⟩).trace { direction := .callees } ⟨"/repo"⟩ "a")
          {}).1 ≠
        (outcome (((corpus "\x7d").workspace {} ⟨["go"]⟩).trace { direction := .callees } ⟨"/repo"⟩
          "a") {}).1 := by
  refine ⟨differsInComments_brace, fun same => ?_⟩
  have sizes := congrArg (fun result => (result.toOption.bind TraceOutput.root).map CallNode.size) same
  revert sizes
  decide +kernel

end Remarks

end Callsite

import Callsite.Engine
import Callsite.Proofs.Language.ShippedTemplates

set_option autoImplicit false

/-! The registry of the shipped tables. All its languages are regular, and extensions that the settings
map to languages leave them as they are. -/

namespace Callsite

namespace Registry

structure Every (holds : Language → Prop) (registry : Registry) : Prop where
  generic : holds registry.generic
  languages : ∀ name language, registry.languages.get? name = some language → holds language

namespace Every

variable {holds : Language → Prop} {registry : Registry} (every : registry.Every holds)

include every

theorem language (name : String) : holds (registry.language name) := by
  rw [Registry.language]
  cases known : registry.languages.get? (registry.canonicalName name) with
  | none => exact every.generic
  | some language => exact every.languages _ language known

theorem add {language : Language} (more : holds language) : (registry.add language).Every holds := by
  refine ⟨every.generic, fun name other known => ?_⟩
  have known : (registry.languages.put language.table.name language).get? name = some other := known
  rw [Dictionary.get?_put] at known
  split at known
  · cases Option.some.inj known
    exact more
  · exact every.languages name other known

theorem withExtensions (extensions : Dictionary String) :
    (registry.withExtensions extensions).Every holds := by
  rw [Registry.withExtensions]
  generalize extensions.entries = entries
  induction entries generalizing registry with
  | nil => exact every
  | cons entry rest ih =>
      rw [List.foldl_cons]
      exact ih ⟨every.generic, every.languages⟩

end Every

structure Regular (registry : Registry) : Prop where
  generic : registry.generic.Regular
  languages : ∀ name language, registry.languages.get? name = some language → language.Regular

theorem regular_iff {registry : Registry} : registry.Regular ↔ registry.Every Language.Regular :=
  ⟨fun regular => ⟨regular.generic, regular.languages⟩, fun every => ⟨every.generic, every.languages⟩⟩

theorem Regular.language {registry : Registry} (regular : registry.Regular) (name : String) :
    (registry.language name).Regular :=
  (regular_iff.mp regular).language name

theorem Regular.withExtensions {registry : Registry} (regular : registry.Regular)
    (extensions : Dictionary String) : (registry.withExtensions extensions).Regular :=
  regular_iff.mpr ((regular_iff.mp regular).withExtensions extensions)

/-- The registry with the languages of further tables, when these compile. -/
def addTables (registry : Registry) (tables : List LanguageTable) : Registry :=
  tables.foldl (fun registry table => registry.add table.language) registry

section

variable {generic : LanguageTable} {tables : List LanguageTable}

theorem foldlM_register (slotted : ∀ table ∈ tables, ∀ template ∈ table.templates, template.Slotted)
    (registry : Registry) : tables.foldlM register registry = .ok (registry.addTables tables) := by
  induction tables generalizing registry with
  | nil => rfl
  | cons table rest ih =>
      obtain ⟨slottedTable, slottedRest⟩ := List.forall_mem_cons.mp slotted
      rw [List.foldlM_cons, register, (LanguageTable.ofTable_of_slotted slottedTable).1]
      exact ih slottedRest (registry.add table.language)

theorem Every.addTables {holds : Language → Prop} (each : ∀ table ∈ tables, holds table.language)
    {registry : Registry} (every : registry.Every holds) : (registry.addTables tables).Every holds := by
  induction tables generalizing registry with
  | nil => exact every
  | cons table rest ih =>
      obtain ⟨here, later⟩ := List.forall_mem_cons.mp each
      exact ih later (every.add here)

theorem register_all
    (slotted : ∀ table ∈ generic :: tables, ∀ template ∈ table.templates, template.Slotted) :
    (do tables.foldlM register { generic := ← Language.ofTable generic }) =
      .ok (addTables { generic := generic.language } tables) := by
  obtain ⟨slottedGeneric, slottedTables⟩ := List.forall_mem_cons.mp slotted
  rw [(LanguageTable.ofTable_of_slotted slottedGeneric).1]
  exact foldlM_register slottedTables _

end

end Registry

def Shipped.registry : Registry :=
  .addTables { generic := generic.language } tables

theorem Registry.shipped?_eq : Registry.shipped? = .ok Shipped.registry :=
  register_all Shipped.templates_slotted

theorem Shipped.registry_every {holds : Language → Prop}
    (each : ∀ table ∈ generic :: tables, holds table.language) : registry.Every holds := by
  obtain ⟨here, later⟩ := List.forall_mem_cons.mp each
  have start : Registry.Every holds { generic := generic.language } := ⟨here, nofun⟩
  exact start.addTables later

theorem Shipped.registry_regular : registry.Regular := by
  apply Registry.regular_iff.mpr
  apply registry_every
  intro table member
  exact (LanguageTable.ofTable_of_slotted (templates_slotted table member)).2

end Callsite

import Callsite.Proofs.Language.ShippedRegistry
import Callsite.Proofs.Text.Lowercase

set_option autoImplicit false

/-! The names under which languages are known. In the registry of an engine, whatever extensions its
settings add, a canonical name is its own canonical name, and so is the language of every file; so the
languages of files and the names in a filter can be compared as they are. -/

namespace Callsite

open Text

namespace Registry

theorem canonicalName_eq (registry : Registry) (name : String) :
    registry.canonicalName name =
      if registry.languages.contains (normalName name) then normalName name
      else (registry.aliases.get? (normalName name)).getD (normalName name) :=
  rfl

theorem canonicalName_normalName (registry : Registry) (name : String) :
    registry.canonicalName (normalName name) = registry.canonicalName name := by
  rw [canonicalName_eq, canonicalName_eq, normalName_normalName]

/-- A registry whose aliases and extensions lead to names that are their own canonical names. -/
structure Settled (registry : Registry) : Prop where
  aliases : ∀ other name, registry.aliases.get? other = some name → registry.canonicalName name = name
  extensions : ∀ extension name, registry.extensions.get? extension = some name →
    registry.canonicalName name = name

namespace Settled

variable {registry : Registry} (settled : registry.Settled)

include settled

theorem canonicalName_canonicalName (name : String) :
    registry.canonicalName (registry.canonicalName name) = registry.canonicalName name := by
  by_cases known : registry.languages.contains (normalName name) = true
  · have own : registry.canonicalName name = normalName name := by
      rw [canonicalName_eq, if_pos known]
    rw [own, canonicalName_normalName, own]
  cases meant : registry.aliases.get? (normalName name) with
  | some other =>
      have own : registry.canonicalName name = other := by
        rw [canonicalName_eq, if_neg known, meant, Option.getD_some]
      rw [own]
      exact settled.aliases _ other meant
  | none =>
      have own : registry.canonicalName name = normalName name := by
        rw [canonicalName_eq, if_neg known, meant, Option.getD_none]
      rw [own, canonicalName_normalName, own]

theorem mapExtension (extension name : String) : (registry.mapExtension extension name).Settled := by
  refine ⟨settled.aliases, fun other language routed => ?_⟩
  have put : (registry.extensions.put _ (registry.canonicalName name)).get? other = some language :=
    routed
  rw [Dictionary.get?_put] at put
  split at put
  · cases put
    exact settled.canonicalName_canonicalName name
  · exact settled.extensions other language put

theorem withExtensions (extensions : Dictionary String) : (registry.withExtensions extensions).Settled := by
  rw [Registry.withExtensions]
  generalize extensions.entries = entries
  induction entries generalizing registry with
  | nil => exact settled
  | cons entry rest ih =>
      rw [List.foldl_cons]
      exact ih (settled.mapExtension entry.1 entry.2)

theorem canonicalName_of_languageOf? {path : Path} {language : String}
    (classified : registry.languageOf? path = some language) :
    registry.canonicalName language = language := by
  obtain ⟨extension, _, routed⟩ := Option.bind_eq_some_iff.mp classified
  exact settled.extensions (lowercase extension) language routed

end Settled

end Registry

theorem Shipped.registry_settled : registry.Settled := by
  have aliases : ∀ entry ∈ registry.aliases.entries, registry.canonicalName entry.2 = entry.2 := by
    decide +kernel
  have extensions : ∀ entry ∈ registry.extensions.entries,
      registry.canonicalName entry.2 = entry.2 := by
    decide +kernel
  constructor
  · intro other name found
    exact aliases (other, name) (Dictionary.mem_entries_of_get? found)
  · intro extension name found
    exact extensions (extension, name) (Dictionary.mem_entries_of_get? found)

/-- A filter allows the languages that its names stand for, and every language if all its names are
blank. -/
theorem LanguageFilter.allows_ofNames_iff (registry : Registry) (names : List String)
    (language : String) :
    (ofNames registry names).allows language = true ↔
      (∀ name ∈ names, isBlankText name = true) ∨
        ∃ name ∈ names, isBlankText name = false ∧ registry.canonicalName name = language := by
  have inNames (other : String) : other ∈ (ofNames registry names).names ↔
      ∃ name ∈ names, isBlankText name = false ∧ registry.canonicalName name = other := by
    rw [ofNames, Dictionary.mem_keys_ofList_iff, List.map_map]
    simp only [List.mem_map, List.mem_filter, Bool.not_eq_true', Function.comp_apply, and_assoc]
  rw [allows, isAny, Bool.or_eq_true, decide_eq_true_eq, inNames, List.isEmpty_iff,
    List.eq_nil_iff_forall_not_mem]
  refine or_congr_left ?_
  constructor
  · intro nothing name member
    by_contra some
    rw [Bool.not_eq_true] at some
    exact nothing _ ((inNames _).mpr ⟨name, member, some, rfl⟩)
  · intro blank other member
    obtain ⟨name, inList, some, _⟩ := (inNames other).mp member
    rw [blank name inList] at some
    contradiction

/-- In the registry of an engine, canonical names and the languages of files are their own canonical
names, and a filter allows the language of a file just if it names nothing, or names that language. -/
theorem Engine.names_agree (settings : Settings) (disk : Disk) :
    let registry := (onDisk settings Shipped.registry disk).registry
    (∀ name, registry.canonicalName (registry.canonicalName name) = registry.canonicalName name) ∧
      ∀ path language, registry.languageOf? path = some language →
        registry.canonicalName language = language ∧
          ∀ names, (LanguageFilter.ofNames registry names).allows language = true ↔
            (∀ name ∈ names, isBlankText name = true) ∨
              ∃ name ∈ names, isBlankText name = false ∧ registry.canonicalName name = language := by
  intro registry
  have settled : registry.Settled :=
    Shipped.registry_settled.withExtensions settings.corpus.fileExtensions
  refine ⟨settled.canonicalName_canonicalName, fun path language classified => ?_⟩
  refine ⟨settled.canonicalName_of_languageOf? classified, fun names => ?_⟩
  exact LanguageFilter.allows_ofNames_iff registry names language

namespace Kotlin

/-- Settings that write the extension and the language in their own way. -/
def settings : Settings :=
  { corpus := { fileExtensions := .ofList [("..KT", " Kotlin\t"), ("jl", "PY3")] } }

def registry : Registry :=
  (Engine.onDisk settings Shipped.registry ⟨⟨"/"⟩, .folder []⟩).registry

theorem languageOf?_eq : registry.languageOf? ⟨"src/Main.kt"⟩ = some "kotlin" := by
  decide +kernel

theorem filter_allows :
    registry.canonicalName "kotlin" = "kotlin" ∧
      (LanguageFilter.ofNames registry [" ", "py", "KOTLIN"]).allows "kotlin" = true ∧
      (LanguageFilter.ofNames registry [" "]).allows "kotlin" = true := by
  obtain ⟨_, files⟩ := Engine.names_agree settings ⟨⟨"/"⟩, .folder []⟩
  obtain ⟨canonical, allowed⟩ := files ⟨"src/Main.kt"⟩ "kotlin" languageOf?_eq
  refine ⟨canonical, (allowed _).mpr (.inr ⟨"KOTLIN", ?_, ?_, ?_⟩), (allowed _).mpr (.inl ?_)⟩
  · simp
  · decide
  · decide +kernel
  · simp only [List.forall_mem_singleton]
    decide

end Kotlin

end Callsite

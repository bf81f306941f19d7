import Callsite.Proofs.Language.Registration

set_option autoImplicit false

/-! Routes of file extensions over the history of a registry. An extension stands for the language to which it
was routed last, by a table that was registered or on its own; a registration that fails routes nothing, and
leaves the registry as it was. -/

namespace Callsite

open Text

theorem Dictionary.mem_entries_iff {α : Type} {dictionary : Dictionary α} {key : String} {value : α} :
    (key, value) ∈ dictionary.entries ↔ dictionary.get? key = some value := by
  refine ⟨fun member => ?_, mem_entries_of_get?⟩
  obtain ⟨content, found⟩ : ∃ content, dictionary.get? key = some content := by
    have bound := mem_keys_iff.mp (List.mem_map_of_mem (f := Prod.fst) member)
    exact Option.isSome_iff_exists.mp bound
  have same := List.inj_on_of_nodup_map dictionary.nodup_keys (mem_entries_of_get? found) member rfl
  rw [found, (Prod.mk.inj same).2]

def lastFor? (key : String) (entries : List (String × String)) : Option String :=
  entries.reverse.lookup key

theorem lastFor?_append (key : String) (early late : List (String × String)) :
    lastFor? key (early ++ late) = (lastFor? key late).or (lastFor? key early) := by
  rw [lastFor?, List.reverse_append, List.lookup_append]
  rfl

theorem lastFor?_singleton (key other value : String) :
    lastFor? key [(other, value)] = if key = other then some value else none := by
  rw [lastFor?, List.reverse_singleton, Dictionary.lookup_cons_if, List.lookup_nil]

theorem lastFor?_map (key : String) (names : List String) (keyOf : String → String) (value : String) :
    lastFor? key (names.map fun name => (keyOf name, value)) =
      if key ∈ names.map keyOf then some value else none := by
  induction names with
  | nil => rfl
  | cons name rest ih =>
      rw [List.map_cons, List.map_cons, ← List.singleton_append, lastFor?_append, ih, lastFor?_singleton]
      by_cases later : key ∈ rest.map keyOf
      · rw [if_pos later, if_pos (List.mem_cons_of_mem _ later), Option.some_or]
      · rw [if_neg later, Option.none_or]
        simp only [List.mem_cons, later, or_false]

inductive Registry.Change where
  | map (extension name : String)
  | register (table : LanguageTable)
  deriving DecidableEq, Repr

/-- A computation on a registry that may fail. What it has changed by then remains changed. -/
abbrev Registering := ExceptT Failure (StateM Registry)

namespace Registry

/-- Makes a change. The rules of a table are compiled before anything is entered. -/
def Change.perform : Change → Registering PUnit
  | .map extension name => modify (·.mapExtension extension name)
  | .register table => do
      let language ← MonadExcept.ofExcept ((Language.ofTable table).mapError Failure.pattern)
      modify (·.add language)

/-- What a change comes to, and the registry after it. -/
def change (registry : Registry) (change : Change) : Except Failure PUnit × Registry :=
  outcome change.perform registry

theorem change_register (registry : Registry) (table : LanguageTable) :
    registry.change (.register table) =
      match registry.register table with
      | .ok after => (.ok ⟨⟩, after)
      | .error fault => (.error (.pattern fault), registry) := by
  rw [change, Change.perform, register]
  cases compiled : Language.ofTable table with
  | error fault => exact outcome_bind_error (outcome_ofExcept _ registry)
  | ok language => rfl

def after (registry : Registry) (changes : List Change) : Registry :=
  changes.foldl (fun registry change => (registry.change change).2) registry

/-- The extensions that a change routes, in lower case, with the languages to which it routes them. -/
def Change.routes (registry : Registry) : Change → List (String × String)
  | .map extension name =>
      [(lowercase (String.ofList (extension.toList.dropWhile (· = '.'))), registry.canonicalName name)]
  | .register table => table.extensions.map fun extension => (lowercase extension, table.name)

/-- The routes of the changes of a history that have been made, in order. -/
def routes (registry : Registry) : List Change → List (String × String)
  | [] => []
  | change :: rest =>
      match registry.change change with
      | (.ok _, next) => change.routes registry ++ next.routes rest
      | (.error _, next) => next.routes rest

/-- A change that fails leaves the registry as it is. After one that is made, an extension stands for the
language to which it has been routed, or for what it stood before. -/
theorem change_cases (registry : Registry) (change : Change) :
    (∃ failure, registry.change change = (.error failure, registry)) ∨
      ∃ next, registry.change change = (.ok ⟨⟩, next) ∧ ∀ extension, next.extensions.get? extension =
        (lastFor? extension (change.routes registry)).or (registry.extensions.get? extension) := by
  cases change with
  | map other name =>
      refine .inr ⟨registry.mapExtension other name, rfl, fun extension => ?_⟩
      rw [mapExtension, Change.routes, Dictionary.get?_put, lastFor?_singleton]
      split <;> rfl
  | register table =>
      rw [change_register]
      cases registered : registry.register table with
      | error fault => exact .inl ⟨.pattern fault, rfl⟩
      | ok next =>
          obtain ⟨language, _, own, rfl⟩ := exists_of_register registered
          refine .inr ⟨registry.add language, rfl, fun extension => ?_⟩
          rw [add, own, Dictionary.get?_foldl_put, Change.routes, lastFor?_map]
          split <;> rfl

theorem after_append (registry : Registry) (early late : List Change) :
    registry.after (early ++ late) = (registry.after early).after late :=
  List.foldl_append

theorem get?_extensions_after (extension : String) (changes : List Change) : ∀ registry : Registry,
    (registry.after changes).extensions.get? extension =
      (lastFor? extension (registry.routes changes)).or (registry.extensions.get? extension) := by
  induction changes with
  | nil => exact fun _ => rfl
  | cons change rest ih =>
      intro registry
      show ((registry.change change).2.after rest).extensions.get? extension = _
      rw [ih, routes]
      rcases registry.change_cases change with ⟨failure, failed⟩ | ⟨next, made, routed⟩
      · rw [failed]
      · -- Where the later changes route nothing, the first one does, or else what was there before.
        rw [made, routed, lastFor?_append, Option.or_assoc]

theorem increasing_extensionsFor (registry : Registry) (name : String) :
    (registry.extensionsFor name).Pairwise (· < ·) :=
  List.pairwise_map.mpr (registry.extensions.increasing.filter _)

theorem mem_extensionsFor_iff {registry : Registry} {name extension : String} :
    extension ∈ registry.extensionsFor name ↔
      registry.extensions.get? extension = some (registry.canonicalName name) := by
  rw [extensionsFor, List.mem_map, ← Dictionary.mem_entries_iff]
  constructor
  · rintro ⟨⟨other, language⟩, member, rfl⟩
    obtain ⟨routed, same⟩ := List.mem_filter.mp member
    rw [← of_decide_eq_true same]
    exact routed
  · intro routed
    exact ⟨_, List.mem_filter.mpr ⟨routed, decide_eq_true rfl⟩, rfl⟩

theorem after_register {tables : List LanguageTable} : ∀ {registry result : Registry},
    tables.foldlM register registry = .ok result → registry.after (tables.map .register) = result := by
  induction tables with
  | nil =>
      intro registry result registered
      exact Except.ok.inj registered
  | cons table rest ih =>
      intro registry result registered
      rw [List.foldlM_cons] at registered
      obtain ⟨next, here, later⟩ := bind_eq_ok_iff.mp registered
      rw [← ih later]
      show ((registry.change (.register table)).2).after _ = _
      rw [change_register, here]

end Registry

/-- The registry before any table is registered. -/
def Shipped.bareRegistry : Registry where
  generic := generic.language

theorem Shipped.registry_eq_after : bareRegistry.after (tables.map .register) = registry :=
  Registry.after_register
    (Registry.foldlM_register (List.forall_mem_cons.mp templates_slotted).2 bareRegistry)

/-- Whatever changes have been made to the shipped registry, a further registration that fails leaves it as it is.
The language of a path is the one to which its extension, in lower case, was routed last, by the shipped tables
or by a change that was made since; and the extensions listed for a language, in increasing order, are those
that were routed last to its canonical name. -/
theorem Shipped.routed_by_history (changes : List Registry.Change) :
    let registry := Shipped.registry.after changes
    let routes := bareRegistry.routes (tables.map .register ++ changes)
    (∀ table failure, (registry.change (.register table)).1 = .error failure →
      (registry.change (.register table)).2 = registry) ∧
    (∀ path : Path, registry.languageOf? path =
      path.extension?.bind fun extension => lastFor? (lowercase extension) routes) ∧
    ∀ name, (registry.extensionsFor name).Pairwise (· < ·) ∧
      ∀ extension, extension ∈ registry.extensionsFor name ↔
        lastFor? extension routes = some (registry.canonicalName name) := by
  intro registry routes
  have routed (extension : String) : registry.extensions.get? extension = lastFor? extension routes := by
    have none : bareRegistry.extensions.get? extension = Option.none := rfl
    have whole := Registry.get?_extensions_after extension (tables.map .register ++ changes) bareRegistry
    rw [Registry.after_append, registry_eq_after, none, Option.or_none] at whole
    exact whole
  refine ⟨fun table failure failed => ?_, fun path => ?_, fun name => ⟨?_, fun extension => ?_⟩⟩
  · rcases registry.change_cases (.register table) with ⟨_, same⟩ | ⟨_, made, _⟩
    · rw [same]
    · rw [made] at failed
      contradiction
  · simp only [← routed]
    rfl
  · exact registry.increasing_extensionsFor name
  · rw [← routed]
    exact Registry.mem_extensionsFor_iff

/-! ### An extension that is routed twice -/

namespace Rerouted

/-- A table whose rule has a group that is never closed. -/
def broken : LanguageTable where
  name := "broken"
  extensions := ["kt"]
  declarations := [Shipped.declares "("]

def kotlin : LanguageTable where
  name := "Kotlin"
  aliases := ["KT"]
  extensions := ["Kt", "kts"]

/-- The extension is routed to a name without a table, then not to a table that cannot be read, and at last to
one that can. -/
def changes : List Registry.Change :=
  [.map "..KT" " KotLin ", .register broken, .register kotlin, .map "py" "kt"]

def registry : Registry :=
  Shipped.registry.after changes

theorem broken_fails : (registry.change (.register broken)).1.toOption.isNone = true := by
  decide +kernel

theorem canonicalName_eq : registry.canonicalName "kT" = "Kotlin" := by
  decide +kernel

theorem languageOf_eq : registry.languageOf? ⟨"src/Main.old.KT"⟩ = some "Kotlin" := by
  decide +kernel

theorem mem_extensionsFor : "py" ∈ registry.extensionsFor "kT" := by
  decide +kernel

/-- The table that cannot be read leaves no trace. The first extension is routed to the table registered last, and
the other to the canonical name of that. -/
theorem routes_followed :
    (∃ failure, (registry.change (.register broken)).1 = .error failure ∧
      (registry.change (.register broken)).2 = registry) ∧
    lastFor? "kt" (Shipped.bareRegistry.routes (Shipped.tables.map .register ++ changes)) = some "Kotlin" ∧
    lastFor? "py" (Shipped.bareRegistry.routes (Shipped.tables.map .register ++ changes)) = some "Kotlin" ∧
    (registry.extensionsFor "kT").Pairwise (· < ·) := by
  obtain ⟨fails, classified, listed⟩ := Shipped.routed_by_history changes
  obtain ⟨ordered, listed⟩ := listed "kT"
  refine ⟨?_, ?_, ?_, ordered⟩
  · cases failed : (registry.change (.register broken)).1 with
    | error failure => exact ⟨failure, rfl, fails broken failure failed⟩
    | ok done =>
        have none := broken_fails
        rw [failed] at none
        contradiction
  · have ends : (⟨"src/Main.old.KT"⟩ : Path).extension? = some "KT" := by decide +kernel
    have lowered : lowercase "KT" = "kt" := by decide +kernel
    have routed := (classified ⟨"src/Main.old.KT"⟩).symm.trans languageOf_eq
    rw [ends, Option.bind_some, lowered] at routed
    exact routed
  · exact ((listed "py").mp mem_extensionsFor).trans (congrArg some canonicalName_eq)

end Rerouted

end Callsite

import Callsite.Dictionary
import Callsite.Language.Shipped
import Callsite.Path

set_option autoImplicit false

/-! The registry of languages: tables under their names, other names for them, and the languages that
file extensions stand for. A language without a table is searched with the generic one. -/

namespace Callsite

open Text

structure Registry where
  languages : Dictionary Language := {}
  /-- The names that aliases stand for, under the alias in lower case. -/
  aliases : Dictionary String := {}
  extensions : Dictionary String := {}
  generic : Language
  deriving DecidableEq, Repr

namespace Registry

def add (registry : Registry) (language : Language) : Registry :=
  let table := language.table
  { registry with
    languages := registry.languages.put table.name language
    aliases := table.aliases.foldl (fun aliases name => aliases.put (lowercase name) table.name)
      registry.aliases
    extensions := table.extensions.foldl
      (fun extensions name => extensions.put (lowercase name) table.name) registry.extensions }

def register (registry : Registry) (table : LanguageTable) : Except PatternFault Registry := do
  .ok (registry.add (← Language.ofTable table))

def shipped? : Except PatternFault Registry := do
  Shipped.tables.foldlM register { generic := ← Language.ofTable Shipped.generic }

/-- The name under which a language is known: its own, that of an alias, or the given one in lower
case. -/
def canonicalName (registry : Registry) (name : String) : String :=
  let lowered := lowercase (trim name)
  if registry.languages.contains lowered then lowered
  else (registry.aliases.get? lowered).getD lowered

def isRegistered (registry : Registry) (name : String) : Bool :=
  registry.languages.contains (registry.canonicalName name)

def language (registry : Registry) (name : String) : Language :=
  (registry.languages.get? (registry.canonicalName name)).getD registry.generic

/-- Lets `extension`, written with or without leading dots, stand for a language. The language need
not have a table. -/
def mapExtension (registry : Registry) (extension name : String) : Registry :=
  let bare := String.ofList (extension.toList.dropWhile (· = '.'))
  { registry with
    extensions := registry.extensions.put (lowercase bare) (registry.canonicalName name) }

def languageOf? (registry : Registry) (path : Path) : Option String := do
  registry.extensions.get? (lowercase (← path.extension?))

/-- The rules of a language, declarations first, for one name or for any. -/
def rules (registry : Registry) (name : String) (target : Option String) :
    Except PatternFault (List Rule) :=
  let language := registry.language name
  match target with
  | some target => do
      let rules ← language.rulesFor target
      .ok (rules.declarations ++ rules.calls)
  | none => .ok (language.functionOpeners ++ language.callRules)

def extensionsFor (registry : Registry) (name : String) : List String :=
  let canonical := registry.canonicalName name
  (registry.extensions.entries.filter fun (_, language) => language = canonical).map Prod.fst

end Registry

/-- The languages that a search admits, by canonical name in increasing order; with none named, all. -/
structure LanguageFilter where
  names : List String := []
  deriving DecidableEq, Repr

namespace LanguageFilter

def any : LanguageFilter :=
  {}

/-- The filter for names as a user gives them. Blank names do not count. -/
def ofNames (registry : Registry) (names : List String) : LanguageFilter :=
  let named := names.filter (!isBlankText ·)
  ⟨(Dictionary.ofList (named.map fun name => (registry.canonicalName name, ()))).keys⟩

def isAny (filter : LanguageFilter) : Bool :=
  filter.names.isEmpty

def allows (filter : LanguageFilter) (language : String) : Bool :=
  filter.isAny || language ∈ filter.names

end LanguageFilter

end Callsite

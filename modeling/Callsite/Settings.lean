import Callsite.Dictionary
import Callsite.Json.Basic

set_option autoImplicit false

/-! Settings: the bounds of a trace that requests leave open, and what belongs to the corpus. A record of
settings may leave out any field, which then has its default. -/

namespace Callsite

structure NavigationSettings where
  maxDepth : Nat := 5
  timeoutMs : Nat := 30000
  bodyScanLimit : Nat := 50
  includeExternal : Bool := false
  deriving DecidableEq, Repr

structure CorpusSettings where
  /-- Patterns of files and folders to leave out, anchored at the search root. -/
  ignorePatterns : List String :=
    ["target/", "node_modules/", ".git/", "dist/", "build/", "*.min.js"]
  respectGitignore : Bool := true
  includeHidden : Bool := false
  /-- The size in bytes above which a file is left out. -/
  maxFileSize : Nat := 1048576
  fileExtensions : Dictionary String := {}
  deriving DecidableEq, Repr

structure Settings where
  navigation : NavigationSettings := {}
  corpus : CorpusSettings := {}
  deriving DecidableEq, Repr

namespace NavigationSettings

def fieldNames : List String :=
  ["max_depth", "timeout_ms", "body_scan_limit", "include_external"]

def ofFields? (fields : Fields) : Option NavigationSettings := do
  let default : NavigationSettings := {}
  some {
    maxDepth := ← fields.getOr "max_depth" default.maxDepth Json.natural?
    timeoutMs := ← fields.getOr "timeout_ms" default.timeoutMs Json.natural?
    bodyScanLimit := ← fields.getOr "body_scan_limit" default.bodyScanLimit Json.natural?
    includeExternal := ← fields.getOr "include_external" default.includeExternal Json.bool? }

def toJson (settings : NavigationSettings) : Json :=
  .object [
    ("max_depth", .natural settings.maxDepth),
    ("timeout_ms", .natural settings.timeoutMs),
    ("body_scan_limit", .natural settings.bodyScanLimit),
    ("include_external", .bool settings.includeExternal)]

end NavigationSettings

namespace CorpusSettings

def fieldNames : List String :=
  ["ignore_patterns", "respect_gitignore", "include_hidden", "max_file_size", "file_extensions"]

def extensions? : Json → Option (Dictionary String)
  | .object entries => do
      let entries ← entries.mapM fun (name, value) => do some (name, ← value.string?)
      some (Dictionary.ofList entries)
  | _ => none

def ofFields? (fields : Fields) : Option CorpusSettings := do
  let default : CorpusSettings := {}
  some {
    ignorePatterns := ← fields.getOr "ignore_patterns" default.ignorePatterns Json.strings?
    respectGitignore := ← fields.getOr "respect_gitignore" default.respectGitignore Json.bool?
    includeHidden := ← fields.getOr "include_hidden" default.includeHidden Json.bool?
    maxFileSize := ← fields.getOr "max_file_size" default.maxFileSize Json.natural?
    fileExtensions := ← fields.getOr "file_extensions" default.fileExtensions extensions? }

def toJson (settings : CorpusSettings) : Json :=
  .object [
    ("ignore_patterns", .ofStrings settings.ignorePatterns),
    ("respect_gitignore", .bool settings.respectGitignore),
    ("include_hidden", .bool settings.includeHidden),
    ("max_file_size", .natural settings.maxFileSize),
    ("file_extensions",
      .object (settings.fileExtensions.entries.map fun (name, language) => (name, .string language)))]

end CorpusSettings

namespace Settings

def fieldNames : List String :=
  ["navigation", "corpus"]

/-- Reads settings, `record` being the rule by which a value stands for a record with the given
fields. -/
def read? (record : List String → Json → Option Fields) (json : Json) : Option Settings := do
  let fields ← record fieldNames json
  let default : Settings := {}
  some {
    navigation := ← fields.getOr "navigation" default.navigation fun value => do
      NavigationSettings.ofFields? (← record NavigationSettings.fieldNames value)
    corpus := ← fields.getOr "corpus" default.corpus fun value => do
      CorpusSettings.ofFields? (← record CorpusSettings.fieldNames value) }

def ofJson? (json : Json) : Option Settings :=
  read? Json.record? json

def toJson (settings : Settings) : Json :=
  .object [("navigation", settings.navigation.toJson), ("corpus", settings.corpus.toJson)]

end Settings

end Callsite

import Callsite.Settings
import Callsite.Toml.Printer

set_option autoImplicit false

/-! The text of a settings file: a TOML document with a table for each part of the settings. -/

namespace Callsite

namespace Json

/-- The fields of a record by name. Items of an array beyond the fields do not matter. -/
def leadingRecord? (names : List String) : Json → Option (List (String × Json))
  | object entries => some entries
  | array items => some (names.zip items)
  | _ => none

end Json

namespace Settings

open Toml in
/-- The text that describes the settings, if all their numbers can be written. -/
def render? (settings : Settings) : Option String := do
  let navigation := settings.navigation
  let corpus := settings.corpus
  some <| String.ofList <|
    writeHeader "navigation" ++
    writeEntry "max_depth" (← writeNatural? navigation.maxDepth) ++
    writeEntry "timeout_ms" (← writeNatural? navigation.timeoutMs) ++
    writeEntry "body_scan_limit" (← writeNatural? navigation.bodyScanLimit) ++
    writeEntry "include_external" (writeBool navigation.includeExternal) ++
    '\n' :: writeHeader "corpus" ++
    writeEntry "ignore_patterns" (writeStrings corpus.ignorePatterns) ++
    writeEntry "respect_gitignore" (writeBool corpus.respectGitignore) ++
    writeEntry "include_hidden" (writeBool corpus.includeHidden) ++
    writeEntry "max_file_size" (← writeNatural? corpus.maxFileSize) ++
    '\n' :: writeHeader "corpus.file_extensions" ++
    corpus.fileExtensions.entries.flatMap fun (name, language) =>
      writeEntry name (writeString language)

def parse? (text : String) : Option Settings := do
  read? Json.leadingRecord? (.object (Toml.entriesToJson (← Toml.parse? text)))

end Settings

end Callsite

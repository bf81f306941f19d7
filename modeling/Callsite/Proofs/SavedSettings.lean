import Callsite.Proofs.Toml.Documents
import Callsite.Proofs.WrittenFiles
import Callsite.SettingsStore
import Mathlib.Algebra.Group.Nat.Defs

set_option autoImplicit false

/-! Saved settings. What is written of settings is read as these settings again. Settings without a text, those
with a number that is too large, are refused before anything is written. -/

namespace Callsite

namespace Settings

open Toml

variable (settings : Settings)

/-! ### The document -/

def navigationEntries : Entries :=
  [("max_depth", .integer settings.navigation.maxDepth),
   ("timeout_ms", .integer settings.navigation.timeoutMs),
   ("body_scan_limit", .integer settings.navigation.bodyScanLimit),
   ("include_external", .bool settings.navigation.includeExternal)]

def corpusEntries : Entries :=
  [("ignore_patterns", .array (settings.corpus.ignorePatterns.map string)),
   ("respect_gitignore", .bool settings.corpus.respectGitignore),
   ("include_hidden", .bool settings.corpus.includeHidden),
   ("max_file_size", .integer settings.corpus.maxFileSize)]

def extensionEntries : Entries :=
  settings.corpus.fileExtensions.entries.map fun (name, language) => (name, .string language)

def document : Entries :=
  [("navigation", .table .header settings.navigationEntries),
   ("corpus", .table .header
     (settings.corpusEntries ++ [("file_extensions", .table .header settings.extensionEntries)]))]

def statements : List Statement :=
  .table [] "navigation" :: (bindings settings.navigationEntries ++
    .table [] "corpus" :: (bindings settings.corpusEntries ++
      .table ["corpus"] "file_extensions" :: (bindings settings.extensionEntries ++ [])))

theorem nodup_extensionEntries : (settings.extensionEntries.map Prod.fst).Nodup := by
  have names : settings.extensionEntries.map Prod.fst = settings.corpus.fileExtensions.keys := by
    rw [extensionEntries, List.map_map]
    rfl
  rw [names]
  exact settings.corpus.fileExtensions.nodup_keys

theorem hosts_navigation : Hosts ["navigation"] fun inner => [("navigation", .table .header inner)] := by
  intro change inner
  cases changed : change inner <;> simp [within, update, changed]

theorem hosts_corpus : Hosts ["corpus"] fun inner =>
    [("navigation", .table .header settings.navigationEntries), ("corpus", .table .header inner)] := by
  intro change inner
  cases changed : change inner <;> simp [within, update, changed]

theorem hosts_extensions : Hosts ["corpus", "file_extensions"] fun inner =>
    [("navigation", .table .header settings.navigationEntries),
     ("corpus", .table .header (settings.corpusEntries ++ [("file_extensions", .table .header inner)]))] := by
  intro change inner
  cases changed : change inner <;> simp [within, update, changed, corpusEntries]

theorem assemble?_statements : assemble? [] settings.statements [] = some settings.document := by
  have navigation : ["max_depth", "timeout_ms", "body_scan_limit", "include_external"].Nodup := by decide
  have corpus : ["ignore_patterns", "respect_gitignore", "include_hidden", "max_file_size"].Nodup := by decide
  rw [statements]
  calc
    _ = assemble? ["navigation"] (bindings settings.navigationEntries ++ _)
          [("navigation", .table .header [])] := rfl
    _ = assemble? ["navigation"] (.table [] "corpus" :: _)
          [("navigation", .table .header settings.navigationEntries)] :=
        assemble?_table hosts_navigation settings.navigationEntries navigation _
    _ = assemble? ["corpus"] (bindings settings.corpusEntries ++ _)
          [("navigation", .table .header settings.navigationEntries), ("corpus", .table .header [])] := rfl
    _ = assemble? ["corpus"] (.table ["corpus"] "file_extensions" :: _)
          [("navigation", .table .header settings.navigationEntries),
           ("corpus", .table .header settings.corpusEntries)] :=
        assemble?_table settings.hosts_corpus settings.corpusEntries corpus _
    _ = assemble? ["corpus", "file_extensions"] (bindings settings.extensionEntries ++ [])
          [("navigation", .table .header settings.navigationEntries),
           ("corpus", .table .header
             (settings.corpusEntries ++ [("file_extensions", .table .header [])]))] := rfl
    _ = assemble? ["corpus", "file_extensions"] [] settings.document :=
        assemble?_table settings.hosts_extensions _ settings.nodup_extensionEntries _
    _ = some settings.document := rfl

theorem strings?_itemsToJson (texts : List String) :
    (Json.array (itemsToJson (texts.map string))).strings? = some texts := by
  induction texts with
  | nil => rfl
  | cons text texts ih =>
      rw [Json.strings?] at ih ⊢
      rw [List.map_cons, itemsToJson, List.mapM_cons, ih]
      rfl

theorem mapM_entriesToJson {write : String × String → String × Toml}
    {read : String × Json → Option (String × String)}
    (back : ∀ entry, read ((write entry).1, (write entry).2.toJson) = some entry)
    (entries : List (String × String)) : (entriesToJson (entries.map write)).mapM read = some entries := by
  induction entries with
  | nil => rfl
  | cons entry entries ih =>
      rw [List.map_cons, entriesToJson, List.mapM_cons, back, ih]
      rfl

theorem extensions?_entriesToJson :
    CorpusSettings.extensions? (.object (entriesToJson settings.extensionEntries)) =
      some settings.corpus.fileExtensions := by
  rw [CorpusSettings.extensions?, extensionEntries, mapM_entriesToJson fun _ => rfl, Option.bind_eq_bind,
    Option.bind_some, Dictionary.ofList_entries]

def NumbersUpTo (bound : Nat) : Prop :=
  settings.navigation.maxDepth ≤ bound ∧ settings.navigation.timeoutMs ≤ bound ∧
    settings.navigation.bodyScanLimit ≤ bound ∧ settings.corpus.maxFileSize ≤ bound

/-- Settings have a text exactly if a file can hold all their numbers. -/
theorem isSome_render?_iff : settings.render?.isSome = true ↔ settings.NumbersUpTo (2 ^ 63 - 1) := by
  have bound (value : Nat) : value < integerBound ↔ value ≤ 2 ^ 63 - 1 := by
    show value < 2 ^ 63 ↔ _
    omega
  simp only [Option.isSome_iff_exists, render?, Option.bind_eq_bind, Option.bind_eq_some_iff,
    writeNatural?_eq_some_iff, bound, NumbersUpTo, Option.some.injEq]
  simp

theorem natural?_of_le {value : Nat} (fits : value ≤ 2 ^ 63 - 1) :
    (integer value).toJson.natural? = some value :=
  Json.natural?_natural (Nat.lt_of_le_of_lt fits (by decide))

theorem ofFields?_navigationEntries (fits : settings.NumbersUpTo (2 ^ 63 - 1)) :
    NavigationSettings.ofFields? (entriesToJson settings.navigationEntries) = some settings.navigation := by
  obtain ⟨depth, timeout, limit, _⟩ := fits
  simp only [NavigationSettings.ofFields?, navigationEntries, entriesToJson, Fields.getOr, List.lookup_cons,
    String.reduceBEq, natural?_of_le depth, natural?_of_le timeout, natural?_of_le limit]
  rfl

theorem ofFields?_corpusEntries (fits : settings.NumbersUpTo (2 ^ 63 - 1)) :
    CorpusSettings.ofFields? (entriesToJson
        (settings.corpusEntries ++ [("file_extensions", .table .header settings.extensionEntries)])) =
      some settings.corpus := by
  obtain ⟨_, _, _, size⟩ := fits
  have patterns := strings?_itemsToJson settings.corpus.ignorePatterns
  have extensions := settings.extensions?_entriesToJson
  simp only [CorpusSettings.ofFields?, corpusEntries, List.cons_append, List.nil_append, entriesToJson,
    Fields.getOr, List.lookup_cons, String.reduceBEq, natural?_of_le size]
  simp only [Toml.toJson, patterns, extensions]
  rfl

theorem read?_document (fits : settings.NumbersUpTo (2 ^ 63 - 1)) :
    read? Json.leadingRecord? (.object (entriesToJson settings.document)) = some settings := by
  have navigation := settings.ofFields?_navigationEntries fits
  have corpus := settings.ofFields?_corpusEntries fits
  simp only [read?, document, Json.leadingRecord?, entriesToJson, Toml.toJson, Fields.getOr, List.lookup_cons,
    String.reduceBEq, Option.bind_eq_bind, Option.bind_some, navigation, corpus]

/-! ### The text -/

theorem reads_extensions :
    Reads (settings.corpus.fileExtensions.entries.flatMap fun (name, language) =>
      writeEntry name (writeString language)) (bindings settings.extensionEntries ++ []) := by
  have isLine (entry : String × String) : IsLine (writeEntry entry.1 (writeString entry.2))
      (.entry [] entry.1 (.string entry.2)) := isLine_entry entry.1 (writes_string entry.2)
  rw [List.append_nil, bindings, extensionEntries, List.map_map]
  exact reads_lines isLine _

variable {settings} {text : String}

theorem reads_render (rendered : settings.render? = some text) :
    (∃ more, text.toList = '[' :: more) ∧ Reads text.toList settings.statements := by
  simp only [render?, Option.bind_eq_bind, Option.bind_eq_some_iff] at rendered
  obtain ⟨_, depth, _, timeout, _, limit, _, size, rendered⟩ := rendered
  rw [← Option.some.inj rendered, String.toList_ofList]
  refine ⟨⟨_, rfl⟩, ?_⟩
  simp only [List.append_assoc, List.cons_append]
  refine reads_line (isLine_header fun _ => rfl) <|
    reads_line (isLine_entry _ (writes_natural depth)) <|
    reads_line (isLine_entry _ (writes_natural timeout)) <|
    reads_line (isLine_entry _ (writes_natural limit)) <|
    reads_line (isLine_entry _ (writes_bool _)) <| reads_break <|
    reads_line (isLine_header fun _ => rfl) <|
    reads_line (isLine_entry _ (writes_strings _)) <|
    reads_line (isLine_entry _ (writes_bool _)) <|
    reads_line (isLine_entry _ (writes_bool _)) <|
    reads_line (isLine_entry _ (writes_natural size)) <| reads_break <|
    reads_line (isLine_header fun _ => rfl) <| settings.reads_extensions

theorem parse?_render (rendered : settings.render? = some text) : parse? text = some settings := by
  have fits := settings.isSome_render?_iff.mp (Option.isSome_of_eq_some rendered)
  have document : Toml.parse? text = some settings.document := by
    obtain ⟨⟨more, begins⟩, read⟩ := reads_render rendered
    have statements := read _ (Nat.lt_succ_self _)
    rw [begins] at statements
    rw [Toml.parse?, begins]
    change (do assemble? [] (← statements? (('[' :: more).length + 1) ('[' :: more)) []) = _
    rw [statements]
    exact settings.assemble?_statements
  rw [parse?, document]
  exact settings.read?_document fits

/-! ### Saving and loading -/

theorem outcome_write (settings : Settings) (disk : Disk) (path : Path) :
    outcome (settings.write path) disk =
      match settings.render? with
      | some text => outcome (Disk.write path text) disk
      | none => (.error (.settings .numberTooLarge), disk) := by
  rw [write]
  cases settings.render? <;> rfl

variable (settings)

/-- Settings whose numbers a file can hold are written under any path that can be written, and load from there
as they were. With a larger number the attempt fails, and leaves the whole disk as it is. -/
theorem loads_as_saved_or_refused (disk : Disk) (path : Path) (depth : 1 ≤ settings.navigation.maxDepth)
    (limit : 1 ≤ settings.navigation.bodyScanLimit) :
    (settings.NumbersUpTo (2 ^ 63 - 1) → (disk.target? path).isSome →
        ∃ saved, outcome (settings.write path) disk = (.ok ⟨⟩, saved) ∧ load saved path = .ok settings) ∧
      (¬settings.NumbersUpTo (2 ^ 63 - 1) →
        ∃ fault, outcome (settings.write path) disk = (.error (.settings fault), disk)) := by
  rw [← isSome_render?_iff, outcome_write]
  constructor
  · intro fits target
    obtain ⟨text, rendered⟩ := Option.isSome_iff_exists.mp fits
    obtain ⟨saved, wrote⟩ := Disk.exists_write target text
    rw [rendered]
    refine ⟨saved, wrote, ?_⟩
    rw [load, Disk.read?_of_write wrote]
    dsimp only
    rw [parse?_render rendered]
    dsimp only
    rw [checked, if_neg (Nat.ne_of_gt depth), if_neg (Nat.ne_of_gt limit)]
  · intro large
    rw [Option.not_isSome_iff_eq_none] at large
    rw [large]
    exact ⟨_, rfl⟩

end Settings

namespace Notebook

/-- Settings whose texts need every way of quoting. -/
def settings : Settings where
  navigation := { maxDepth := 2 ^ 63 - 1, timeoutMs := 0 }
  corpus := {
    ignorePatterns := ["", "it's", "a\\b", "\"\"\"", "one\ntwo\\", "\x7f\r\n", "ü\u2028"]
    fileExtensions :=
      ⟨[("", "'\""), ("a\nb", "\\"), ("a b", "\"\"x\""), ("kt", "kotlin"), ("ß", "")], by decide⟩ }

/-- The same settings with a number that is too large by one. -/
def largerSettings : Settings :=
  { settings with corpus := { settings.corpus with maxFileSize := 2 ^ 63 } }

def disk : Disk where
  home := ⟨"/home"⟩
  top := .folder [("notes", .folder [("codetrail.toml", .file (.text "old"))])]

def path : Path :=
  ⟨"notes/./codetrail.toml"⟩

theorem loads_as_saved_and_refused :
    (∃ saved, outcome (settings.write path) disk = (.ok ⟨⟩, saved) ∧
        Settings.load saved path = .ok settings) ∧
      ∃ fault, outcome (largerSettings.write path) disk = (.error (.settings fault), disk) := by
  have fits : settings.NumbersUpTo (2 ^ 63 - 1) := by
    unfold Settings.NumbersUpTo
    decide
  have large : ¬largerSettings.NumbersUpTo (2 ^ 63 - 1) := by
    unfold Settings.NumbersUpTo
    decide
  have loads := (settings.loads_as_saved_or_refused disk path (by decide) (by decide)).1 fits (by decide)
  have refused := (largerSettings.loads_as_saved_or_refused disk path (by decide) (by decide)).2 large
  exact ⟨loads, refused⟩

end Notebook

end Callsite

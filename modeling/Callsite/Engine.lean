import Callsite.DiskCorpus
import Callsite.Report
import Callsite.SettingsStore
import Callsite.Trace

set_option autoImplicit false

/-! The engine: answers requests for navigation over a corpus. Requests are independent of one another;
each has a session of its own. -/

namespace Callsite

open Text

structure Engine where
  settings : Settings
  registry : Registry
  corpus : Corpus
  has : Path → Bool

namespace Registry

def withExtensions (registry : Registry) (extensions : Dictionary String) : Registry :=
  extensions.entries.foldl (fun registry (name, language) => registry.mapExtension name language)
    registry

def summaries (registry : Registry) : List LanguageSummary :=
  registry.languages.entries.map fun (_, language) => {
    language := language.name
    aliases := language.table.aliases
    extensions := registry.extensionsFor language.name
    blockStyle := language.table.blockStyle.label }

end Registry

namespace Engine

/-- The engine over the files of a disk; `shipped` is the registry without the extensions of the
settings. -/
def onDisk (settings : Settings) (shipped : Registry) (disk : Disk) : Engine :=
  let registry := shipped.withExtensions settings.corpus.fileExtensions
  { settings, registry, corpus := disk.corpus settings.corpus registry, has := disk.has }

def checkedName (name : String) : Except Failure String :=
  if isBlankText name then .error (.invalidRequest .blankName) else .ok (trim name)

def requirePath (engine : Engine) (path : Path) : Except Failure Unit :=
  if engine.has path then .ok () else .error (.invalidPath path)

def workspace (engine : Engine) (languages : List String) : Workspace where
  corpus := engine.corpus
  registry := engine.registry
  filter := .ofNames engine.registry languages

def traceOptions (engine : Engine) (request : TraceRequest) : Except Failure TraceOptions :=
  let navigation := engine.settings.navigation
  let maxDepth := request.maxDepth.getD navigation.maxDepth
  if maxDepth = 0 then .error (.invalidRequest .zeroDepth)
  else .ok {
    direction := request.direction.getD .both
    maxDepth := maxDepth
    timeoutMs := request.timeoutMs.getD navigation.timeoutMs
    includeExternal := request.includeExternal.getD navigation.includeExternal
    bodyScanLimit := navigation.bodyScanLimit }

def trace (engine : Engine) (now : Timestamp) (request : TraceRequest) :
    Except Failure TraceReport := do
  let name ← checkedName request.functionName
  engine.requirePath request.path
  let options ← engine.traceOptions request
  let workspace := engine.workspace request.languages
  let output ← ((workspace.trace options request.path name).run.run {}).1
  .ok {
    functionName := name
    searchPath := request.path
    direction := options.direction
    maxDepth := options.maxDepth
    totalNodes := output.root.elim 0 CallNode.size
    timestamp := now
    elapsedMs := 0
    truncated := output.truncated
    root := output.root }

def find (engine : Engine) (now : Timestamp) (request : FindRequest) : Except Failure FindReport := do
  let name ← checkedName request.functionName
  engine.requirePath request.path
  let workspace := engine.workspace request.languages
  let definition ← ((workspace.definition? name request.path).run.run {}).1
  .ok { functionName := name, searchPath := request.path, timestamp := now, definition := definition }

/-- The language of a file: the one asked for, that of the extension, or the generic one. -/
def languageFor (engine : Engine) (request : ScopeRequest) : String :=
  match request.language with
  | some name => engine.registry.canonicalName name
  | none => (engine.registry.languageOf? request.file).getD "generic"

def scope (engine : Engine) (request : ScopeRequest) : Except Failure ScopeReport := do
  if request.line = 0 then .error (.invalidRequest .zeroLine)
  engine.requirePath request.file
  match engine.corpus.read? request.file with
  | none => .error (.unreadable request.file)
  | some content =>
      let lines := lines content
      if lines.length < request.line then
        .error (.invalidRequest (.linePastEnd request.line request.file lines.length))
      let name := engine.languageFor request
      let language := engine.registry.language name
      let index := request.line - 1
      .ok {
        file := request.file
        line := request.line
        language := name
        function := language.enclosingFunction? lines index none
        type := language.enclosingType? lines index
        scope := language.enclosingScope? lines index }

def settingsFileName : String :=
  "codetrail.toml"

/-- Writes the settings to a file in a folder, the home folder if none is given. Without `force`, nothing
may be there yet. -/
def init (settings : Settings) (disk : Disk) (folder : Option Path) (force : Bool) :
    Except Failure (Path × Disk) := do
  let folder := folder.getD disk.home
  if !disk.hasFolder folder then .error (.invalidPath folder)
  let path := folder.join settingsFileName
  if disk.has path && !force then .error (.settings (.alreadyExists path))
  .ok (path, ← settings.save disk path)

end Engine

end Callsite

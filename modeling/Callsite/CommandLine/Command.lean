import Callsite.CommandLine.Form
import Callsite.Request

set_option autoImplicit false

/-! The commands of the program and the options before them, as read from the words of a command
line. -/

namespace Callsite.CommandLine

inductive Command where
  | trace (request : TraceRequest)
  | find (request : FindRequest)
  | scope (request : ScopeRequest)
  | languages
  | init (folder : Option Path) (force : Bool)
  deriving DecidableEq, Repr

structure Preferences where
  config : Option Path := none
  verbose : Bool := false
  compact : Bool := false
  deriving DecidableEq, Repr

structure Invocation where
  preferences : Preferences
  command : Command
  deriving DecidableEq, Repr

/-! ### Values -/

def path (text : String) : Except UsageFault Path :=
  if text.isEmpty then .error .missingValue else .ok ⟨text⟩

/-- A number is written with digits, after a plus sign or none, and fits 64 bits. -/
def number (text : String) : Except UsageFault Nat :=
  let digits := match text.toList with
    | '+' :: rest => rest
    | chars => chars
  let value := digits.foldl (fun value c => 10 * value + (c.toNat - '0'.toNat)) 0
  if digits.isEmpty || !digits.all Char.isDigit || Json.numberBound ≤ value then
    .error .malformedValue
  else .ok value

def direction (text : String) : Except UsageFault Direction :=
  match Direction.parse text with
  | .ok direction => .ok direction
  | .error _ => .error .malformedValue

def anyText {α : Type} (set : String → α → α) : Store α :=
  fun text record => .ok (set text record)

def reading {α β : Type} (read : String → Except UsageFault β) (set : β → α → α) : Store α :=
  fun text record => do .ok (set (← read text) record)

/-! ### The commands -/

def help {α : Type} : Parameter α where
  letter := some 'h'
  name := "help"
  effect := .stop .helpWanted

def traceForm : Form TraceRequest where
  parameters := [
    { letter := some 'p', name := "path", effect := .value <|
        reading path fun path request => { request with path := path } },
    { letter := some 'd', name := "direction", effect := .value <|
        reading direction fun direction request => { request with direction := some direction } },
    { name := "depth", effect := .value <|
        reading number fun depth request => { request with maxDepth := some depth } },
    { letter := some 'l', name := "language", effect := .values <|
        anyText fun name request => { request with languages := request.languages ++ [name] } },
    { name := "include-external", effect := .switch
        fun request => { request with includeExternal := some true } },
    { name := "timeout-ms", effect := .value <|
        reading number fun budget request => { request with timeoutMs := some budget } },
    help]
  operands := [anyText fun name request => { request with functionName := name }]

def findForm : Form FindRequest where
  parameters := [
    { letter := some 'p', name := "path", effect := .value <|
        reading path fun path request => { request with path := path } },
    { letter := some 'l', name := "language", effect := .values <|
        anyText fun name request => { request with languages := request.languages ++ [name] } },
    help]
  operands := [anyText fun name request => { request with functionName := name }]

def scopeForm : Form ScopeRequest where
  parameters := [
    { name := "language", effect := .value <|
        anyText fun name request => { request with language := some name } },
    help]
  operands := [
    reading path fun file request => { request with file := file },
    reading number fun line request => { request with line := line }]

def languagesForm : Form Unit where
  parameters := [help]

def initForm : Form (Option Path × Bool) where
  parameters := [
    { letter := some 'p', name := "path", effect := .value <|
        reading path fun folder record => (some folder, record.2) },
    { name := "force", effect := .switch fun record => (record.1, true) },
    help]

def Command.names : List String :=
  ["trace", "find", "scope", "languages", "init"]

def Command.read (name : String) (words : List String) : Except UsageFault Command :=
  match name with
  | "trace" => do
      .ok (.trace (← traceForm.read { functionName := "", path := ⟨"."⟩ } words))
  | "find" => do
      .ok (.find (← findForm.read { functionName := "", path := ⟨"."⟩ } words))
  | "scope" => do
      .ok (.scope (← scopeForm.read { file := ⟨""⟩, line := 0 } words))
  | "languages" => do
      languagesForm.read () words
      .ok .languages
  | "init" => do
      let (folder, force) ← initForm.read (none, false) words
      .ok (.init folder force)
  | _ => .error .unknownCommand

def helpName : String :=
  "help"

def preferencesForm : Form Preferences where
  parameters := [
    { letter := some 'c', name := "config", effect := .value <|
        reading path fun path preferences => { preferences with config := some path } },
    { letter := some 'v', name := "verbose", effect := .switch
        fun preferences => { preferences with verbose := true } },
    { name := "compact", effect := .switch
        fun preferences => { preferences with compact := true } },
    help,
    { letter := some 'V', name := "version", effect := .stop .versionWanted }]
  commands := Command.names ++ [helpName]

def versionText : String :=
  "codetrail 0.1.0\n"

def helpText : String :=
  "Usage: codetrail [--config FILE] [--verbose] [--compact] COMMAND\n\n" ++
  "Commands:\n" ++
  "  trace FUNCTION [-p PATH] [-d DIRECTION] [--depth N] [-l LANGUAGE]... [--include-external]\n" ++
  "        [--timeout-ms N]    show what calls a function and what it calls\n" ++
  "  find FUNCTION [-p PATH] [-l LANGUAGE]...    find the definition of a function\n" ++
  "  scope FILE LINE [--language LANGUAGE]    show the function and the type around a line\n" ++
  "  languages    list the languages\n" ++
  "  init [-p FOLDER] [--force]    write the settings to a file\n" ++
  "  help    show this text\n"

def helpOn : List String → UsageFault
  | [] => .helpWanted
  | [name] => if preferencesForm.commands.contains name then .helpWanted else .unknownCommand
  | _ => .unknownCommand

/-- Reads a whole command line. A fault of the command counts before one of the last option before
it. -/
def Invocation.read (words : List String) : Except UsageFault Invocation := do
  let (reading, rest) ← Reading.takeWords preferencesForm (preferencesForm.start {}) words
  match rest with
  | some (name, words) =>
      if name = helpName then .error (helpOn words)
      let command ← Command.read name words
      .ok { preferences := (← reading.settle).record, command := command }
  | none =>
      let reading ← reading.settle
      .error (if reading.given.isEmpty then .nothingGiven else .missingCommand)

end Callsite.CommandLine

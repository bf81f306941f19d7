import Callsite.CommandLine.Command
import Callsite.Engine
import Callsite.Json.Printer

set_option autoImplicit false

/-! Running a command on a disk, and what it prints. -/

namespace Callsite.CommandLine

inductive Reply where
  | trace (report : TraceReport)
  | find (report : FindReport)
  | scope (report : ScopeReport)
  | languages (summaries : List LanguageSummary)
  | written (path : Path)
  deriving Repr

namespace Reply

def content : Reply → String ⊕ Json
  | trace report => .inr report.toJson
  | find report => .inr report.toJson
  | scope report => .inr report.toJson
  | languages summaries => .inr (.array (summaries.map LanguageSummary.toJson))
  | written path => .inl path.text

def printed (compact : Bool) (content : String ⊕ Json) : String :=
  match content with
  | .inl line => line ++ "\n"
  | .inr json => (if compact then json.compact else json.pretty) ++ "\n"

def render (compact : Bool) (reply : Reply) : String :=
  printed compact reply.content

def took (milliseconds : Nat) : Reply → Reply
  | trace report => trace { report with elapsedMs := milliseconds }
  | reply => reply

end Reply

/-- Runs a command. The disk comes back as the command leaves it. -/
def Command.run (settings : Settings) (shipped : Registry) (now : Timestamp) (disk : Disk)
    (command : Command) : Except Failure (Reply × Disk) := do
  let engine := Engine.onDisk settings shipped disk
  match command with
  | trace request => .ok (.trace (← engine.trace now request), disk)
  | find request => .ok (.find (← engine.find now request), disk)
  | scope request => .ok (.scope (← engine.scope request), disk)
  | languages => .ok (.languages engine.registry.summaries, disk)
  | init folder force =>
      let (path, disk) ← Engine.init settings disk folder force
      .ok (.written path, disk)

def Invocation.run (shipped : Registry) (now : Timestamp) (disk : Disk) (invocation : Invocation) :
    Except Failure (Reply × Disk) := do
  let settings ← Settings.find disk invocation.preferences.config
  invocation.command.run settings shipped now disk

end Callsite.CommandLine

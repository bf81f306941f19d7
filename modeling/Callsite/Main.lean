import Callsite.CommandLine.Run
import Std.Time.DateTime

set_option autoImplicit false

/-! The program. It takes a picture of the files below its working folder, runs the command on it, and
writes out the one file that a command may change. -/

namespace Callsite.Program

/-- A file as the picture holds it. One that cannot be read is as good as one that is no text. -/
def contentOf (bytes : ByteArray) : FileContent :=
  match String.fromUTF8? bytes with
  | some text => .text text
  | none => .bytes bytes.toList

mutual

/-- The entries of a folder. Links and devices are left out. -/
partial def entries (found : Array IO.FS.DirEntry) : IO (List (String × Entry)) := do
  let entries ← found.toList.filterMapM entry?
  return entries

partial def entry? (found : IO.FS.DirEntry) : IO (Option (String × Entry)) := do
  match (← found.path.symlinkMetadata).type with
  | .dir =>
      let inner ← try found.path.readDir catch _ => pure #[]
      return some (found.fileName, .folder (← entries inner))
  | .file =>
      let content ← try contentOf <$> IO.FS.readBinFile found.path catch _ => pure (.bytes [255])
      return some (found.fileName, .file content)
  | _ => return none

end

def disk : IO Disk := do
  let home ← IO.currentDir
  return { home := ⟨home.toString⟩, top := .folder (← entries (← home.readDir)) }

def now : IO Timestamp := do
  let time := (← Std.Time.Timestamp.now).toNanosecondsSinceUnixEpoch.val
  return ⟨time.fdiv 1000000000, (time.fmod 1000000000).toNat⟩

def complain (message : String) (status : UInt32) : IO UInt32 := do
  IO.eprintln ("Error: " ++ message)
  return status

open CommandLine in
def execute (shipped : Registry) (invocation : Invocation) : IO UInt32 := do
  let disk ← disk
  let now ← now
  let started ← IO.monoMsNow
  match invocation.run shipped now disk with
  | .error failure => complain failure.message 1
  | .ok (reply, changed) =>
      let ended ← IO.monoMsNow
      if let .written path := reply then
        IO.FS.writeFile path.text ((changed.read? path).getD "")
      IO.print ((reply.took (ended - started)).render invocation.preferences.compact)
      return 0

open CommandLine in
def start (words : List String) : IO UInt32 := do
  match Invocation.read words, Registry.shipped? with
  | .error .helpWanted, _ => IO.print helpText; return 0
  | .error .versionWanted, _ => IO.print versionText; return 0
  | .error fault, _ => complain (fault.message ++ "\n\n" ++ helpText) 2
  | .ok _, .error _ => complain "a shipped table does not compile" 1
  | .ok invocation, .ok shipped => execute shipped invocation

end Callsite.Program

def main (words : List String) : IO UInt32 :=
  Callsite.Program.start words

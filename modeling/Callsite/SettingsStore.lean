import Callsite.Disk
import Callsite.SettingsFile

set_option autoImplicit false

/-! Settings on a disk. A settings file is used only if its bounds make sense. Settings are put into text
before anything is written. -/

namespace Callsite.Settings

def fileNames : List String :=
  ["Codetrail.toml", "codetrail.toml", ".codetrail.toml"]

def checked (settings : Settings) : Except Failure Settings :=
  if settings.navigation.maxDepth = 0 then .error (.settings .zeroDepth)
  else if settings.navigation.bodyScanLimit = 0 then .error (.settings .zeroScanLimit)
  else .ok settings

def load (disk : Disk) (path : Path) : Except Failure Settings :=
  match disk.read? path with
  | none => .error (.unreadable path)
  | some text =>
      match parse? text with
      | none => .error (.settings .malformed)
      | some settings => settings.checked

/-- The settings of the given file, which has to be there, or of the first file under one of the usual
names, or the default. -/
def find (disk : Disk) : Option Path → Except Failure Settings
  | some path => if disk.has path then load disk path else .error (.settings (.notFound path))
  | none =>
      match (fileNames.map Path.mk).find? disk.has with
      | some path => load disk path
      | none => .ok {}

/-- Writes the settings to a file. They are put into text first. -/
def write (settings : Settings) (path : Path) : Writing PUnit := do
  match settings.render? with
  | some text => Disk.write path text
  | none => throw (.settings .numberTooLarge)

def save (settings : Settings) (disk : Disk) (path : Path) : Except Failure Disk :=
  match (settings.write path).run.run disk with
  | (.ok _, saved) => .ok saved
  | (.error failure, _) => .error failure

end Callsite.Settings

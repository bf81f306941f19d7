import Callsite.Path
import Callsite.Pattern.Escape

set_option autoImplicit false

/-! What can go wrong, by cause, and the wording of each cause. -/

namespace Callsite

inductive RequestFault where
  | blankName
  | zeroDepth
  | zeroLine
  | linePastEnd (line : Nat) (file : Path) (lineCount : Nat)
  deriving DecidableEq, Repr

def RequestFault.message : RequestFault → String
  | blankName => "function name must not be empty"
  | zeroDepth => "max_depth must be at least 1"
  | zeroLine => "line numbers start at 1"
  | linePastEnd line file count =>
      "line " ++ toString line ++ " is past the end of " ++ file.text ++ " (" ++ toString count ++
        " lines)"

inductive SettingsFault where
  | zeroDepth
  | zeroScanLimit
  | notFound (path : Path)
  | alreadyExists (path : Path)
  | ignorePattern (pattern : String)
  | malformed
  | numberTooLarge
  deriving DecidableEq, Repr

def SettingsFault.message : SettingsFault → String
  | zeroDepth => "navigation.max_depth must be at least 1"
  | zeroScanLimit => "navigation.body_scan_limit must be at least 1"
  | notFound path => "configuration file " ++ path.text ++ " not found"
  | alreadyExists path => path.text ++ " already exists (use --force to overwrite)"
  | ignorePattern pattern => "Invalid ignore pattern '" ++ pattern ++ "'"
  | malformed => "the text is not a configuration"
  | numberTooLarge => "a number is too large for a configuration file"

inductive Failure where
  | settings (fault : SettingsFault)
  | invalidPath (path : Path)
  | invalidRequest (fault : RequestFault)
  /-- A file cannot be read, is not text, or cannot be written. -/
  | unreadable (path : Path)
  | malformed
  | pattern (fault : PatternFault)
  | unlistable (root : Path)
  deriving DecidableEq, Repr

def Failure.message : Failure → String
  | settings fault => "Configuration error: " ++ fault.message
  | invalidPath path => "Invalid path: " ++ path.text ++ " does not exist or is not readable"
  | invalidRequest fault => "Invalid request: " ++ fault.message
  | unreadable path => "IO error: " ++ path.text
  | malformed => "Serialization error: unexpected value"
  | pattern _ => "Pattern error: not a pattern"
  | unlistable root => "File system error: cannot list " ++ root.text

end Callsite

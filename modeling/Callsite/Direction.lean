import Callsite.Text.Blank
import Callsite.Text.Case

set_option autoImplicit false

/-! The edges that a trace follows from a function: to its callers, to its callees, or both. -/

namespace Callsite

open Text

inductive Direction where
  | callers
  | callees
  | both
  deriving DecidableEq, Repr

namespace Direction

def label : Direction → String
  | callers => "callers"
  | callees => "callees"
  | both => "both"

def includesCallers : Direction → Bool
  | callers | both => true
  | callees => false

def includesCallees : Direction → Bool
  | callees | both => true
  | callers => false

def ofLabel? : String → Option Direction
  | "callers" => some callers
  | "callees" => some callees
  | "both" => some both
  | _ => none

/-- The direction as a user names it. An unknown name comes back in lower case. -/
def parse (text : String) : Except String Direction :=
  match lowercase (trim text) with
  | "callers" | "up" | "upstream" => .ok callers
  | "callees" | "down" | "downstream" => .ok callees
  | "both" => .ok both
  | other => .error other

def unknownMessage (name : String) : String :=
  "unknown direction '" ++ name ++ "' (expected callers, callees or both)"

end Direction

end Callsite

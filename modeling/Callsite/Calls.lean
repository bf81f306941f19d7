import Callsite.Language.Table

set_option autoImplicit false

/-! The calls made in a text: the names before opening parentheses, in the order of their first
appearance. -/

namespace Callsite

open Text

namespace Language

def callHits (language : Language) (line : String) : List Hit :=
  (language.callRules.flatMap (·.findAll line)).mergeSort fun left right =>
    left.start < right.start || (left.start = right.start && !(right.name < left.name))

/-- The names called on a line that is not a comment, keywords left out. -/
def callNames (language : Language) (line : String) : List String :=
  if language.isComment line then []
  else ((language.callHits line).map Hit.name).filter (!language.isKeyword ·)

/-- The names called in a text, each once. Library functions are left out unless asked for. -/
def callsIn (language : Language) (text : String) (withBuiltins : Bool) : List String :=
  (((lines text).flatMap language.callNames).filter fun name =>
    withBuiltins || !language.isBuiltin name).eraseDups

end Language

end Callsite

import Callsite.Pattern.CharSet

set_option autoImplicit false

/-! Sets of characters with names. Every set is found under each of its names. -/

namespace Callsite.Pattern

structure NamedSet where
  names : List String
  set : CharSet

namespace NamedSet

def find? (sets : List NamedSet) (name : String) : Option CharSet :=
  (sets.find? fun named => named.names.contains name).map NamedSet.set

end NamedSet

end Callsite.Pattern

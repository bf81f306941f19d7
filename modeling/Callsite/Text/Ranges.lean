set_option autoImplicit false

/-! Membership of a code point in a sorted list of inclusive ranges, the form in which Unicode
properties are tabulated here. -/

namespace Callsite.Text

/-- Whether `code` lies in one of `ranges`, which are disjoint and in increasing order. -/
def inRanges : List (Nat × Nat) → Nat → Bool
  | [], _ => false
  | (low, high) :: rest, code =>
      if code < low then false else decide (code ≤ high) || inRanges rest code

end Callsite.Text

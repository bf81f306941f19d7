set_option autoImplicit false

/-! JSON values, and the reading of records from them. A record is an object, whose further entries do
not matter, or an array of the fields in order, which may stop early but not go on. -/

namespace Callsite

inductive Json where
  | null
  | bool (value : Bool)
  | natural (value : Nat)
  /-- A number that is negative or not whole, as it was written. -/
  | otherNumber (text : String)
  | string (text : String)
  | array (items : List Json)
  | object (entries : List (String × Json))
  deriving Repr, BEq, Inhabited

namespace Json

def numberBound : Nat :=
  UInt64.size

def record? (names : List String) : Json → Option (List (String × Json))
  | object entries => some entries
  | array items => if items.length ≤ names.length then some (names.zip items) else none
  | _ => none

def string? : Json → Option String
  | string text => some text
  | _ => none

def natural? : Json → Option Nat
  | natural value => if value < numberBound then some value else none
  | _ => none

theorem natural?_natural {value : Nat} (fits : value < numberBound) :
    (natural value).natural? = some value :=
  if_pos fits

def bool? : Json → Option Bool
  | bool value => some value
  | _ => none

def strings? : Json → Option (List String)
  | array items => items.mapM string?
  | _ => none

def nullable {α : Type} (read : Json → Option α) : Json → Option (Option α)
  | null => some none
  | json => (read json).map some

def ofStrings (texts : List String) : Json :=
  array (texts.map string)

def ofOption {α : Type} (write : α → Json) : Option α → Json
  | none => null
  | some value => write value

end Json

abbrev Fields := List (String × Json)

namespace Fields

variable {α : Type}

def require (fields : Fields) (name : String) (read : Json → Option α) : Option α := do
  read (← fields.lookup name)

def getOr (fields : Fields) (name : String) (default : α) (read : Json → Option α) : Option α :=
  match fields.lookup name with
  | none => some default
  | some json => read json

end Fields

end Callsite

import Callsite.Json.Basic

set_option autoImplicit false

/-! Values of TOML documents. A document is a table; its tables remember how they came about, because
that decides what later lines may add to them. -/

namespace Callsite

inductive TableKind where
  /-- By a header of its own. -/
  | header
  /-- By the header of a table below it. -/
  | implied
  | dotted
  | inline
  deriving DecidableEq, Repr

inductive Toml where
  | string (text : String)
  | integer (value : Int)
  /-- A number with a fraction or an exponent, an infinity or no number. -/
  | decimal (text : String)
  | bool (value : Bool)
  /-- A date, a time or both, with an offset or without. -/
  | moment (text : String)
  | array (items : List Toml)
  | table (kind : TableKind) (entries : List (String × Toml))
  | tables (items : List (List (String × Toml)))
  deriving Repr, Inhabited

namespace Toml

abbrev Entries := List (String × Toml)

def momentKey : String :=
  "$__toml_private_datetime"

def ofInteger : Int → Json
  | .ofNat value => .natural value
  | .negSucc value => .otherNumber (toString (Int.negSucc value))

mutual

/-- The value as a record. A moment shows as a record of its text. -/
def toJson : Toml → Json
  | string text => .string text
  | integer value => ofInteger value
  | decimal text => .otherNumber text
  | bool value => .bool value
  | moment text => .object [(momentKey, .string text)]
  | array items => .array (itemsToJson items)
  | table _ entries => .object (entriesToJson entries)
  | tables items => .array (tablesToJson items)

def itemsToJson : List Toml → List Json
  | [] => []
  | item :: rest => item.toJson :: itemsToJson rest

def entriesToJson : List (String × Toml) → List (String × Json)
  | [] => []
  | (name, value) :: rest => (name, value.toJson) :: entriesToJson rest

def tablesToJson : List (List (String × Toml)) → List Json
  | [] => []
  | entries :: rest => .object (entriesToJson entries) :: tablesToJson rest

end

end Toml

end Callsite

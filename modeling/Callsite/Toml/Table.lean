import Callsite.Toml.Basic

set_option autoImplicit false

/-! Adding to tables. A name is bound once. A header may open a table that so far was only implied; a
dotted key may add to tables that dotted keys have made, and pass through implied ones. -/

namespace Callsite.Toml

/-- Replaces the value of a name, which may be missing, by what `change` makes of it. -/
def update (name : String) (change : Option Toml → Option Toml) : Entries → Option Entries
  | [] => do some [(name, ← change none)]
  | (other, value) :: rest =>
      if other = name then do some ((name, ← change (some value)) :: rest)
      else do some ((other, value) :: (← update name change rest))

def updateLast (change : Entries → Option Entries) : List Entries → Option (List Entries)
  | [] => none
  | [item] => do some [← change item]
  | item :: rest => do some (item :: (← updateLast change rest))

/-- Changes the entries of the table under a path of headers. Missing tables are implied; of tables in
a row the last one is meant. -/
def within (change : Entries → Option Entries) : List String → Entries → Option Entries
  | [], entries => change entries
  | name :: path, entries => update name (fun
      | none => do some (.table .implied (← within change path []))
      | some (.table .inline _) => none
      | some (.table kind inner) => do some (.table kind (← within change path inner))
      | some (.tables items) => do some (.tables (← updateLast (within change path) items))
      | some _ => none) entries

def openTable (path : List String) (name : String) : Entries → Option Entries :=
  within (update name fun
    | none => some (.table .header [])
    | some (.table .implied inner) => some (.table .header inner)
    | some _ => none) path

def openNext (path : List String) (name : String) : Entries → Option Entries :=
  within (update name fun
    | none => some (.tables [[]])
    | some (.tables items) => some (.tables (items ++ [[]]))
    | some _ => none) path

def bind (name : String) (value : Toml) : Entries → Option Entries :=
  update name fun
    | none => some value
    | some _ => none

/-- Binds a dotted key, `path` being the names before the last one. The table that gets the value has to
be one made by dotted keys. -/
def put (name : String) (value : Toml) : List String → Entries → Option Entries
  | [], entries => bind name value entries
  | part :: path, entries => update part (fun
      | none => do some (.table .dotted (← put name value path []))
      | some (.table .dotted inner) => do some (.table .dotted (← put name value path inner))
      | some (.table .implied inner) =>
          if path.isEmpty then none else do some (.table .implied (← put name value path inner))
      | some (.tables items) =>
          if path.isEmpty then none else do some (.tables (← updateLast (put name value path) items))
      | some _ => none) entries

end Callsite.Toml

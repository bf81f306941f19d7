import Callsite.Failure

set_option autoImplicit false

/-! A disk: the folders and files below a home folder, from which relative paths start. A place on the
disk is the list of names that leads to it from there. Nothing outside the home folder is known. -/

namespace Callsite

/-- What a file holds: text, or bytes that are no text. -/
inductive FileContent where
  | text (content : String)
  | bytes (content : List UInt8)
  deriving DecidableEq, Repr

namespace FileContent

def size : FileContent → Nat
  | text content => content.utf8ByteSize
  | bytes content => content.length

def text? : FileContent → Option String
  | text content => some content
  | bytes _ => none

end FileContent

inductive Entry where
  | file (content : FileContent)
  | folder (entries : List (String × Entry))
  deriving Repr, Inhabited

namespace Entry

def isFolder : Entry → Bool
  | folder _ => true
  | file _ => false

def child? (entry : Entry) (name : String) : Option Entry :=
  match entry with
  | folder entries => entries.lookup name
  | file _ => none

def at? (entry : Entry) : List String → Option Entry
  | [] => some entry
  | name :: place => do at? (← entry.child? name) place

def change (name : String) (update : Option Entry → Entry) :
    List (String × Entry) → List (String × Entry)
  | [] => [(name, update none)]
  | (other, entry) :: rest =>
      if other = name then (name, update (some entry)) :: rest
      else (other, entry) :: change name update rest

def put (new : Entry) : List String → Option Entry → Entry
  | [], _ => new
  | name :: place, some (folder entries) => folder (change name (put new place) entries)
  | name :: place, _ => folder [(name, put new place none)]

def remove (entry : Entry) : List String → Entry
  | [] => entry
  | [name] =>
      match entry with
      | folder entries => folder (entries.filter fun (other, _) => other ≠ name)
      | file _ => entry
  | name :: place =>
      match entry with
      | folder entries =>
          folder (entries.map fun (other, inner) =>
            if other = name then (other, inner.remove place) else (other, inner))
      | file _ => entry

end Entry

structure Disk where
  home : Path
  top : Entry := .folder []
  deriving Repr

/-- A computation on a disk that may fail. What it has written by then remains written. -/
abbrev Writing := ExceptT Failure (StateM Disk)

namespace Disk

/-- The segments of a path from the home folder. Of paths outside it there are none, and the empty path
leads nowhere. -/
def segments? (disk : Disk) (path : Path) : Option (List (List Char)) :=
  let text := path.text.toList
  let home := disk.home.text.toList
  if text.isEmpty then none
  else if text = home then some []
  else if (home ++ ['/']).isPrefixOf text then
    some (Path.segments [] (text.drop (home.length + 1)))
  else if path.isAbsolute then none
  else some (Path.segments [] text)

/-- Follows segments from the folder at `place`. Empty segments and dots stay at a folder, and double dots
lead to the folder around it. -/
def follow? (disk : Disk) (place : List String) : List (List Char) → Option (List String)
  | [] => some place
  | segment :: rest =>
      if (disk.top.at? place).any Entry.isFolder then
        if segment = [] || segment = ['.'] then disk.follow? place rest
        else if segment = ['.', '.'] then
          if place.isEmpty then none else disk.follow? place.dropLast rest
        else disk.follow? (place ++ [String.ofList segment]) rest
      else none

def place? (disk : Disk) (path : Path) : Option (List String) := do
  let place ← disk.follow? [] (← disk.segments? path)
  if (disk.top.at? place).isSome then some place else none

def entry? (disk : Disk) (path : Path) : Option Entry := do
  disk.top.at? (← disk.place? path)

def has (disk : Disk) (path : Path) : Bool :=
  (disk.entry? path).isSome

def hasFolder (disk : Disk) (path : Path) : Bool :=
  (disk.entry? path).any Entry.isFolder

def read? (disk : Disk) (path : Path) : Option String := do
  match ← disk.entry? path with
  | .file content => content.text?
  | .folder _ => none

/-- The place where a file of the given path goes: in a folder, under a name that no folder has. -/
def target? (disk : Disk) (path : Path) : Option (List String) := do
  let segments ← disk.segments? path
  let last ← segments.getLast?
  if last = [] || last = ['.'] || last = ['.', '.'] then none
  let folder ← disk.follow? [] segments.dropLast
  let place := folder ++ [String.ofList last]
  if !(disk.top.at? folder).any Entry.isFolder || (disk.top.at? place).any Entry.isFolder then none
  else some place

/-- Writes a file, in place of one that is there. -/
def write (path : Path) (text : String) : Writing PUnit := do
  match (← get).target? path with
  | some place => modify fun disk =>
      { disk with top := Entry.put (.file (.text text)) place (some disk.top) }
  | none => throw (.unreadable path)

/-- Puts an entry under a path, unless a folder is there. Folders on the way are made. -/
def put (disk : Disk) (path : Path) (entry : Entry) : Disk :=
  let segments := Path.segments [] path.text.toList
  let place := (segments.filter fun segment => segment ≠ [] && segment ≠ ['.']).map String.ofList
  if (disk.top.at? place).any Entry.isFolder then disk
  else { disk with top := Entry.put entry place (some disk.top) }

def remove? (disk : Disk) (path : Path) : Option Disk := do
  let place ← disk.place? path
  match ← disk.top.at? place with
  | .file _ => some { disk with top := disk.top.remove place }
  | .folder _ => none

end Disk

end Callsite

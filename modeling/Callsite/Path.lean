set_option autoImplicit false

/-! Paths. A path keeps the text it was written with, and is compared by its parts: repeated and
trailing slashes and inner dots do not count, a leading dot and double dots do. -/

namespace Callsite

/-- A part of a path. The order of the constructors is their order in a listing. -/
inductive PathPart where
  | root
  | here
  | up
  | name (text : String)
  deriving DecidableEq, Repr

namespace PathPart

def rank : PathPart → Nat
  | root => 0
  | here => 1
  | up => 2
  | name _ => 3

def compare : PathPart → PathPart → Ordering
  | name left, name right => Ord.compare left right
  | left, right => Ord.compare left.rank right.rank

def ofSegment : List Char → PathPart
  | ['.', '.'] => up
  | segment => name (String.ofList segment)

end PathPart

structure Path where
  text : String
  deriving DecidableEq, Repr

namespace Path

/-- The segments between slashes, `segment` being the reversed beginning of the current one. -/
def segments (segment : List Char) : List Char → List (List Char)
  | [] => [segment.reverse]
  | c :: rest => if c = '/' then segment.reverse :: segments [] rest else segments (c :: segment) rest

def isAbsolute (path : Path) : Bool :=
  path.text.toList.head? = some '/'

def parts (path : Path) : List PathPart :=
  let all := segments [] path.text.toList
  let lead := if path.isAbsolute then [.root] else if all.head? = some ['.'] then [.here] else []
  lead ++ (all.filter fun segment => segment ≠ [] && segment ≠ ['.']).map PathPart.ofSegment

def compareParts : List PathPart → List PathPart → Ordering
  | [], [] => .eq
  | [], _ :: _ => .lt
  | _ :: _, [] => .gt
  | left :: lefts, right :: rights =>
      match left.compare right with
      | .eq => compareParts lefts rights
      | order => order

def compare (left right : Path) : Ordering :=
  compareParts left.parts right.parts

def same (left right : Path) : Bool :=
  left.parts = right.parts

def isUnder (path root : Path) : Bool :=
  root.parts.isPrefixOf path.parts

def fileName? (path : Path) : Option String :=
  match path.parts.getLast? with
  | some (.name text) => some text
  | _ => none

/-- What follows the last dot of the file name. A dot that begins the name makes no extension. -/
def extension? (path : Path) : Option String := do
  let reversed := (← path.fileName?).toList.reverse
  match reversed.dropWhile (· ≠ '.') with
  | [] => none
  | [_] => none
  | _ :: _ :: _ => some (String.ofList (reversed.takeWhile (· ≠ '.')).reverse)

def join (path : Path) (name : String) : Path :=
  if name.toList.head? = some '/' || path.text.isEmpty then ⟨name⟩
  else if path.text.toList.getLast? = some '/' then ⟨path.text ++ name⟩
  else ⟨path.text ++ "/" ++ name⟩

end Path

end Callsite

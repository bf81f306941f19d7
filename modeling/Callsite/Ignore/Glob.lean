import Callsite.Pattern.Basic

set_option autoImplicit false

/-! Globs: the patterns of ignore files. A star matches any number of bytes other than slashes, a question
mark one such byte, a bracketed class one byte of it, and two stars between slashes any number of folders.
Braces hold alternatives. A glob is matched against the bytes of a path. -/

namespace Callsite

inductive GlobPart where
  | literal (c : Char)
  | anyByte
  | anyBytes
  /-- Two stars at the beginning: any number of folders. -/
  | leadingFolders
  | innerFolders
  | everythingBelow
  | oneOf (negated : Bool) (ranges : List (Char × Char))
  | choice (branches : List (List GlobPart))
  deriving Repr, Inhabited

abbrev Glob := List GlobPart

namespace Glob

/-! ### Reading -/

inductive ClassReading where
  | closed (ranges : List (Char × Char)) (rest : List Char)
  | unclosed
  | invalid

/-- Reads a class after its opening bracket and negation. A closing bracket or a dash that comes first
stands for itself, and so does a dash that comes last. The ranges are collected in reverse. -/
def readClass (first inRange : Bool) (ranges : List (Char × Char)) : List Char → ClassReading
  | [] => .unclosed
  | c :: rest =>
      if first && (c = ']' || c = '-') then readClass false false ((c, c) :: ranges) rest
      else if c = ']' then .closed (if inRange then ('-', '-') :: ranges else ranges) rest
      else if c = '-' && !inRange then readClass false true ranges rest
      else if inRange then
        match ranges with
        | (low, _) :: others =>
            if c < low then .invalid else readClass false false ((low, c) :: others) rest
        | [] => .invalid
      else readClass false false ((c, c) :: ranges) rest

/-- A glob that is being read. The branches of open braces come before what stands around them, the
current one first, and the parts of each are in reverse. -/
structure Draft where
  branches : List (List GlobPart) := [[]]
  /-- For each open brace, innermost first, the number of branches before it. -/
  opened : List Nat := []
  unclosed : Bool := false
  before : Option Char := none

namespace Draft

def push (draft : Draft) (part : GlobPart) (c : Char) : Draft :=
  match draft.branches with
  | branch :: branches => { draft with branches := (part :: branch) :: branches, before := some c }
  | [] => { draft with branches := [[part]], before := some c }

def openBrace (draft : Draft) : Draft :=
  { draft with
    branches := [] :: draft.branches
    opened := draft.branches.length :: draft.opened
    before := some '\x7b' }

def comma (draft : Draft) : Draft :=
  if draft.opened.isEmpty then draft.push (.literal ',') ','
  else { draft with branches := [] :: draft.branches, before := some ',' }

def closeBrace? (draft : Draft) : Option Draft :=
  match draft.opened with
  | [] => none
  | count :: opened =>
      let size := draft.branches.length - count
      let branches := (draft.branches.take size).reverse.map List.reverse
      some ({ draft with branches := draft.branches.drop size, opened := opened }.push
        (.choice branches) '\x7d')

def pushStars (draft : Draft) : Draft :=
  (draft.push .anyBytes '*').push .anyBytes '*'

def pushFolders (draft : Draft) (atEnd : Bool) (c : Char) : Draft :=
  let folders : GlobPart := if atEnd then .everythingBelow else .innerFolders
  match draft.branches with
  | (.leadingFolders :: _) :: _ => { draft with before := some c }
  | (.everythingBelow :: _) :: _ => { draft with before := some c }
  | (_ :: branch) :: branches =>
      { draft with branches := (folders :: branch) :: branches, before := some c }
  | _ => draft.push folders c

/-- Reads two stars, and the slash after them if they stand for folders; `rest` is what follows the
stars. -/
def stars (draft : Draft) (rest : List Char) : Draft × List Char :=
  let inBraces := draft.branches.length ≥ 2
  if draft.branches.head?.all List.isEmpty then
    match rest with
    | [] => (draft.push .leadingFolders '*', [])
    | '/' :: rest => (draft.push .leadingFolders '/', rest)
    | _ => (draft.pushStars, rest)
  else if draft.before ≠ some '/' &&
      !(inBraces && (draft.before = some ',' || draft.before = some '\x7b')) then
    (draft.pushStars, rest)
  else
    match rest with
    | [] => (draft.pushFolders true '*', [])
    | '/' :: rest => (draft.pushFolders false '/', rest)
    | c :: _ =>
        if inBraces && (c = ',' || c = '\x7d') then (draft.pushFolders true '*', rest)
        else (draft.pushStars, rest)

end Draft

/-- Reads a glob. With `lenient`, an opening bracket without a closing one stands for itself. -/
def read? (lenient : Bool) : (fuel : Nat) → Draft → List Char → Option Draft
  | 0, _, _ => none
  | _ + 1, draft, [] => some draft
  | fuel + 1, draft, c :: rest =>
      if c = '?' then read? lenient fuel (draft.push .anyByte c) rest
      else if c = '*' then
        match rest with
        | '*' :: rest =>
            let (draft, rest) := draft.stars rest
            read? lenient fuel draft rest
        | _ => read? lenient fuel (draft.push .anyBytes c) rest
      else if c = '[' && !draft.unclosed then
        let negated := rest.head? = some '!' || rest.head? = some '^'
        match readClass true false [] (if negated then rest.drop 1 else rest) with
        | .closed ranges rest => read? lenient fuel (draft.push (.oneOf negated ranges) ']') rest
        | .unclosed =>
            if lenient then
              read? lenient fuel ({ draft with unclosed := true }.push (.literal c) c) rest
            else none
        | .invalid => none
      else if c = '\x7b' then read? lenient fuel draft.openBrace rest
      else if c = '\x7d' then do read? lenient fuel (← draft.closeBrace?) rest
      else if c = ',' then read? lenient fuel draft.comma rest
      else if c = '\\' then
        match rest with
        | [] => none
        | escaped :: rest => read? lenient fuel (draft.push (.literal escaped) escaped) rest
      else read? lenient fuel (draft.push (.literal c) c) rest

def parse? (lenient : Bool) (text : List Char) : Option Glob := do
  let draft ← read? lenient (text.length + 1) {} text
  match draft.branches with
  | [branch] => if draft.opened.isEmpty then some branch.reverse else none
  | _ => none

/-! ### Matching -/

/-- The bytes of a text, each as the character with its number. -/
def bytes (text : List Char) : List Char :=
  text.flatMap fun c => (String.utf8EncodeChar c).map fun byte => Char.ofNat byte.toNat

def slash : Pattern :=
  .chars (.single '/')

def notSlash : Pattern :=
  .chars (.complement (.single '/'))

def anything : Pattern :=
  .anyNumber true (.chars .everything)

def ofBytes (bytes : List Char) : CharSet :=
  bytes.foldr (fun byte set => .union (.single byte) set) .nothing

/-- The bytes of a range. Of characters beyond ASCII each byte counts by itself. -/
def rangeBytes (low high : Char) : CharSet :=
  if low = high then ofBytes (bytes [low])
  else
    match (bytes [low]).reverse, bytes [high] with
    | last :: leading, first :: trailing =>
        .union (ofBytes leading) (.union (.range last first) (ofBytes trailing))
    | _, _ => .nothing

def classBytes (negated : Bool) (ranges : List (Char × Char)) : CharSet :=
  .complementIf negated (ranges.foldr (fun (low, high) set => .union (rangeBytes low high) set) .nothing)

def either (first second : Option Pattern) : Option Pattern :=
  match first, second with
  | some first, some second => some (.alt first second)
  | first, second => first.or second

def followed (first second : Option Pattern) : Option Pattern :=
  match first, second with
  | some first, some second => some (.seq first second)
  | first, second => first.or second

mutual

/-- The pattern of a part. A choice without a branch to choose has none. -/
def partPattern? : GlobPart → Option Pattern
  | .literal c => some (.sequence ((bytes [c]).map fun byte => .chars (.single byte)))
  | .anyByte => some notSlash
  | .anyBytes => some (.anyNumber true notSlash)
  | .leadingFolders => some (.alt (.optional true slash) (.seq anything slash))
  | .innerFolders => some (.alt slash (.seq slash (.seq anything slash)))
  | .everythingBelow => some (.seq slash anything)
  | .oneOf negated ranges => some (.chars (classBytes negated ranges))
  | .choice branches => branchesPattern? branches

def partsPattern? : List GlobPart → Option Pattern
  | [] => none
  | part :: rest => followed (partPattern? part) (partsPattern? rest)

def branchesPattern? : List (List GlobPart) → Option Pattern
  | [] => none
  | branch :: rest => either (partsPattern? branch) (branchesPattern? rest)

end

/-- The pattern of a glob. Two stars alone match everything. -/
def toPattern (glob : Glob) : Pattern :=
  match glob with
  | [.leadingFolders] => anything
  | _ => (partsPattern? glob).getD .empty

end Glob

end Callsite

import Callsite.Disk
import Callsite.Ignore.Rule
import Callsite.Settings
import Callsite.Text.Lines

set_option autoImplicit false

/-! The ignore rules of a folder. They apply to everything below it, and see every path from the folder
on. -/

namespace Callsite

open Text

namespace Path

def dropDot : List Char → List Char
  | '.' :: '/' :: rest => rest
  | text => text

def dropSlash : List Char → List Char
  | '/' :: rest => rest
  | text => text

def isHere (path : Path) : Bool :=
  path.parts = [.here]

/-- The text of a path as seen from a folder: what follows the text of the folder. At the beginning one
dot does not count in the text of the folder, and two do not in that of the path; so a path with more dots
in front is seen whole. -/
def seenFrom (path folder : Path) : List Char :=
  let below := dropDot (dropDot path.text.toList)
  let folder := dropDot folder.text.toList
  if isHere ⟨String.ofList folder⟩ || !below.contains '/' then below
  else if folder.isPrefixOf below then dropSlash (below.drop folder.length)
  else below

end Path

/-! ### Files of rules -/

namespace FileContent

/-- The bytes between line ends, `line` being the reversed beginning of the current line. -/
def byteLines (line : List UInt8) : List UInt8 → List (List UInt8)
  | [] => [line.reverse]
  | byte :: rest =>
      if byte = 10 then
        (if line.head? = some 13 then line.drop 1 else line).reverse :: byteLines [] rest
      else byteLines (byte :: line) rest

def decodeLines : List (List UInt8) → List String
  | [] => []
  | line :: rest =>
      match String.fromUTF8? ⟨line.toArray⟩ with
      | some decoded => decoded :: decodeLines rest
      | none => []

def textLines : FileContent → List String
  | text content => lines content
  | bytes content => decodeLines (byteLines [] content)

end FileContent

namespace Entry

def linesAt (entry : Entry) (place : List String) : List String :=
  match entry.at? place with
  | some (.file content) => content.textLines
  | _ => []

end Entry

namespace Disk

def linesOf (disk : Disk) (path : Path) : List String :=
  match disk.place? path with
  | some place => disk.top.linesAt place
  | none => []

/-- The folder that version control shares among the copies of a folder, `mark` being the first line of
the file that stands for its own folder: it names a folder, whose file `commondir` names the shared one. A
name that begins with a dot is read from there. -/
def sharedFolder? (disk : Disk) (mark : String) : Option Path := do
  if !"gitdir: ".toList.isPrefixOf mark.toList then none
  let own : Path := ⟨String.ofList (mark.toList.drop "gitdir: ".length)⟩
  let shared ← (disk.linesOf (own.join "commondir")).head?
  some (if shared.toList.head? = some '.' then own.join shared else ⟨shared⟩)

/-- The lines of the rules that version control keeps for itself in a folder. -/
def excludeLines (disk : Disk) (folder : Entry) : List String :=
  match folder.child? ".git" with
  | some (.file content) =>
      match content.textLines.head?.bind disk.sharedFolder? with
      | some shared => disk.linesOf (shared.join "info/exclude")
      | none => []
  | _ => folder.linesAt [".git", "info", "exclude"]

end Disk

/-! ### Rules -/

inductive Viewpoint where
  /-- A folder around the root of a walk sees places, of which this many names are its own. -/
  | place (depth : Nat)
  | path (folder : Path)

def Viewpoint.view (place : List String) (path : Path) : Viewpoint → List Char
  | .place depth => Glob.bytes (String.intercalate "/" (place.drop depth)).toList
  | .path folder => Glob.bytes (path.seenFrom folder)

structure FolderRules where
  viewpoint : Viewpoint
  own : List IgnoreRule
  tracked : List IgnoreRule
  excluded : List IgnoreRule

namespace FolderRules

/-- The rules in a folder. Those of version control count only if the settings say so. -/
def ofFolder (disk : Disk) (settings : CorpusSettings) (viewpoint : Viewpoint) (folder : Entry) :
    FolderRules where
  viewpoint := viewpoint
  own := IgnoreRule.ofLines (folder.linesAt [".ignore"])
  tracked :=
    if settings.respectGitignore then IgnoreRule.ofLines (folder.linesAt [".gitignore"]) else []
  excluded :=
    if settings.respectGitignore then IgnoreRule.ofLines (disk.excludeLines folder) else []

/-- What the innermost folder that has a say says of an entry, by one kind of its rules. -/
def verdict? (folders : List FolderRules) (kind : FolderRules → List IgnoreRule) (place : List String)
    (path : Path) (isFolder : Bool) : Option Verdict :=
  folders.findSome? fun rules =>
    match kind rules with
    | [] => none
    | own => IgnoreRule.verdict? own (rules.viewpoint.view place path) isFolder

end FolderRules

end Callsite

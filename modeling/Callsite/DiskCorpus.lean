import Callsite.Corpus
import Callsite.Ignore.Folder

set_option autoImplicit false

/-! The corpus of a disk: the files below a root whose extension stands for a language, without those that
the settings or ignore files leave out. The root itself is never left out. -/

namespace Callsite

structure Walk where
  disk : Disk
  settings : CorpusSettings
  root : Path
  exclusions : List IgnoreRule

namespace Walk

/-- Whether the walk passes by the entry at a place, `folders` being the rules of the folders around it,
innermost first. A hidden entry is passed by unless a rule keeps it. -/
def passes (walk : Walk) (folders : List FolderRules) (place : List String) (path : Path)
    (name : String) (isFolder : Bool) : Bool :=
  let below := Viewpoint.view place path (.path walk.root)
  if walk.exclusions.any (·.concerns below isFolder) then true
  else
    let own := FolderRules.verdict? folders FolderRules.own place path isFolder
    let tracked := FolderRules.verdict? folders FolderRules.tracked place path isFolder
    let excluded := FolderRules.verdict? folders FolderRules.excluded place path isFolder
    match own.or (tracked.or excluded) with
    | some verdict => verdict = .leaveOut
    | none => !walk.settings.includeHidden && name.toList.head? = some '.'

mutual

def files (walk : Walk) (folders : List FolderRules) (place : List String) (path : Path) :
    Entry → List (Path × Nat)
  | .file content => [(path, content.size)]
  | .folder entries =>
      let rules := .ofFolder walk.disk walk.settings (.path path) (.folder entries)
      walk.filesAmong (rules :: folders) place path entries

def filesAmong (walk : Walk) (folders : List FolderRules) (place : List String) (path : Path) :
    List (String × Entry) → List (Path × Nat)
  | [] => []
  | (name, entry) :: rest =>
      let inner := place ++ [name]
      let joined := path.join name
      (if walk.passes folders inner joined name entry.isFolder then []
        else walk.files folders inner joined entry) ++
        walk.filesAmong folders place path rest

end

end Walk

namespace CorpusSettings

def exclusions (settings : CorpusSettings) : Except Failure (List IgnoreRule) :=
  settings.ignorePatterns.mapM fun pattern =>
    match IgnoreRule.ofPattern? pattern with
    | some rule => .ok rule
    | none => .error (.settings (.ignorePattern pattern))

end CorpusSettings

namespace Disk

/-- The rules of the folders around a place, innermost first. -/
def foldersAround (disk : Disk) (settings : CorpusSettings) (place : List String) :
    List FolderRules :=
  (List.range place.length).reverse.filterMap fun depth =>
    (disk.top.at? (place.take depth)).map (.ofFolder disk settings (.place depth))

def filesBelow (disk : Disk) (settings : CorpusSettings) (exclusions : List IgnoreRule) (root : Path) :
    List (Path × Nat) :=
  match disk.place? root with
  | none => []
  | some place =>
      match disk.top.at? place with
      | none => []
      | some entry =>
          let walk : Walk := ⟨disk, settings, root, exclusions⟩
          walk.files (disk.foldersAround settings place) place root entry

/-- The files below a root that are small enough, and whose language the filter admits, in order. -/
def listFiles (disk : Disk) (settings : CorpusSettings) (registry : Registry) (root : Path)
    (filter : LanguageFilter) : Except Failure (List SourceFile) := do
  let exclusions ← settings.exclusions
  let files := (disk.filesBelow settings exclusions root).filterMap fun (path, size) => do
    let language ← registry.languageOf? path
    if filter.allows language && size ≤ settings.maxFileSize then some ⟨path, language⟩ else none
  .ok (files.mergeSort fun left right => left.path.compare right.path ≠ .gt)

def corpus (disk : Disk) (settings : CorpusSettings) (registry : Registry) : Corpus where
  list := disk.listFiles settings registry
  read? := disk.read?

end Disk

end Callsite

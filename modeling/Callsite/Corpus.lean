import Callsite.Failure
import Callsite.Language.Registry

set_option autoImplicit false

/-! A corpus: the source files that a search goes through. Files are listed below a root in the order
of their paths, and read one at a time. -/

namespace Callsite

structure SourceFile where
  path : Path
  language : String
  deriving DecidableEq, Repr

structure Corpus where
  list : Path → LanguageFilter → Except Failure (List SourceFile)
  read? : Path → Option String

/-- A file kept in memory. A file without content is listed but cannot be read. -/
structure StoredFile where
  path : Path
  language : String
  content : Option String
  deriving DecidableEq, Repr

/-- A corpus kept in memory: files in the order of their paths, no two at the same place, and the roots
that cannot be listed. -/
structure MemoryCorpus where
  files : List StoredFile := []
  unlistable : List Path := []
  deriving Repr

namespace MemoryCorpus

def putInto (file : StoredFile) : List StoredFile → List StoredFile
  | [] => [file]
  | other :: rest =>
      match file.path.compare other.path with
      | .lt => file :: other :: rest
      | .eq => { file with path := other.path } :: rest
      | .gt => other :: putInto file rest

def put (corpus : MemoryCorpus) (file : StoredFile) : MemoryCorpus :=
  { corpus with files := putInto file corpus.files }

def find? (corpus : MemoryCorpus) (path : Path) : Option StoredFile :=
  corpus.files.find? fun file => file.path.same path

def remove (corpus : MemoryCorpus) (path : Path) : MemoryCorpus :=
  { corpus with files := corpus.files.filter fun file => !file.path.same path }

def list (corpus : MemoryCorpus) (root : Path) (filter : LanguageFilter) :
    Except Failure (List SourceFile) :=
  match corpus.unlistable.find? (·.same root) with
  | some place => .error (.unlistable place)
  | none => .ok <| (corpus.files.filter fun file =>
      file.path.isUnder root && filter.allows file.language).map fun file =>
        ⟨file.path, file.language⟩

def toCorpus (corpus : MemoryCorpus) : Corpus where
  list := corpus.list
  read? path := (corpus.find? path).bind StoredFile.content

end MemoryCorpus

end Callsite

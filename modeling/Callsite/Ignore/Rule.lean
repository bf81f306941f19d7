import Callsite.Ignore.Glob
import Callsite.Pattern.Search
import Callsite.Text.Blank

set_option autoImplicit false

/-! The lines of ignore files. A line leaves out what its glob matches, or keeps it after an exclamation
mark; a slash at its end restricts it to folders. A glob with a slash before its end is anchored at the
folder of the file, any other one matches names at any depth. Of the lines that match, the last one
counts. -/

namespace Callsite

open Text

structure IgnoreRule where
  pattern : Pattern
  keeps : Bool := false
  foldersOnly : Bool := false
  deriving DecidableEq, Repr

inductive Verdict where
  | keep
  | leaveOut
  deriving DecidableEq, Repr

namespace IgnoreRule

structure Draft where
  text : List Char
  keeps : Bool := false
  anchored : Bool := false
  foldersOnly : Bool := false

def ofMarks (line : List Char) : Draft :=
  match line with
  | '\\' :: c :: rest =>
      if c = '!' || c = '#' then { text := c :: rest } else { text := line }
  | '!' :: '/' :: rest => { text := rest, keeps := true, anchored := true }
  | '!' :: rest => { text := rest, keeps := true }
  | '/' :: rest => { text := rest, anchored := true }
  | _ => { text := line }

def withoutSlash (draft : Draft) : Draft :=
  match draft.text.reverse with
  | '/' :: '\\' :: rest => { draft with text := rest.reverse, foldersOnly := true }
  | '/' :: rest => { draft with text := rest.reverse, foldersOnly := true }
  | _ => draft

def globText (draft : Draft) : List Char :=
  let text := draft.text
  let floating := !draft.anchored && !text.contains '/' && text ≠ ['*', '*']
  let text := if floating then '*' :: '*' :: '/' :: text else text
  if ['/', '*', '*'].isSuffixOf text then text ++ ['/', '*'] else text

/-- A line without the blanks at its end, unless a backslash keeps one. -/
def trimmed (line : List Char) : List Char :=
  if ['\\', ' '].isSuffixOf line then line else trimEnd line

def ofTrimmed? (lenient : Bool) (line : List Char) : Option IgnoreRule := do
  let draft := withoutSlash (ofMarks line)
  let glob ← Glob.parse? lenient (globText draft)
  some { pattern := glob.toPattern, keeps := draft.keeps, foldersOnly := draft.foldersOnly }

/-- The rule of a line of an ignore file. Comments, blank lines and lines without a proper glob have
none. -/
def ofLine? (line : String) : Option IgnoreRule :=
  let text := line.toList
  if text.head? = some '#' || (trimmed text).isEmpty then none else ofTrimmed? true (trimmed text)

/-- The rule that leaves out what a pattern of the settings matches. A mark at its beginning stands for
itself, but for a slash. -/
def ofPattern? (pattern : String) : Option IgnoreRule := do
  let rule ← ofTrimmed? false (trimmed ('!' :: pattern.toList))
  some { rule with keeps := false }

def ofLines : List String → List IgnoreRule
  | [] => []
  | first :: rest =>
      let first := String.ofList (first.toList.dropWhile (· = '\ufeff'))
      (first :: rest).filterMap ofLine?

def concerns (rule : IgnoreRule) (path : List Char) (isFolder : Bool) : Bool :=
  (isFolder || !rule.foldersOnly) && rule.pattern.fits path

def verdict? (rules : List IgnoreRule) (path : List Char) (isFolder : Bool) : Option Verdict :=
  (rules.reverse.find? (·.concerns path isFolder)).map fun rule =>
    if rule.keeps then .keep else .leaveOut

end IgnoreRule

end Callsite

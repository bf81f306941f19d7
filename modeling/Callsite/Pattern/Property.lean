import Callsite.Pattern.BreakProperty
import Callsite.Text.ScriptExtension
import Callsite.Text.Version

set_option autoImplicit false

/-! Character properties by name, as `\p` escapes mention them. -/

namespace Callsite.Pattern

open Text

/-- The form in which names are compared: in lower case, without blanks, hyphens, underscores and
characters beyond ASCII, and without an `is` at the beginning. -/
def looseName (name : List Char) : String :=
  let plain := fun (text : List Char) =>
    (text.filter fun c => isAscii c && !(c = ' ' || c = '-' || c = '_')).map Char.toLower
  match name with
  | first :: second :: rest =>
      if first.toLower = 'i' && second.toLower = 's' then
        if plain rest = ['c'] then "isc" else String.ofList (plain rest)
      else String.ofList (plain name)
  | _ => String.ofList (plain name)

def usedIn (script : Script) : CharSet :=
  .union (.ranges script.borrowed) (.difference (.ranges script.ranges) (.ranges Script.shared))

def namedProperty? (name : String) : Option CharSet :=
  (binaryProperty? name).or <|
    (generalCategory? name).or ((script? name).map fun script => .ranges script.ranges)

/-- The characters whose property `name` has the value `value`. A character is of all versions from the
one that assigned it on. -/
def propertyValue? (name value : String) : Option CharSet :=
  match name with
  | "gc" | "generalcategory" => generalCategory? value
  | "sc" | "script" => (script? value).map fun script => .ranges script.ranges
  | "scx" | "scriptextensions" => (script? value).map usedIn
  | "age" =>
      (versionsUpTo? value).map fun versions =>
        .unions (versions.map fun version => .ranges version.ranges)
  | "gcb" | "graphemeclusterbreak" => NamedSet.find? graphemeBreaks value
  | "wb" | "wordbreak" => NamedSet.find? wordBreaks value
  | "sb" | "sentencebreak" => NamedSet.find? sentenceBreaks value
  | _ => none

/-- Cuts a text at the first character with `isMark`, which belongs to neither part. -/
def cutAt? (isMark : Char → Bool) (text : List Char) : Option (List Char × List Char) :=
  match text.dropWhile fun c => !isMark c with
  | [] => none
  | _ :: rest => some (text.takeWhile fun c => !isMark c, rest)

def cutAtUnequal? : List Char → Option (List Char × List Char)
  | [] => none
  | '!' :: '=' :: rest => some ([], rest)
  | c :: rest => do
      let (name, value) ← cutAtUnequal? rest
      some (c :: name, value)

/-- The set that the text of a property escape describes, if all its names are known: a name alone, or a
property with a value after `!=`, `:` or `=`. With it comes whether `!=` asks for all other characters. -/
def property? (text : List Char) : Option (Bool × CharSet) :=
  match cutAtUnequal? text with
  | some (name, value) => (propertyValue? (looseName name) (looseName value)).map (true, ·)
  | none =>
      (match (cutAt? (· = ':') text).or (cutAt? (· = '=') text) with
        | some (name, value) => propertyValue? (looseName name) (looseName value)
        | none => namedProperty? (looseName text)).map (false, ·)

def bracketClass? (name : List Char) : Option CharSet :=
  match String.ofList name with
  | "alnum" => some (.union (.range '0' '9') (.union (.range 'A' 'Z') (.range 'a' 'z')))
  | "alpha" => some (.union (.range 'A' 'Z') (.range 'a' 'z'))
  | "ascii" => some ascii
  | "blank" => some (.union (.single '\t') (.single ' '))
  | "cntrl" => some (.union (.range '\x00' '\x1f') (.single '\x7f'))
  | "digit" => some (.range '0' '9')
  | "graph" => some (.range '!' '~')
  | "lower" => some (.range 'a' 'z')
  | "print" => some (.range ' ' '~')
  | "punct" =>
      some (.union (.union (.range '!' '/') (.range ':' '@')) (.union (.range '[' '\x60') (.range '\x7b' '~')))
  | "space" => some (.union (.range '\t' '\r') (.single ' '))
  | "upper" => some (.range 'A' 'Z')
  | "word" =>
      some (.union (.union (.range '0' '9') (.single '_')) (.union (.range 'A' 'Z') (.range 'a' 'z')))
  | "xdigit" => some (.union (.range '0' '9') (.union (.range 'A' 'F') (.range 'a' 'f')))
  | _ => none

end Callsite.Pattern

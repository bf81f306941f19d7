import Callsite.Json.Basic

set_option autoImplicit false

/-! The text of JSON values: on one line without blanks, or with one item a line, two spaces deeper
for each level. Characters beyond ASCII stand for themselves. -/

namespace Callsite.Json

def hexDigit (value : Nat) : Char :=
  Char.ofNat (if value < 10 then 48 + value else 87 + value)

def quotedChar (c : Char) : List Char :=
  if c = '"' then ['\\', '"']
  else if c = '\\' then ['\\', '\\']
  else if c = '\x08' then ['\\', 'b']
  else if c = '\x0c' then ['\\', 'f']
  else if c = '\n' then ['\\', 'n']
  else if c = '\r' then ['\\', 'r']
  else if c = '\t' then ['\\', 't']
  else if c.toNat < 32 then ['\\', 'u', '0', '0', hexDigit (c.toNat / 16), hexDigit (c.toNat % 16)]
  else [c]

def quoted (text : String) : String :=
  "\"" ++ String.ofList (text.toList.flatMap quotedChar) ++ "\""

mutual

def appendCompact (text : String) : Json → String
  | null => text ++ "null"
  | bool value => text ++ if value then "true" else "false"
  | natural value => text ++ toString value
  | otherNumber digits => text ++ digits
  | string content => text ++ quoted content
  | array [] => text ++ "[]"
  | array (item :: rest) => appendItems (appendCompact (text ++ "[") item) rest ++ "]"
  | object [] => text ++ "\x7b\x7d"
  | object ((name, value) :: rest) =>
      appendEntries (appendCompact (text ++ "\x7b" ++ quoted name ++ ":") value) rest ++ "\x7d"

def appendItems (text : String) : List Json → String
  | [] => text
  | item :: rest => appendItems (appendCompact (text ++ ",") item) rest

def appendEntries (text : String) : List (String × Json) → String
  | [] => text
  | (name, value) :: rest =>
      appendEntries (appendCompact (text ++ "," ++ quoted name ++ ":") value) rest

end

def compact (json : Json) : String :=
  appendCompact "" json

def newLine (level : Nat) : String :=
  "\n" ++ String.ofList (List.replicate (2 * level) ' ')

mutual

/-- Appends the text over several lines to `text`, the value itself standing at `level`. -/
def appendPretty (level : Nat) (text : String) : Json → String
  | null => text ++ "null"
  | bool value => text ++ if value then "true" else "false"
  | natural value => text ++ toString value
  | otherNumber digits => text ++ digits
  | string content => text ++ quoted content
  | array [] => text ++ "[]"
  | array (item :: rest) =>
      appendPrettyItems (level + 1)
        (appendPretty (level + 1) (text ++ "[" ++ newLine (level + 1)) item) rest ++
        newLine level ++ "]"
  | object [] => text ++ "\x7b\x7d"
  | object ((name, value) :: rest) =>
      appendPrettyEntries (level + 1)
        (appendPretty (level + 1)
          (text ++ "\x7b" ++ newLine (level + 1) ++ quoted name ++ ": ") value) rest ++
        newLine level ++ "\x7d"

def appendPrettyItems (level : Nat) (text : String) : List Json → String
  | [] => text
  | item :: rest =>
      appendPrettyItems level (appendPretty level (text ++ "," ++ newLine level) item) rest

def appendPrettyEntries (level : Nat) (text : String) : List (String × Json) → String
  | [] => text
  | (name, value) :: rest =>
      appendPrettyEntries level
        (appendPretty level (text ++ "," ++ newLine level ++ quoted name ++ ": ") value) rest

end

def pretty (json : Json) : String :=
  appendPretty 0 "" json

end Callsite.Json

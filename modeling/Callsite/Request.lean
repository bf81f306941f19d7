import Callsite.Direction
import Callsite.Json.Basic
import Callsite.Path

set_option autoImplicit false

/-! Requests for navigation, as records. Bounds that a request leaves open are those of the
settings. -/

namespace Callsite

namespace Direction

def toJson (direction : Direction) : Json :=
  .string direction.label

/-- Reads a label, or an object whose only entry is a label with the value null. -/
def ofJson? : Json → Option Direction
  | .string label => ofLabel? label
  | .object [(label, .null)] => ofLabel? label
  | _ => none

end Direction

namespace Path

def toJson (path : Path) : Json :=
  .string path.text

def ofJson? (json : Json) : Option Path :=
  json.string?.map Path.mk

end Path

structure TraceRequest where
  functionName : String
  path : Path
  direction : Option Direction := none
  maxDepth : Option Nat := none
  /-- The languages to search, by name or alias; with none named, all. -/
  languages : List String := []
  includeExternal : Option Bool := none
  timeoutMs : Option Nat := none
  deriving DecidableEq, Repr

namespace TraceRequest

def fieldNames : List String :=
  ["function_name", "path", "direction", "max_depth", "languages", "include_external", "timeout_ms"]

def ofJson? (json : Json) : Option TraceRequest := do
  let fields : Fields ← json.record? fieldNames
  some {
    functionName := ← fields.require "function_name" Json.string?
    path := ← fields.require "path" Path.ofJson?
    direction := ← fields.getOr "direction" none (Json.nullable Direction.ofJson?)
    maxDepth := ← fields.getOr "max_depth" none (Json.nullable Json.natural?)
    languages := ← fields.getOr "languages" [] Json.strings?
    includeExternal := ← fields.getOr "include_external" none (Json.nullable Json.bool?)
    timeoutMs := ← fields.getOr "timeout_ms" none (Json.nullable Json.natural?) }

def toJson (request : TraceRequest) : Json :=
  .object [
    ("function_name", .string request.functionName),
    ("path", request.path.toJson),
    ("direction", .ofOption Direction.toJson request.direction),
    ("max_depth", .ofOption .natural request.maxDepth),
    ("languages", .ofStrings request.languages),
    ("include_external", .ofOption .bool request.includeExternal),
    ("timeout_ms", .ofOption .natural request.timeoutMs)]

end TraceRequest

structure FindRequest where
  functionName : String
  path : Path
  languages : List String := []
  deriving DecidableEq, Repr

namespace FindRequest

def ofJson? (json : Json) : Option FindRequest := do
  let fields : Fields ← json.record? ["function_name", "path", "languages"]
  some {
    functionName := ← fields.require "function_name" Json.string?
    path := ← fields.require "path" Path.ofJson?
    languages := ← fields.getOr "languages" [] Json.strings? }

def toJson (request : FindRequest) : Json :=
  .object [
    ("function_name", .string request.functionName),
    ("path", request.path.toJson),
    ("languages", .ofStrings request.languages)]

end FindRequest

/-- Asks for the scopes of a line, counted from 1. -/
structure ScopeRequest where
  file : Path
  line : Nat
  language : Option String := none
  deriving DecidableEq, Repr

namespace ScopeRequest

def ofJson? (json : Json) : Option ScopeRequest := do
  let fields : Fields ← json.record? ["file", "line", "language"]
  some {
    file := ← fields.require "file" Path.ofJson?
    line := ← fields.require "line" Json.natural?
    language := ← fields.getOr "language" none (Json.nullable Json.string?) }

def toJson (request : ScopeRequest) : Json :=
  .object [
    ("file", request.file.toJson),
    ("line", .natural request.line),
    ("language", .ofOption .string request.language)]

end ScopeRequest

end Callsite

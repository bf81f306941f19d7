import Callsite.CallNode
import Callsite.Request
import Callsite.Scope
import Callsite.Timestamp

set_option autoImplicit false

/-! Reports, the answers to requests, as records. -/

namespace Callsite

namespace Scope

def toJson (scope : Scope) : Json :=
  .object [
    ("name", .string scope.name),
    ("line", .natural scope.line),
    ("kind", .string scope.kind.label),
    ("abstract_declaration", .bool scope.abstractDeclaration)]

end Scope

/-- The answer to a trace. Without a root, the function has no definition. -/
structure TraceReport where
  functionName : String
  searchPath : Path
  direction : Direction
  maxDepth : Nat
  totalNodes : Nat
  timestamp : Timestamp
  elapsedMs : Nat
  /-- The time budget ran out before the tree was complete. -/
  truncated : Bool
  root : Option CallNode
  deriving Repr

namespace TraceReport

def outcomeEntries : Option CallNode → List (String × Json)
  | some root => [("status", .string "found"), ("root", root.toJson)]
  | none => [("status", .string "not_found")]

def toJson (report : TraceReport) : Json :=
  .object <| [
    ("function_name", .string report.functionName),
    ("search_path", report.searchPath.toJson),
    ("direction", report.direction.toJson),
    ("max_depth", .natural report.maxDepth),
    ("total_nodes", .natural report.totalNodes),
    ("timestamp", .string report.timestamp.render),
    ("elapsed_ms", .natural report.elapsedMs),
    ("truncated", .bool report.truncated)] ++ outcomeEntries report.root

/-- Reads the outcome. The status may also be the position of its label. -/
def outcome? (fields : Fields) : Option (Option CallNode) := do
  match ← fields.lookup "status" with
  | .string "found" | .natural 0 => do some (some (← fields.require "root" CallNode.ofJson?))
  | .string "not_found" | .natural 1 => some none
  | _ => none

/-- Reads a report from an object. Its outcome has no fixed number of entries, so an array of fields
is no report. -/
def ofJson? : Json → Option TraceReport
  | .object entries => do
      let fields : Fields := entries
      some {
        functionName := ← fields.require "function_name" Json.string?
        searchPath := ← fields.require "search_path" Path.ofJson?
        direction := ← fields.require "direction" Direction.ofJson?
        maxDepth := ← fields.require "max_depth" Json.natural?
        totalNodes := ← fields.require "total_nodes" Json.natural?
        timestamp := ← fields.require "timestamp" fun json => json.string?.bind Timestamp.parse?
        elapsedMs := ← fields.require "elapsed_ms" Json.natural?
        truncated := ← fields.require "truncated" Json.bool?
        root := ← outcome? fields }
  | _ => none

end TraceReport

structure FindReport where
  functionName : String
  searchPath : Path
  timestamp : Timestamp
  definition : Option CallNode
  deriving Repr

def FindReport.toJson (report : FindReport) : Json :=
  .object [
    ("function_name", .string report.functionName),
    ("search_path", report.searchPath.toJson),
    ("timestamp", .string report.timestamp.render),
    ("definition", .ofOption CallNode.toJson report.definition)]

structure ScopeReport where
  file : Path
  line : Nat
  language : String
  function : Option Scope
  type : Option Scope
  scope : Option Scope
  deriving DecidableEq, Repr

def ScopeReport.toJson (report : ScopeReport) : Json :=
  .object [
    ("file", report.file.toJson),
    ("line", .natural report.line),
    ("language", .string report.language),
    ("function", .ofOption Scope.toJson report.function),
    ("class", .ofOption Scope.toJson report.type),
    ("scope", .ofOption Scope.toJson report.scope)]

structure LanguageSummary where
  language : String
  aliases : List String
  extensions : List String
  blockStyle : String
  deriving DecidableEq, Repr

namespace LanguageSummary

def toJson (summary : LanguageSummary) : Json :=
  .object [
    ("language", .string summary.language),
    ("aliases", .ofStrings summary.aliases),
    ("extensions", .ofStrings summary.extensions),
    ("block_style", .string summary.blockStyle)]

def ofJson? (json : Json) : Option LanguageSummary := do
  let fields : Fields ← json.record? ["language", "aliases", "extensions", "block_style"]
  some {
    language := ← fields.require "language" Json.string?
    aliases := ← fields.require "aliases" Json.strings?
    extensions := ← fields.require "extensions" Json.strings?
    blockStyle := ← fields.require "block_style" Json.string? }

end LanguageSummary

end Callsite

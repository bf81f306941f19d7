import Callsite.Json.Basic
import Callsite.Path

set_option autoImplicit false

/-! Call trees. A node is a function found in the corpus with the functions that call it and the
functions it calls, each again a node. -/

namespace Callsite

structure CallNode where
  functionName : String
  filePath : Path
  /-- The line of the definition, counted from 1. -/
  line : Nat
  signature : String
  language : String
  abstractDeclaration : Bool := false
  depth : Nat := 0
  callers : List CallNode := []
  callees : List CallNode := []
  deriving Repr, BEq

namespace CallNode

def externalPath : Path :=
  ⟨"external"⟩

/-- Stands in for a called function that the corpus does not define. -/
def placeholder (functionName : String) (depth : Nat) : CallNode where
  functionName := functionName
  filePath := externalPath
  line := 0
  signature := ""
  language := "unknown"
  depth := depth

def isExternal (node : CallNode) : Bool :=
  node.line = 0 && node.filePath.same externalPath

def atDepth (node : CallNode) (depth : Nat) : CallNode :=
  { node with depth := depth, callers := [], callees := [] }

def displayName (node : CallNode) : String :=
  if node.isExternal then node.functionName ++ " (external)"
  else node.functionName ++ " (" ++ node.filePath.text ++ ":" ++ toString node.line ++ ")"

mutual

def size : CallNode → Nat
  | ⟨_, _, _, _, _, _, _, callers, callees⟩ => 1 + sizes callers + sizes callees

def sizes : List CallNode → Nat
  | [] => 0
  | node :: rest => size node + sizes rest

end

mutual

def deepest : CallNode → Nat
  | ⟨_, _, _, _, _, _, depth, callers, callees⟩ =>
      max depth (max (deepestOf callers) (deepestOf callees))

def deepestOf : List CallNode → Nat
  | [] => 0
  | node :: rest => max (deepest node) (deepestOf rest)

end

mutual

/-- The nodes of a tree: each node before its callers, and those before its callees. -/
def walk : CallNode → List CallNode
  | ⟨name, path, line, signature, language, isAbstract, depth, callers, callees⟩ =>
      ⟨name, path, line, signature, language, isAbstract, depth, callers, callees⟩ ::
        (walks callers ++ walks callees)

def walks : List CallNode → List CallNode
  | [] => []
  | node :: rest => walk node ++ walks rest

end

def fieldNames : List String :=
  ["function_name", "file_path", "line", "signature", "language", "abstract_declaration", "depth",
   "callers", "callees"]

mutual

def toJson : CallNode → Json
  | ⟨name, path, line, signature, language, isAbstract, depth, callers, callees⟩ =>
      .object <|
        [("function_name", .string name), ("file_path", .string path.text),
         ("line", .natural line), ("signature", .string signature),
         ("language", .string language)] ++
        (if isAbstract then [("abstract_declaration", .bool true)] else []) ++
        [("depth", .natural depth), ("callers", .array (toJsons callers)),
         ("callees", .array (toJsons callees))]

def toJsons : List CallNode → List Json
  | [] => []
  | node :: rest => toJson node :: toJsons rest

end

def ownFields? (json : Json) : Option CallNode := do
  let fields : Fields ← json.record? fieldNames
  some {
    functionName := ← fields.require "function_name" Json.string?
    filePath := ⟨← fields.require "file_path" Json.string?⟩
    line := ← fields.require "line" Json.natural?
    signature := ← fields.require "signature" Json.string?
    language := ← fields.require "language" Json.string?
    abstractDeclaration := ← fields.getOr "abstract_declaration" false Json.bool?
    depth := ← fields.require "depth" Json.natural? }

mutual

def ofJson? : Json → Option CallNode
  | .object entries => do
      let own ← ownFields? (.object entries)
      let callers ← ofEntry? "callers" entries
      let callees ← ofEntry? "callees" entries
      some { own with callers := callers, callees := callees }
  | .array items => do
      let own ← ownFields? (.array items)
      let callers ← ofItem? 7 items
      let callees ← ofItem? 8 items
      some { own with callers := callers, callees := callees }
  | _ => none

def ofJsons? : List Json → Option (List CallNode)
  | [] => some []
  | json :: rest => do
      let node ← ofJson? json
      let nodes ← ofJsons? rest
      some (node :: nodes)

def ofEntry? (key : String) : List (String × Json) → Option (List CallNode)
  | [] => none
  | (name, json) :: rest =>
      if key = name then
        match json with
        | .array items => ofJsons? items
        | _ => none
      else ofEntry? key rest

def ofItem? (index : Nat) : List Json → Option (List CallNode)
  | [] => none
  | json :: rest =>
      match index, json with
      | 0, .array items => ofJsons? items
      | 0, _ => none
      | index + 1, _ => ofItem? index rest

end

end CallNode

end Callsite

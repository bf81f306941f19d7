import Callsite.Language.Shipped.Shared

set_option autoImplicit false

/-! The shipped tables of the scripting languages. -/

namespace Callsite.Shipped

def scriptKeywords : List String :=
    ["if", "else", "for", "while", "do", "switch", "case", "return", "function", "catch", "try",
     "finally", "throw", "new", "delete", "typeof", "instanceof", "void", "await", "yield", "in",
     "of", "class", "super", "this", "import", "export", "with"]

def scriptBuiltins : List String :=
    ["console", "log", "error", "warn", "info", "debug", "require", "setTimeout", "setInterval",
     "clearTimeout", "clearInterval", "parseInt", "parseFloat", "isNaN", "String", "Number",
     "Boolean", "Array", "Object", "Promise", "Symbol", "Date", "Error", "JSON", "stringify",
     "parse", "push", "pop", "shift", "unshift", "slice", "splice", "map", "filter", "reduce",
     "forEach", "find", "some", "every", "includes", "indexOf", "join", "split", "then",
     "resolve", "reject", "keys", "values", "entries", "assign", "toString", "fetch", "bind",
     "call", "apply"]

def javascript : LanguageTable where
  name := "javascript"
  aliases := ["js", "jsx", "node"]
  extensions := ["js", "jsx", "mjs", "cjs"]
  declarations := [
    declares r"^\s*(?:export\s+)?(?:default\s+)?(?:async\s+)?function\s*\*?\s*({name})\s*\(",
    declares r"^\s*(?:export\s+)?(?:const|let|var)\s+({name})\s*=\s*(?:async\s+)?(?:function\b|\([^)]*\)\s*=>|[A-Za-z_$][\w$]*\s*=>)",
    declares r"^\s*({name})\s*:\s*(?:async\s+)?(?:function\b|\([^)]*\)\s*=>)",
    declares "^\\s*(?:static\\s+)?(?:async\\s+)?(?:get\\s+|set\\s+)?\\*?({name})\\s*\\([^)]*\\)\\s*\\\x7b"]
  typeOpeners := [
    declares r"^\s*(?:export\s+)?(?:default\s+)?class\s+({name})\b"]
  calls := callTemplates
  keywords := scriptKeywords
  builtins := scriptBuiltins
  commentPrefixes := slashComments

def typescript : LanguageTable where
  name := "typescript"
  aliases := ["ts", "tsx"]
  extensions := ["ts", "tsx", "mts", "cts"]
  declarations := [
    declaresAbstract r"^\s*(?:(?:public|protected|private|static|readonly|override)\s+)*abstract\s+(?:(?:public|protected|private|static|readonly|override|async)\s+)*({name})\s*(?:<[^>]*>)?\s*\(",
    declares r"^\s*(?:export\s+)?(?:declare\s+)?(?:default\s+)?(?:async\s+)?function\s*\*?\s*({name})\s*(?:<[^>]*>)?\s*\(",
    declares r"^\s*(?:export\s+)?(?:const|let|var)\s+({name})\s*(?::[^=]+)?=\s*(?:async\s+)?(?:function\b|(?:<[^>]*>)?\s*\([^)]*\)\s*(?::[^=]+)?=>|[A-Za-z_$][\w$]*\s*=>)",
    declares r"^\s*({name})\s*:\s*(?:async\s+)?(?:function\b|\([^)]*\)\s*=>)",
    declares "^\\s*(?:(?:public|protected|private|static|readonly|override|async|get|set)\\s+)*\\*?({name})\\s*(?:<[^>]*>)?\\s*\\([^)]*\\)\\s*(?::\\s*[^\x7b;]+)?\\\x7b"]
  typeOpeners := [
    declaresAbstract r"^\s*(?:export\s+)?(?:default\s+)?abstract\s+class\s+({name})\b",
    declares r"^\s*(?:export\s+)?(?:default\s+)?class\s+({name})\b",
    declares r"^\s*(?:export\s+)?(?:declare\s+)?(?:interface|enum|namespace)\s+({name})\b"]
  calls := callTemplates
  keywords := scriptKeywords
  builtins := scriptBuiltins
  commentPrefixes := slashComments

def python : LanguageTable where
  name := "python"
  aliases := ["py", "python3"]
  extensions := ["py", "pyi", "pyw"]
  declarations := [
    declares r"^\s*(?:async\s+)?def\s+({name})\s*\("]
  typeOpeners := [
    declares r"^\s*class\s+({name})\b"]
  calls := callTemplates
  keywords :=
    ["if", "elif", "else", "for", "while", "return", "def", "class", "lambda", "not", "and", "or",
     "in", "is", "with", "as", "assert", "del", "except", "raise", "yield", "await", "import",
     "from", "pass", "global", "nonlocal"]
  builtins :=
    ["print", "len", "range", "str", "int", "float", "bool", "list", "dict", "set", "tuple",
     "isinstance", "issubclass", "hasattr", "getattr", "setattr", "super", "open", "enumerate",
     "zip", "map", "filter", "sorted", "reversed", "min", "max", "sum", "abs", "any", "all",
     "type", "repr", "format", "append", "extend", "items", "keys", "values", "get", "join",
     "split", "strip", "startswith", "endswith", "replace"]
  commentPrefixes := ["#"]
  blockStyle := .indentation

def ruby : LanguageTable where
  name := "ruby"
  aliases := ["rb"]
  extensions := ["rb", "rake"]
  declarations := [
    declares r"^\s*def\s+(?:self\.)?({name})\b"]
  typeOpeners := [
    declares r"^\s*(?:class|module)\s+({name})\b"]
  calls := callTemplates
  keywords :=
    ["if", "elsif", "else", "unless", "while", "until", "for", "case", "when", "return", "def",
     "class", "module", "yield", "rescue", "ensure", "and", "or", "not", "defined"]
  builtins :=
    ["puts", "print", "p", "require", "require_relative", "attr_accessor", "attr_reader", "raise",
     "lambda", "proc", "each", "map", "select", "new"]
  commentPrefixes := ["#"]
  blockStyle := .endKeyword

def php : LanguageTable where
  name := "php"
  extensions := ["php"]
  declarations := [
    declaresAbstract r"^\s*(?:(?:public|protected|private|static|final)\s+)*abstract\s+(?:(?:public|protected|private|static)\s+)*function\s+&?({name})\s*\(",
    declares r"^\s*(?:(?:public|protected|private|static|final)\s+)*function\s+&?({name})\s*\("]
  typeOpeners := [
    declaresAbstract r"^\s*(?:final\s+)?abstract\s+class\s+({name})\b",
    declares r"^\s*(?:(?:final|readonly)\s+)*(?:class|interface|trait|enum)\s+({name})\b"]
  calls := callTemplates
  keywords :=
    ["if", "elseif", "else", "for", "foreach", "while", "do", "switch", "case", "return",
     "function", "fn", "new", "try", "catch", "finally", "throw", "match", "array", "list",
     "isset", "unset", "empty", "echo", "print", "include", "require"]
  builtins :=
    ["count", "strlen", "print_r", "var_dump", "array_map", "array_filter", "array_merge",
     "in_array", "implode", "explode", "sprintf", "json_encode", "json_decode"]
  commentPrefixes := ["//", "#", "/*", "* ", "*/"]

end Callsite.Shipped

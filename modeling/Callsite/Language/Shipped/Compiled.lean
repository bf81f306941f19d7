import Callsite.Language.Shipped.Shared

set_option autoImplicit false

/-! The shipped tables of the compiled languages. -/

namespace Callsite.Shipped

def java : LanguageTable where
  name := "java"
  extensions := ["java"]
  declarations := [
    declaresAbstract r"^\s*(?:(?:public|protected|private|static|synchronized)\s+)*abstract\s+(?:(?:public|protected|private|static|synchronized)\s+)*(?:<[^>]+>\s+)?[\w<>\[\],.?]+\s+({name})\s*\(",
    declares r"^\s*(?:(?:public|protected|private|static|final|synchronized|native|default|strictfp)\s+)*(?:<[^>]+>\s+)?[\w<>\[\],.?]+\s+({name})\s*\([^;]*$",
    declares r"^\s*(?:public|protected|private)\s+({name})\s*\([^;]*$"]
  typeOpeners := [
    declaresAbstract r"^\s*(?:(?:public|protected|private|static|final|sealed)\s+)*abstract\s+(?:(?:public|protected|private|static|sealed)\s+)*class\s+({name})\b",
    declares r"^\s*(?:(?:public|protected|private|static|final|sealed|non-sealed)\s+)*(?:class|interface|enum|record|@interface)\s+({name})\b"]
  calls := callTemplates
  keywords :=
    ["if", "else", "for", "while", "do", "switch", "case", "break", "continue", "return", "try",
     "catch", "finally", "throw", "new", "this", "super", "class", "interface", "synchronized",
     "instanceof", "assert"]
  builtins :=
    ["println", "print", "printf", "format", "equals", "hashCode", "toString", "length", "size",
     "get", "put", "add", "remove", "contains", "isEmpty", "valueOf", "append", "stream",
     "collect", "of", "asList"]
  commentPrefixes := slashComments
  statementWords := typedStatementWords

def csharp : LanguageTable where
  name := "csharp"
  aliases := ["cs", "c#"]
  extensions := ["cs"]
  declarations := [
    declaresAbstract r"^\s*(?:(?:public|protected|private|internal|static|new|unsafe)\s+)*abstract\s+(?:(?:public|protected|private|internal|static|override|new|unsafe)\s+)*[\w<>\[\],.?]+\s+({name})\s*(?:<[^>]*>)?\s*\(",
    declares r"^\s*(?:(?:public|protected|private|internal|static|virtual|override|sealed|async|extern|unsafe|new|partial|readonly)\s+)*[\w<>\[\],.?]+\s+({name})\s*(?:<[^>]*>)?\s*\([^)]*\)\s*=>",
    declares r"^\s*(?:(?:public|protected|private|internal|static|virtual|override|sealed|async|extern|unsafe|new|partial|readonly)\s+)*[\w<>\[\],.?]+\s+({name})\s*(?:<[^>]*>)?\s*\([^;]*$",
    declares r"^\s*(?:public|protected|private|internal)\s+({name})\s*\([^;]*$"]
  typeOpeners := [
    declaresAbstract r"^\s*(?:(?:public|protected|private|internal|static|sealed|partial)\s+)*abstract\s+(?:(?:public|protected|private|internal|partial)\s+)*class\s+({name})\b",
    declares r"^\s*(?:(?:public|protected|private|internal|static|sealed|partial|readonly|ref)\s+)*(?:class|interface|struct|enum|record)\s+({name})\b",
    declares r"^\s*namespace\s+({name})\b"]
  calls := callTemplates
  keywords :=
    ["if", "else", "for", "foreach", "while", "do", "switch", "case", "return", "try", "catch",
     "finally", "throw", "new", "this", "base", "using", "lock", "fixed", "typeof", "sizeof",
     "nameof", "default", "await", "is", "as", "when"]
  builtins :=
    ["WriteLine", "Write", "ReadLine", "ToString", "Equals", "GetHashCode", "GetType", "Add",
     "Remove", "Contains", "Count", "Any", "Select", "Where", "ToList", "First", "FirstOrDefault",
     "Format", "Parse", "TryParse"]
  commentPrefixes := slashComments
  statementWords := typedStatementWords

def go : LanguageTable where
  name := "go"
  aliases := ["golang"]
  extensions := ["go"]
  declarations := [
    declares r"^\s*func\s+({name})\s*[\[(]",
    declares r"^\s*func\s*\([^)]*\)\s*({name})\s*[\[(]"]
  typeOpeners := [
    declares r"^\s*type\s+({name})\s+(?:struct|interface)\b"]
  calls := callTemplates
  keywords :=
    ["if", "else", "for", "switch", "case", "select", "return", "func", "go", "defer", "range",
     "chan", "map", "struct", "interface", "type", "var", "const"]
  builtins :=
    ["make", "len", "cap", "append", "new", "panic", "recover", "copy", "delete", "close",
     "print", "println", "Println", "Printf", "Sprintf", "Errorf", "Error", "String"]
  commentPrefixes := slashComments

def rust : LanguageTable where
  name := "rust"
  aliases := ["rs"]
  extensions := ["rs"]
  declarations := [
    declaresAbstract "^\\s*(?:pub(?:\\([^)]*\\))?\\s+)?(?:(?:const|async|unsafe|default)\\s+)*(?:extern\\s+\"[^\"]*\"\\s+)?fn\\s+({name})\\b[^\x7b]*;\\s*$",
    declares "^\\s*(?:pub(?:\\([^)]*\\))?\\s+)?(?:(?:const|async|unsafe|default)\\s+)*(?:extern\\s+\"[^\"]*\"\\s+)?fn\\s+({name})\\s*[<(]"]
  typeOpeners := [
    declares r"^\s*(?:pub(?:\([^)]*\))?\s+)?(?:unsafe\s+)?(?:struct|enum|trait|union)\s+({name})\b",
    declares r"^\s*(?:unsafe\s+)?impl(?:<[^>]*>)?\s+(?:[\w:<>, ]+\s+for\s+)?({name})\b",
    declares r"^\s*(?:pub(?:\([^)]*\))?\s+)?mod\s+({name})\b"]
  calls := callTemplates
  keywords :=
    ["if", "else", "for", "while", "loop", "match", "let", "mut", "fn", "struct", "enum", "impl",
     "trait", "mod", "use", "pub", "return", "break", "continue", "in", "as", "where", "move",
     "ref", "unsafe", "async", "await", "dyn"]
  builtins :=
    ["Some", "None", "Ok", "Err", "Box", "Vec", "String", "new", "default", "clone", "to_string",
     "to_owned", "into", "from", "unwrap", "expect", "unwrap_or", "iter", "map", "collect",
     "push", "len", "is_empty", "as_str", "as_ref", "get", "insert"]
  commentPrefixes := slashComments

def cpp : LanguageTable where
  name := "cpp"
  aliases := ["c", "c++", "cxx", "cc"]
  extensions := ["c", "h", "cc", "cpp", "cxx", "hpp", "hh", "hxx"]
  declarations := [
    declaresAbstract r"^\s*virtual\s+[^;(]*?\b({name})\s*\([^;]*\)\s*(?:const\s*)?(?:override\s*)?=\s*0\s*;",
    declares r"^\s*(?:template\s*<[^>]*>\s*)?(?:[\w:*&<>,~]+\s+)+[*&]*(?:\w+::)*({name})\s*\([^;]*$",
    declares r"^\s*(?:\w+::)+({name})\s*\([^;]*$"]
  typeOpeners := [
    declares r"^\s*(?:typedef\s+)?(?:class|struct|union|namespace|enum(?:\s+class)?)\s+({name})\b"]
  calls := callTemplates
  keywords :=
    ["if", "else", "for", "while", "do", "switch", "case", "return", "sizeof", "alignof",
     "decltype", "typeid", "new", "delete", "throw", "catch", "try", "static_cast",
     "dynamic_cast", "reinterpret_cast", "const_cast", "defined"]
  builtins :=
    ["printf", "fprintf", "sprintf", "snprintf", "malloc", "calloc", "realloc", "free", "memcpy",
     "memset", "memmove", "strlen", "strcmp", "strcpy", "assert", "exit", "push_back", "size",
     "begin", "end"]
  commentPrefixes := slashComments
  statementWords := typedStatementWords

end Callsite.Shipped

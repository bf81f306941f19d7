import Callsite.Language.Shipped.Compiled
import Callsite.Language.Shipped.Scripting

set_option autoImplicit false

/-! The shipped language tables, and the generic one for languages without a table: there a name with
arguments that opens a line and does not end in a semicolon is a declaration, unless a statement word
leads it. -/

namespace Callsite.Shipped

def generic : LanguageTable where
  name := "generic"
  declarations := [
    declares r"^\s*(?:[\w$]+\s+)*({name})\s*\([^;]*$"]
  typeOpeners := [
    declares r"^\s*(?:class|struct|interface|module|namespace|object|trait)\s+({name})\b"]
  calls := callTemplates
  keywords :=
    ["if", "else", "elif", "for", "foreach", "while", "do", "switch", "case", "match", "return",
     "catch", "function", "func", "def", "fn", "fun", "new", "sizeof", "typeof"]
  commentPrefixes := ["//", "#", "--", ";", "/*", "* ", "*/"]
  statementWords := typedStatementWords

def tables : List LanguageTable :=
  [javascript, typescript, python, java, csharp, go, rust, cpp, ruby, php]

end Callsite.Shipped

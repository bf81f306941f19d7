import Callsite.Language.Table

set_option autoImplicit false

/-! What several of the shipped language tables share. -/

namespace Callsite.Shipped

def declares (pattern : String) : RuleTemplate :=
  ⟨pattern, .declaration, 1⟩

def declaresAbstract (pattern : String) : RuleTemplate :=
  ⟨pattern, .abstractDeclaration, 1⟩

def callTemplates : List RuleTemplate := [
  ⟨r"\b({name})\s*\(", .call, 1⟩,
  ⟨r"[\w$]\s*\.\s*({name})\s*\(", .call, 1⟩]

/-- Statement words of the typed languages, whose method rules alone cannot tell a declaration
`int compute(` from a use `return compute(`. -/
def typedStatementWords : List String :=
    ["return", "new", "throw", "else", "case", "await", "yield", "delete", "goto", "co_return",
     "co_await", "co_yield", "sizeof", "typeof", "nameof"]

def slashComments : List String :=
  ["//", "/*", "* ", "*/"]

end Callsite.Shipped

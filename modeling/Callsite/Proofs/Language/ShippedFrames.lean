import Callsite.Proofs.Language.Specialised
import Callsite.Proofs.Pattern.Modifiers

set_option autoImplicit false
set_option maxRecDepth 8000

/-! The frames of the shipped rules. Every rule for functions in the shipped tables has a frame that begins
with a line; the two rules for calls, which all tables share, look anywhere. -/

namespace Callsite

open Pattern

namespace Pattern

def oneOf (marks : List Char) : CharSet :=
  marks.foldl (fun set c => .union set (.single c)) .nothing

def noneOf (marks : List Char) : CharSet :=
  .complement (oneOf marks)

def wordAnd (marks : List Char) : CharSet :=
  marks.foldl (fun set c => .union set (.single c)) (.union .nothing (.named .wordPart))

def typeName : List Pattern :=
  [repeated true (chars (wordAnd ['<', '>', '[', ']', ',', '.', '?'])), gap]

def typeParameters : Pattern :=
  optional true (sequence
    [chars (.single '<'), repeated true (chars (noneOf ['>'])), chars (.single '>'), gap])

def typeArguments : Pattern :=
  optional true (sequence
    [chars (.single '<'), anyNumber true (chars (noneOf ['>'])), chars (.single '>')])

/-- A parenthesis, and no semicolon after it. -/
def unfinishedLine : List Pattern :=
  [blanks, chars (.single '('), anyNumber true (chars (noneOf [';'])), look .textEnd]

def parenthesized : List Pattern :=
  [chars (.single '('), anyNumber true (chars (noneOf [')'])), chars (.single ')')]

end Pattern

namespace Shipped

/-! ### Java -/

def javaAbstractWords : List String :=
  ["public", "protected", "private", "static", "synchronized"]

def javaAbstract : Frame where
  front := abstractLine javaAbstractWords (modifiers javaAbstractWords :: typeParameters :: typeName)
  back := [blanks, chars (.single '(')]

def javaMethod : Frame where
  front := modifiedLine ["public", "protected", "private", "static", "final", "synchronized", "native",
    "default", "strictfp"] (typeParameters :: typeName)
  back := unfinishedLine

def javaConstructor : Frame where
  front := [look .textStart, blanks, anyOf ["public", "protected", "private"], gap]
  back := unfinishedLine

/-! ### C# -/

def csharpAbstractWords : List String :=
  ["public", "protected", "private", "internal", "static", "new", "unsafe"]

/-- The words between `abstract` and the type of a method. -/
def csharpInnerWords : List String :=
  ["public", "protected", "private", "internal", "static", "override", "new", "unsafe"]

def csharpWords : List String :=
  ["public", "protected", "private", "internal", "static", "virtual", "override", "sealed", "async",
   "extern", "unsafe", "new", "partial", "readonly"]

def csharpAbstract : Frame where
  front := abstractLine csharpAbstractWords (modifiers csharpInnerWords :: typeName)
  back := [blanks, typeArguments, blanks, chars (.single '(')]

def csharpArrow : Frame where
  front := modifiedLine csharpWords typeName
  back := blanks :: typeArguments :: blanks :: (parenthesized ++ (blanks :: spelled "=>"))

def csharpMethod : Frame where
  front := modifiedLine csharpWords typeName
  back := blanks :: typeArguments :: unfinishedLine

def csharpConstructor : Frame where
  front := [look .textStart, blanks, anyOf ["public", "protected", "private", "internal"], gap]
  back := unfinishedLine

/-! ### Rust -/

def rustWords : List String :=
  ["const", "async", "unsafe", "default"]

def rustFront : List Pattern :=
  [look .textStart, blanks,
    optional true (sequence (spelled "pub" ++ [optional true (sequence parenthesized), gap])),
    modifiers rustWords,
    optional true (sequence (spelled "extern" ++
      [gap, chars (.single '"'), anyNumber true (chars (noneOf ['"'])), chars (.single '"'), gap]))] ++
    (spelled "fn" ++ [gap])

def rustSignature : Frame where
  front := rustFront
  back := [look (.wordBoundary false), anyNumber true (chars (noneOf ['\x7b'])), chars (.single ';'), blanks,
    look .textEnd]

def rustFunction : Frame where
  front := rustFront
  back := [blanks, chars (oneOf ['<', '('])]

/-! ### C++ -/

def cppVirtual : Frame where
  front := look .textStart :: blanks :: (spelled "virtual" ++
    [gap, anyNumber false (chars (noneOf [';', '('])), look (.wordBoundary false)])
  back := [blanks, chars (.single '('), anyNumber true (chars (noneOf [';'])), chars (.single ')'), blanks,
    optional true (sequence (spelled "const" ++ [blanks])),
    optional true (sequence (spelled "override" ++ [blanks])),
    chars (.single '='), blanks, chars (.single '0'), blanks, chars (.single ';')]

def cppScopes : Pattern :=
  sequence (repeated true (chars (.named .wordPart)) :: spelled "::")

def cppFunction : Frame where
  front := [look .textStart, blanks,
    optional true (sequence (spelled "template" ++ [blanks, chars (.single '<'),
      anyNumber true (chars (noneOf ['>'])), chars (.single '>'), blanks])),
    repeated true (seq (repeated true (chars (wordAnd [':', '*', '&', '<', '>', ',', '~']))) gap),
    anyNumber true (chars (oneOf ['*', '&'])), anyNumber true cppScopes]
  back := unfinishedLine

def cppMember : Frame where
  front := [look .textStart, blanks, repeated true cppScopes]
  back := unfinishedLine

/-! ### JavaScript and TypeScript -/

def functionFront : List Pattern :=
  spelled "function" ++ [blanks, optional true (chars (.single '*')), blanks]

def functionWord : Pattern :=
  sequence (spelled "function" ++ [look (.wordBoundary false)])

def arrow : List Pattern :=
  blanks :: spelled "=>"

/-- The parameter of an arrow function that is not in parentheses. -/
def bareArrow : Pattern :=
  sequence (chars identifierStart :: anyNumber true (chars (wordAnd ['$'])) :: arrow)

def javascriptFunction : Frame where
  front := look .textStart :: blanks :: optionalWord "export" :: optionalWord "default" ::
    optionalWord "async" :: functionFront
  back := [blanks, chars (.single '(')]

def javascriptArrow : Frame where
  front := [look .textStart, blanks, optionalWord "export", anyOf ["const", "let", "var"], gap]
  back := [blanks, chars (.single '='), blanks, optionalWord "async",
    choice [functionWord, sequence (parenthesized ++ arrow), bareArrow]]

def scriptProperty : Frame where
  front := [look .textStart, blanks]
  back := [blanks, chars (.single ':'), blanks, optionalWord "async",
    choice [functionWord, sequence (parenthesized ++ arrow)]]

def javascriptMethod : Frame where
  front := [look .textStart, blanks, optionalWord "static", optionalWord "async",
    optional true (choice [sequence (spelled "get" ++ [gap]), sequence (spelled "set" ++ [gap])]),
    optional true (chars (.single '*'))]
  back := blanks :: (parenthesized ++ [blanks, chars (.single '\x7b')])

def typescriptAbstractWords : List String :=
  ["public", "protected", "private", "static", "readonly", "override"]

def typescriptAbstract : Frame where
  front := abstractLine typescriptAbstractWords
    [modifiers ["public", "protected", "private", "static", "readonly", "override", "async"]]
  back := [blanks, typeArguments, blanks, chars (.single '(')]

def typescriptFunction : Frame where
  front := look .textStart :: blanks :: optionalWord "export" :: optionalWord "declare" ::
    optionalWord "default" :: optionalWord "async" :: functionFront
  back := [blanks, typeArguments, blanks, chars (.single '(')]

def typeNote : Pattern :=
  optional true (sequence [chars (.single ':'), repeated true (chars (noneOf ['=']))])

def typescriptArrow : Frame where
  front := [look .textStart, blanks, optionalWord "export", anyOf ["const", "let", "var"], gap]
  back := [blanks, typeNote, chars (.single '='), blanks, optionalWord "async",
    choice [functionWord,
      sequence (typeArguments :: blanks :: (parenthesized ++ (blanks :: typeNote :: spelled "=>"))), bareArrow]]

def typescriptMethod : Frame where
  front := modifiedLine ["public", "protected", "private", "static", "readonly", "override", "async", "get",
    "set"] [optional true (chars (.single '*'))]
  back := blanks :: typeArguments :: blanks :: (parenthesized ++ [blanks,
    optional true (sequence [chars (.single ':'), blanks, repeated true (chars (noneOf ['\x7b', ';']))]),
    chars (.single '\x7b')])

/-! ### PHP -/

def phpAbstractWords : List String :=
  ["public", "protected", "private", "static", "final"]

def phpAbstract : Frame where
  front := abstractLine phpAbstractWords
    (modifiers ["public", "protected", "private", "static"] :: (spelled "function" ++
      [gap, optional true (chars (.single '&'))]))
  back := [blanks, chars (.single '(')]

def phpFunction : Frame where
  front := modifiedLine phpAbstractWords (spelled "function" ++ [gap, optional true (chars (.single '&'))])
  back := [blanks, chars (.single '(')]

/-! ### Other languages -/

def pythonFunction : Frame where
  front := look .textStart :: blanks :: optionalWord "async" :: (spelled "def" ++ [gap])
  back := [blanks, chars (.single '(')]

def goFunction : Frame where
  front := look .textStart :: blanks :: (spelled "func" ++ [gap])
  back := [blanks, chars (oneOf ['[', '('])]

def goMethod : Frame where
  front := look .textStart :: blanks :: (spelled "func" ++ (blanks :: (parenthesized ++ [blanks])))
  back := [blanks, chars (oneOf ['[', '('])]

def rubyMethod : Frame where
  front := look .textStart :: blanks :: (spelled "def" ++ [gap, optional true (sequence (spelled "self."))])
  back := [look (.wordBoundary false)]

def genericFunction : Frame where
  front := [look .textStart, blanks, anyNumber true (seq (repeated true (chars (wordAnd ['$']))) gap)]
  back := unfinishedLine

/-! ### Calls -/

def plainCall : Frame where
  front := [look (.wordBoundary false)]
  back := [blanks, chars (.single '(')]

def memberCall : Frame where
  front := [chars (.union (.union .nothing (.named .wordPart)) (.single '$')), blanks,
    chars (.single '.'), blanks]
  back := [blanks, chars (.single '(')]

end Shipped

/-- The templates stand for the frames, one by one, and all frames begin with a line. -/
def FramedAll (templates : List RuleTemplate) (frames : List Frame) : Prop :=
  List.Forall₂ (fun template frame => template.FramedBy frame ∧ frame.Anchored) templates frames

variable {templates : List RuleTemplate} {frames : List Frame}

/-- What holds of all frames holds of the frame of each rule that is made from the templates. -/
theorem FramedAll.exists_rules {holds : Frame → Prop} (framed : FramedAll templates frames)
    (each : ∀ frame ∈ frames, holds frame) (target : Option String) :
    ∃ rules, compileAll templates target = .ok rules ∧ ∀ rule ∈ rules, ∃ frame,
      rule.Fills frame (slotBody target) ∧ frame.Anchored ∧ holds frame := by
  induction framed with
  | nil => exact ⟨[], rfl, nofun⟩
  | cons first _ ih =>
      obtain ⟨framed, anchored⟩ := first
      obtain ⟨here, later⟩ := List.forall_mem_cons.mp each
      obtain ⟨rule, compiled, fills, _⟩ := framed.compile target
      obtain ⟨rules, compiledRest, fillRest⟩ := ih later
      exact ⟨rule :: rules, compileAll_cons compiled compiledRest,
        List.forall_mem_cons.mpr ⟨⟨_, fills, anchored, here⟩, fillRest⟩⟩

theorem FramedAll.framedBy (framed : FramedAll templates frames) :
    List.Forall₂ RuleTemplate.FramedBy templates frames :=
  framed.imp fun _ _ both => both.1

theorem FramedAll.slotted (framed : FramedAll templates frames) : ∀ template ∈ templates, template.Slotted :=
  slotted_of_framed framed.framedBy

theorem FramedAll.rulesOf_eq (framed : FramedAll templates frames) :
    rulesOf templates = framedRules templates frames none :=
  Callsite.rulesOf_eq (compileAll_eq_of_framed framed.framedBy none)

/-! ### Reading the templates

Each is read by computation: the text ahead of the slot first, then the text behind it around a group of any
body, which is the frame. -/

namespace Shipped

open RuleTemplate (reads_of)

theorem java_framed : FramedAll java.declarations [javaAbstract, javaMethod, javaConstructor] := by
  iterate 3 refine .cons ⟨⟨rfl, reads_of rfl rfl (fun _ => rfl) (fun _ => rfl) rfl
    (fun _ _ => rfl) (fun _ _ => rfl) rfl fun _ _ => rfl⟩, rfl⟩ ?_
  exact .nil

theorem csharp_framed : FramedAll csharp.declarations
    [csharpAbstract, csharpArrow, csharpMethod, csharpConstructor] := by
  iterate 4 refine .cons ⟨⟨rfl, reads_of rfl rfl (fun _ => rfl) (fun _ => rfl) rfl
    (fun _ _ => rfl) (fun _ _ => rfl) rfl fun _ _ => rfl⟩, rfl⟩ ?_
  exact .nil

theorem rust_framed : FramedAll rust.declarations [rustSignature, rustFunction] := by
  iterate 2 refine .cons ⟨⟨rfl, reads_of rfl rfl (fun _ => rfl) (fun _ => rfl) rfl
    (fun _ _ => rfl) (fun _ _ => rfl) rfl fun _ _ => rfl⟩, rfl⟩ ?_
  exact .nil

theorem cpp_framed : FramedAll cpp.declarations [cppVirtual, cppFunction, cppMember] := by
  iterate 3 refine .cons ⟨⟨rfl, reads_of rfl rfl (fun _ => rfl) (fun _ => rfl) rfl
    (fun _ _ => rfl) (fun _ _ => rfl) rfl fun _ _ => rfl⟩, rfl⟩ ?_
  exact .nil

theorem javascript_framed : FramedAll javascript.declarations
    [javascriptFunction, javascriptArrow, scriptProperty, javascriptMethod] := by
  iterate 4 refine .cons ⟨⟨rfl, reads_of rfl rfl (fun _ => rfl) (fun _ => rfl) rfl
    (fun _ _ => rfl) (fun _ _ => rfl) rfl fun _ _ => rfl⟩, rfl⟩ ?_
  exact .nil

theorem typescript_framed : FramedAll typescript.declarations
    [typescriptAbstract, typescriptFunction, typescriptArrow, scriptProperty, typescriptMethod] := by
  iterate 2 refine .cons ⟨⟨rfl, reads_of rfl rfl (fun _ => rfl) (fun _ => rfl) rfl
    (fun _ _ => rfl) (fun _ _ => rfl) rfl fun _ _ => rfl⟩, rfl⟩ ?_
  -- The template of arrow functions is read into normal form first: comparing it unread is slow.
  refine .cons ⟨⟨rfl, reads_of rfl rfl (fun _ => rfl) (fun _ => rfl) rfl
    (fun _ _ => by conv_lhs => cbv) (fun _ _ => by rfl) rfl fun _ _ => by rfl⟩, rfl⟩ ?_
  iterate 2 refine .cons ⟨⟨rfl, reads_of rfl rfl (fun _ => rfl) (fun _ => rfl) rfl
    (fun _ _ => rfl) (fun _ _ => rfl) rfl fun _ _ => rfl⟩, rfl⟩ ?_
  exact .nil

theorem php_framed : FramedAll php.declarations [phpAbstract, phpFunction] := by
  iterate 2 refine .cons ⟨⟨rfl, reads_of rfl rfl (fun _ => rfl) (fun _ => rfl) rfl
    (fun _ _ => rfl) (fun _ _ => rfl) rfl fun _ _ => rfl⟩, rfl⟩ ?_
  exact .nil

theorem python_framed : FramedAll python.declarations [pythonFunction] := by
  refine .cons ⟨⟨rfl, reads_of rfl rfl (fun _ => rfl) (fun _ => rfl) rfl
    (fun _ _ => rfl) (fun _ _ => rfl) rfl fun _ _ => rfl⟩, rfl⟩ ?_
  exact .nil

theorem go_framed : FramedAll go.declarations [goFunction, goMethod] := by
  iterate 2 refine .cons ⟨⟨rfl, reads_of rfl rfl (fun _ => rfl) (fun _ => rfl) rfl
    (fun _ _ => rfl) (fun _ _ => rfl) rfl fun _ _ => rfl⟩, rfl⟩ ?_
  exact .nil

theorem ruby_framed : FramedAll ruby.declarations [rubyMethod] := by
  refine .cons ⟨⟨rfl, reads_of rfl rfl (fun _ => rfl) (fun _ => rfl) rfl
    (fun _ _ => rfl) (fun _ _ => rfl) rfl fun _ _ => rfl⟩, rfl⟩ ?_
  exact .nil

theorem generic_framed : FramedAll generic.declarations [genericFunction] := by
  refine .cons ⟨⟨rfl, reads_of rfl rfl (fun _ => rfl) (fun _ => rfl) rfl
    (fun _ _ => rfl) (fun _ _ => rfl) rfl fun _ _ => rfl⟩, rfl⟩ ?_
  exact .nil

theorem callTemplates_framed : List.Forall₂ RuleTemplate.FramedBy callTemplates [plainCall, memberCall] := by
  iterate 2 refine .cons ⟨rfl, reads_of rfl rfl (fun _ => rfl) (fun _ => rfl) rfl
    (fun _ _ => rfl) (fun _ _ => rfl) rfl fun _ _ => rfl⟩ ?_
  exact .nil

end Shipped

theorem FramedAll.rulesFor_eq {table : LanguageTable} (framed : FramedAll table.declarations frames)
    (calls : table.calls = Shipped.callTemplates) (target : String) :
    table.language.rulesFor target = .ok ⟨framedRules table.declarations frames (some target),
      framedRules Shipped.callTemplates [Shipped.plainCall, Shipped.memberCall] (some target),
      table.statementWords⟩ := by
  have declared := compileAll_eq_of_framed framed.framedBy (some target)
  have called := compileAll_eq_of_framed Shipped.callTemplates_framed (some target)
  rw [← calls] at called ⊢
  show (compileAll table.declarations (some target) >>= fun declarations =>
    compileAll table.calls (some target) >>= fun calls =>
      .ok (⟨declarations, calls, table.statementWords⟩ : TargetRules)) = _
  rw [declared, called]
  rfl

end Callsite

import Callsite.Proofs.Language.CallSites
import Callsite.Proofs.Language.FindableScopes
import Callsite.Proofs.Language.Offers
import Callsite.Proofs.Language.Tokens
import Callsite.Proofs.Pattern.Edges

set_option autoImplicit false
set_option maxRecDepth 8000

/-! Lines that open a method in C#. With any number of the modifiers that the rules know, they find such a line,
and find the name in one place only: in front of the one parenthesis that opens. Of the modifiers one begins
statements too, and a line with it declares nothing. -/

namespace Callsite

open Pattern Text

/-- A line that opens a method: modifiers, a type, a name and parameters. -/
structure MethodLine where
  modifiers : List String
  type : String
  name : String
  parameters : String
  known : ∀ word ∈ modifiers, word ∈ Shipped.csharpWords
  typed : type ≠ ""
  /-- The type is written in the characters that the rules take for one. -/
  typeParts : ∀ c ∈ type.toList, (wordAnd ['<', '>', '[', ']', ',', '.', '?']).has c = true
  /-- No word of the type begins statements. -/
  typeWords : ∀ word ∈ Shipped.csharp.statementWords, word.toList ∉ tokens type.toList
  named : isIdentifier name.toList = true
  inner : ∀ c ∈ parameters.toList, c ∉ ['(', ')', ';']

namespace MethodLine

variable (method : MethodLine)

def lead : String :=
  String.join (method.modifiers.map (· ++ " ")) ++ method.type ++ " "

def text : String :=
  method.lead ++ method.name ++ "(" ++ method.parameters ++ ") \x7b"

def tail : List Char :=
  method.parameters.toList ++ [')', ' ', '\x7b']

theorem toList_text : method.text.toList = method.lead.toList ++ (method.name.toList ++ '(' :: method.tail) := by
  simp [text, tail]

theorem toList_lead : method.lead.toList =
    (String.join (method.modifiers.map (· ++ " "))).toList ++ (method.type.toList ++ [' ']) := by
  simp [lead]

end MethodLine

/-! ### Modifiers -/

theorem toList_join_cons (word : String) (modifiers : List String) (rest : List Char) :
    (String.join ((word :: modifiers).map (· ++ " "))).toList ++ rest =
      word.toList ++ ' ' :: ((String.join (modifiers.map (· ++ " "))).toList ++ rest) := by
  simp [String.join_cons]

theorem led_of_join {words modifiers : List String} (known : ∀ word ∈ modifiers, word ∈ words) (rest : List Char) :
    Led words rest ((String.join (modifiers.map (· ++ " "))).toList ++ rest) := by
  induction modifiers with
  | nil => exact .here
  | cons word modifiers ih =>
      obtain ⟨here, later⟩ := List.forall_mem_cons.mp known
      have spaced : Gap [' '] := ⟨List.cons_ne_nil _ _, by decide⟩
      rw [toList_join_cons]
      exact .word here spaced (ih later)

theorem tokens_join {modifiers : List String} (parts : ∀ word ∈ modifiers, ∀ c ∈ word.toList, isTokenPart c = true)
    (rest : List Char) : tokens ((String.join (modifiers.map (· ++ " "))).toList ++ rest) =
      modifiers.map String.toList ++ tokens rest := by
  induction modifiers with
  | nil => rfl
  | cons word modifiers ih =>
      obtain ⟨here, later⟩ := List.forall_mem_cons.mp parts
      rw [toList_join_cons, tokens_append_cons (by decide), tokens_of_parts here, ih later]
      rfl

namespace MethodLine

variable (method : MethodLine)

theorem mem_tokens_lead_iff {word : String} (filled : word ≠ "") :
    word.toList ∈ tokens method.lead.toList ↔
      word ∈ method.modifiers ∨ word.toList ∈ tokens method.type.toList := by
  have identifiers : Identifiers Shipped.csharpWords := by decide
  have parts : ∀ word ∈ method.modifiers, ∀ c ∈ word.toList, isTokenPart c = true := fun word member c inWord =>
    isTokenPart_of_identifierPart
      ((identifierPart_of_isIdentifier (identifiers word (method.known word member))).2 c inWord)
  have none : word.toList ≠ [] := fun empty => filled (String.toList_eq_nil_iff.mp empty)
  have last : tokens (method.type.toList ++ [' ']) = tokens method.type.toList ++ [[]] :=
    tokens_append_cons (by decide) _ []
  rw [toList_lead, tokens_join parts, last, List.mem_append, List.mem_append, List.mem_singleton, or_iff_left none,
    List.mem_map]
  simp only [String.toList_inj, exists_eq_right]

/-- A statement word leads the name if it is among the modifiers, and `new` is the only one that can be. -/
theorem precededByWord_iff :
    precededByWord method.text method.lead.utf8ByteSize Shipped.csharp.statementWords = true ↔
      "new" ∈ method.modifiers := by
  rw [utf8ByteSize_eq, Callsite.precededByWord_iff method.toList_text]
  have filled : ∀ word ∈ Shipped.csharp.statementWords, word ≠ "" := by decide
  have both : ∀ word ∈ Shipped.csharp.statementWords, word ∈ Shipped.csharpWords → word = "new" := by decide
  constructor
  · rintro ⟨word, listed, member⟩
    rcases (method.mem_tokens_lead_iff (filled word listed)).mp member with modifier | inType
    · exact both word listed (method.known word modifier) ▸ modifier
    · exact absurd inType (method.typeWords word listed)
  · intro modifier
    have listed : "new" ∈ Shipped.csharp.statementWords := by decide
    exact ⟨"new", listed, (method.mem_tokens_lead_iff (filled _ listed)).mpr (.inl modifier)⟩

/-! ### The parenthesis -/

theorem notMem_lead : '(' ∉ method.lead.toList := by
  rw [toList_lead, List.mem_append, List.mem_append]
  rintro (inModifiers | inType | space)
  · have words : ∀ word ∈ Shipped.csharpWords, '(' ∉ word.toList := by decide
    rw [String.toList_join, List.mem_flatMap] at inModifiers
    obtain ⟨_, member, inWord⟩ := inModifiers
    obtain ⟨word, modifier, rfl⟩ := List.mem_map.mp member
    rw [String.toList_append, List.mem_append] at inWord
    rcases inWord with inWord | space
    · exact words word (method.known word modifier) inWord
    · exact absurd space (by decide)
  · have part := method.typeParts _ inType
    exact absurd part (by decide +kernel)
  · exact absurd space (by decide)

theorem notMem_name : '(' ∉ method.name.toList := by
  intro member
  have part := (identifierPart_of_isIdentifier method.named).2 _ member
  exact absurd part (by decide)

theorem notMem_tail {c : Char} (mark : c ∈ ['(', ';']) : c ∉ method.tail := by
  intro member
  rcases List.mem_append.mp member with inside | last
  · refine method.inner c inside ?_
    rcases List.mem_cons.mp mark with rfl | mark
    · decide
    · rw [List.mem_singleton.mp mark]
      decide
  · rcases List.mem_cons.mp mark with rfl | mark
    · exact absurd last (by decide)
    · rw [List.mem_singleton.mp mark] at last
      exact absurd last (by decide)

end MethodLine

/-- Behind the name the rule asks for a parenthesis, and for nothing that a name could end with in between. -/
def Frame.MeetsParen (frame : Frame) : Prop :=
  ∃ pieces more, frame.back = pieces ++ chars (.single '(') :: more ∧ Nameless (sequence pieces).lasts

namespace Rule.Fills

variable {rule : Rule} {frame : Frame} {name line : String} {hit : Hit}

theorem start_of_paren (fills : rule.Fills frame (literals name.toList)) (anchored : frame.Anchored)
    (meets : frame.MeetsParen) (shape : isIdentifier name.toList = true) {lead tail : List Char}
    (whole : line.toList = lead ++ (name.toList ++ '(' :: tail)) (none : '(' ∉ lead ++ name.toList)
    (noneTail : '(' ∉ tail) (hits : rule.find? line = some hit) : hit.start = byteLength lead := by
  obtain ⟨pieces, more, back, nameless⟩ := meets
  obtain ⟨before, after, rest, split, start, _, behind⟩ := fills.exists_before anchored (groups_literals _) hits
  rw [(fills.hit_eq anchored hits).1] at split
  rw [back] at behind
  obtain ⟨middle, inner, later⟩ := behind.sequence_append
  obtain ⟨last, paren, _⟩ := later.sequence_cons
  obtain ⟨between, rfl, _⟩ := inner.exists_borders
  rw [paren.single] at inner split
  have same : (lead ++ name.toList) ++ '(' :: tail = (before ++ name.toList ++ between) ++ '(' :: last := by
    simp only [List.append_assoc]
    rw [← whole, split]
  obtain ⟨ends, _⟩ := (List.append_cons_inj_of_notMem none noneTail).mp same
  have nothing : between = [] := by
    by_contra some
    obtain ⟨filled, parts⟩ := identifierPart_of_isIdentifier shape
    have last := List.getLast?_eq_some_getLast some
    have part := parts _ (List.mem_of_getLast? ((getLast?_eq_of_append_eq ends filled some).trans last))
    rw [inner.notPart_last nameless _ last] at part
    contradiction
  rw [nothing, List.append_nil] at ends
  rw [start, List.append_cancel_right ends]

theorem exists_reads_of_find? (fills : rule.Fills frame (literals name.toList)) (anchored : frame.Anchored)
    (shape : isIdentifier name.toList = true) (hits : rule.find? line = some hit) :
    ∃ after, frame.Reads line.toList name.toList after := by
  obtain ⟨ahead, called, behind, _, passes, _⟩ := fills.exists_passes_of_find? anchored (groups_literals _) hits
  obtain ⟨passes, same⟩ := (Frame.passes_literals_iff shape).mp passes
  exact ⟨_, same ▸ passes.reads⟩

end Rule.Fills

theorem MethodLine.start_of_find? (method : MethodLine) {rule : Rule} {frame : Frame} {hit : Hit}
    (fills : rule.Fills frame (literals method.name.toList)) (anchored : frame.Anchored) (meets : frame.MeetsParen)
    (hits : rule.find? method.text = some hit) : hit.start = method.lead.utf8ByteSize := by
  have none : '(' ∉ method.lead.toList ++ method.name.toList := by
    rw [List.mem_append, not_or]
    exact ⟨method.notMem_lead, method.notMem_name⟩
  rw [utf8ByteSize_eq]
  have noneTail : '(' ∉ method.tail := method.notMem_tail (by decide)
  exact fills.start_of_paren anchored meets method.named method.toList_text none noneTail hits

namespace Shipped

/-! ### The rules -/

theorem csharp_meetParen :
    ∀ frame ∈ [csharpAbstract, csharpArrow, csharpMethod, csharpConstructor], frame.MeetsParen := by
  simp only [List.forall_mem_cons]
  have arguments : Nameless (sequence [blanks, typeArguments, blanks]).lasts := by decide
  exact ⟨⟨_, _, rfl, arguments⟩, ⟨_, _, rfl, arguments⟩, ⟨_, _, rfl, arguments⟩,
    ⟨[blanks], _, rfl, by decide⟩, List.forall_mem_nil _⟩

variable {method : MethodLine} {rule : Rule} {hit : Hit}

theorem led_methodLine (method : MethodLine) (rest : List Char) :
    Led csharpWords (method.type.toList ++ ([' '] ++ rest)) (method.lead.toList ++ rest) := by
  have whole : method.lead.toList ++ rest = (String.join (method.modifiers.map (· ++ " "))).toList ++
      (method.type.toList ++ ([' '] ++ rest)) := by
    rw [method.toList_lead]
    simp only [List.append_assoc]
  rw [whole]
  exact led_of_join method.known _

theorem gap_space : Gap [' '] :=
  ⟨List.cons_ne_nil _ _, by decide⟩

theorem filled_type (method : MethodLine) : method.type.toList ≠ [] :=
  fun none => method.typed (String.toList_eq_nil_iff.mp none)

theorem typed_methodLine (method : MethodLine) :
    Typed csharpWords method.text.toList (method.name.toList ++ '(' :: method.tail) := by
  have solid : Solid method.type.toList := solid_of_typeParts (filled_type method) method.typeParts
  exact ⟨_, _, solid, gap_space, [], _, method.toList_text, nofun, led_methodLine method _⟩

theorem find?_csharpAbstract (fills : rule.Fills csharpAbstract (literals method.name.toList)) :
    rule.find? method.text = none := by
  rw [Option.eq_none_iff_forall_ne_some]
  intro hit hits
  obtain ⟨after, reads⟩ := fills.exists_reads_of_find? rfl method.named hits
  have stopped : Stopped ['('] ('(' :: method.tail) :=
    ⟨[], '(', method.tail, rfl, nofun, List.mem_singleton_self _⟩
  exact not_typed_of_csharpAbstract (by decide) method.named stopped reads (typed_methodLine method)

theorem offers_lead (method : MethodLine) (rest : List Char) :
    (sequence (blanks :: modifiers csharpWords :: typeName)).Offers method.lead.toList rest := by
  obtain ⟨run, split, modifiers⟩ := Offers.modifiers (by decide) (led_methodLine method rest)
  have type : (sequence typeName).Offers (method.type.toList ++ ([' '] ++ [])) rest :=
    (Offers.repeated_chars (filled_type method) method.typeParts).sequence_cons
      ((Offers.gap gap_space).sequence_cons .sequence_nil)
  have regroup : method.type.toList ++ ([' '] ++ rest) = (method.type.toList ++ ([' '] ++ [])) ++ rest := by
    simp only [List.append_assoc, List.nil_append]
  rw [regroup, ← List.append_assoc] at split
  rw [regroup] at modifiers
  have nothing : Blanks [] := nofun
  rw [List.append_cancel_right split]
  exact (Offers.blanks nothing).sequence_cons (modifiers.sequence_cons type)

theorem exists_hit_csharpMethod (fills : rule.Fills csharpMethod (literals method.name.toList)) :
    ∃ hit, rule.find? method.text = some hit := by
  have noSemicolon : ';' ∉ method.tail := method.notMem_tail (by decide)
  have nothing : Blanks [] := nofun
  have behind : (sequence csharpMethod.back).Offers ('(' :: method.tail) [] :=
    (Offers.blanks nothing).sequence_cons
      (Offers.optional_none.sequence_cons (Offers.unfinishedLine nothing noSemicolon))
  have whole : method.text.toList = method.lead.toList ++ (method.name.toList ++ ('(' :: method.tail ++ [])) := by
    rw [method.toList_text, List.append_nil]
  exact fills.exists_hit (groups_literals _) rfl whole (offers_lead method _) (.literals _) behind

/-- The rules for a name, of which the first finds declarations without a body. -/
theorem exists_csharp_rules (target : String) :
    ∃ first second third fourth : Rule, compileAll csharp.declarations (some target) =
        .ok [first, second, third, fourth] ∧
      first.Fills csharpAbstract (literals target.toList) ∧ third.Fills csharpMethod (literals target.toList) ∧
        ∀ rule ∈ [second, third, fourth], rule.kind = .declaration := by
  obtain ⟨frees, targets, _, compiled, paired⟩ := paired_of_framed csharp_framed target
  have four : Paired target [(.abstractDeclaration, csharpAbstract), (.declaration, csharpArrow),
      (.declaration, csharpMethod), (.declaration, csharpConstructor)] frees targets := paired
  cases four with
  | cons _ first _ _ _ rest =>
      cases rest with
      | cons _ second _ kindSecond _ rest =>
          cases rest with
          | cons _ third _ kindThird _ rest =>
              cases rest with
              | cons _ fourth _ kindFourth _ rest =>
                  cases rest
                  refine ⟨_, _, _, _, compiled, first, third, ?_⟩
                  simp only [List.forall_mem_cons]
                  exact ⟨kindSecond, kindThird, kindFourth, List.forall_mem_nil _⟩

variable {rules : List Rule}

/-- The rules find the name in one place, so a statement word leads all that they find or nothing of it. -/
theorem place_of_find? (compiled : compileAll csharp.declarations (some method.name) = .ok rules)
    (member : rule ∈ rules) (hits : rule.find? method.text = some hit) :
    hit.name = method.name ∧ hit.start = method.lead.utf8ByteSize := by
  obtain ⟨_, compiledToo, each⟩ := csharp_framed.exists_rules csharp_meetParen (some method.name)
  cases Except.ok.inj (compiled.symm.trans compiledToo)
  obtain ⟨frame, fills, anchored, meets⟩ := each rule member
  exact ⟨(fills.hit_eq anchored hits).1, method.start_of_find? fills anchored meets hits⟩

theorem exists_firstDeclaration_of_plain
    (compiled : compileAll csharp.declarations (some method.name) = .ok rules) (plain : "new" ∉ method.modifiers) :
    ∃ hit, firstDeclaration rules method.text csharp.statementWords = some hit ∧ hit.name = method.name ∧
      hit.start = method.lead.utf8ByteSize ∧ hit.kind = .declaration := by
  obtain ⟨first, second, third, fourth, compiledToo, fillsFirst, fillsThird, kinds⟩ :=
    exists_csharp_rules method.name
  have same := Except.ok.inj (compiled.symm.trans compiledToo)
  have unled : precededByWord method.text method.lead.utf8ByteSize csharp.statementWords = false :=
    Bool.eq_false_of_not_eq_true fun led => plain (method.precededByWord_iff.mp led)
  have inRules : third ∈ rules := by simp [same]
  obtain ⟨some, found⟩ := exists_hit_csharpMethod fillsThird
  have declares : (firstDeclaration rules method.text csharp.statementWords).isSome := by
    rw [firstDeclaration, List.findSome?_isSome_iff]
    refine ⟨third, inRules, ?_⟩
    rw [found, Option.filter_some, (place_of_find? compiled inRules found).2, unled]
    rfl
  obtain ⟨hit, declared⟩ := Option.isSome_iff_exists.mp declares
  obtain ⟨rule, member, kept⟩ := List.exists_of_findSome?_eq_some declared
  have hits := (Option.filter_eq_some_iff.mp kept).1
  obtain ⟨named, place⟩ := place_of_find? compiled member hits
  refine ⟨hit, declared, named, place, ?_⟩
  rw [Rule.kind_of_find? hits]
  rw [same] at member
  rcases List.mem_cons.mp member with rfl | other
  · rw [find?_csharpAbstract fillsFirst] at hits
    exact absurd hits (Option.some_ne_none _).symm
  · exact kinds rule other

theorem firstDeclaration_of_new (compiled : compileAll csharp.declarations (some method.name) = .ok rules)
    (new : "new" ∈ method.modifiers) : firstDeclaration rules method.text csharp.statementWords = none := by
  rw [firstDeclaration, List.findSome?_eq_none_iff]
  intro rule member
  rw [Option.filter_eq_none_iff]
  intro hit hits
  have led : precededByWord method.text hit.start csharp.statementWords = true := by
    rw [(place_of_find? compiled member hits).2]
    exact method.precededByWord_iff.mpr new
  rw [led]
  decide

theorem exists_rulesFor_csharp (name : String) :
    ∃ declarations calls, (registry.language "csharp").rulesFor name =
        .ok ⟨declarations, calls, csharp.statementWords⟩ ∧
      compileAll csharp.declarations (some name) = .ok declarations := by
  have shipped : csharp ∈ generic :: tables := by simp [tables]
  obtain ⟨declarations, calls, compiled, compiledDeclarations, _⟩ := exists_rulesFor shipped name
  exact ⟨declarations, calls, compiled, compiledDeclarations⟩

/-- A line that opens a method declares it, where its name stands, unless `new` is among the modifiers. -/
theorem declaration?_methodLine (method : MethodLine) :
    ∃ rules, (registry.language "csharp").rulesFor method.name = .ok rules ∧
      ("new" ∉ method.modifiers → ∃ hit, rules.declaration? method.text = some hit ∧ hit.name = method.name ∧
        hit.start = method.lead.utf8ByteSize ∧ hit.kind = .declaration) ∧
      ("new" ∈ method.modifiers → rules.declaration? method.text = none) := by
  obtain ⟨declarations, calls, compiled, compiledDeclarations⟩ := exists_rulesFor_csharp method.name
  exact ⟨_, compiled, exists_firstDeclaration_of_plain compiledDeclarations,
    firstDeclaration_of_new compiledDeclarations⟩

end Shipped

/-! ### Two methods -/

namespace Awaitable

def method : MethodLine where
  modifiers := ["private", "static", "async"]
  type := "Task<int?>"
  name := "Load"
  parameters := "string path, int size"
  known := by decide
  typed := by decide
  typeParts := by decide +kernel
  typeWords := by decide +kernel
  named := by decide
  inner := by decide

theorem method_declared : method.text = "private static async Task<int?> Load(string path, int size) \x7b" ∧
    "new" ∉ method.modifiers ∧ ∃ rules hit, (Shipped.registry.language "csharp").rulesFor "Load" = .ok rules ∧
      rules.declaration? method.text = some hit ∧ hit.name = "Load" ∧ hit.start = 32 ∧
        hit.kind = .declaration := by
  obtain ⟨rules, compiled, declares, _⟩ := Shipped.declaration?_methodLine method
  have plain : "new" ∉ method.modifiers := by decide
  obtain ⟨hit, declared, named, starts, kind⟩ := declares plain
  have size : method.lead.utf8ByteSize = 32 := by decide
  exact ⟨by decide, plain, rules, hit, compiled, declared, named, starts.trans size, kind⟩

end Awaitable

namespace Hiding

/-- A method that hides an inherited one, with the modifier that says so. -/
def method : MethodLine where
  modifiers := ["public", "new"]
  type := "void"
  name := "Foo"
  parameters := ""
  known := by decide
  typed := by decide
  typeParts := by decide +kernel
  typeWords := by decide +kernel
  named := by decide
  inner := by decide

/-- The modifier `new` keeps a method from being found. -/
theorem method_undeclared : method.text = "public new void Foo() \x7b" ∧
    ∃ rules, (Shipped.registry.language "csharp").rulesFor "Foo" = .ok rules ∧
      rules.declaration? method.text = none := by
  obtain ⟨declarations, calls, compiled, compiledDeclarations⟩ := Shipped.exists_rulesFor_csharp method.name
  have new : "new" ∈ method.modifiers := by decide
  exact ⟨by decide, _, compiled, Shipped.firstDeclaration_of_new compiledDeclarations new⟩

end Hiding

end Callsite

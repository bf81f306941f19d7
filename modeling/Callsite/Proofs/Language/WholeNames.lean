import Callsite.Proofs.Language.CallSites
import Callsite.Proofs.Language.LiteralTargets
import Callsite.Proofs.Pattern.Edges

set_option autoImplicit false
set_option maxRecDepth 8000

/-! Declared names as whole identifiers. Most of the shipped rules for declarations have something on both sides
of the name that is no part of an identifier. The others leave one side to a word boundary, for which a dollar
sign is no part of a name, or do not ask for white space between a key word and the name. -/

namespace Callsite

open Pattern Text

/-! ### The two sides of a name -/

/-- Where the texts meet, just one of the two neighbours is a dollar sign. -/
def MeetAtDollar (left right : List Char) : Prop :=
  ∃ last ∈ left.getLast?, ∃ first ∈ right.head?, (last = '$' ↔ first ≠ '$')

/-- What tells a declared name from the text in front of it. -/
inductive NameStarts (language : String) (before name : List Char) : Prop where
  /-- No part of an identifier stands there. -/
  | apart : (∀ c ∈ before.getLast?, identifierPart.has c = false) → NameStarts language before name
  /-- Nothing has to stand between this key word and the name. -/
  | glued : language ∈ ["javascript", "typescript"] → "function".toList <:+ before →
      NameStarts language before name
  | dollar : language = "cpp" → MeetAtDollar before name → NameStarts language before name

/-- What tells a declared name from the text behind it. -/
inductive NameEnds (language : String) (name after : List Char) : Prop where
  | apart : (∀ c ∈ after.head?, identifierPart.has c = false) → NameEnds language name after
  | dollar : language ∈ ["rust", "ruby"] → MeetAtDollar name after → NameEnds language name after

theorem meetAtDollar_of_boundary {left right : List Char} {last first : Char} (ends : last ∈ left.getLast?)
    (begins : first ∈ right.head?) (part : identifierPart.has last = true)
    (partToo : identifierPart.has first = true)
    (boundary : Look.inWord false left.getLast? ≠ Look.inWord false right.head?) : MeetAtDollar left right := by
  refine ⟨last, ends, first, begins, (isWordPart_ne_iff part partToo).mp ?_⟩
  rw [ends, begins] at boundary
  exact boundary

theorem Pattern.holds_of_mem_front {lead : List Pattern} {condition : Look} {start : Cursor} {way : Way}
    (member : way ∈ (sequence (lead ++ [look condition])).ways start) :
    condition.holds way.stop.before way.stop.rest.head? = true := by
  rw [ways_sequence_append] at member
  obtain ⟨first, _, member⟩ := List.mem_flatMap.mp member
  obtain ⟨second, inLook, rfl⟩ := List.mem_map.mp member
  have alone : second ∈ (look condition).ways first.stop := inLook
  obtain ⟨rfl, holds⟩ := mem_ways_look_iff.mp alone
  exact holds

theorem Pattern.holds_of_mem_back {pieces : List Pattern} {condition : Look} {start : Cursor} {way : Way}
    (member : way ∈ (sequence (look condition :: pieces)).ways start) :
    condition.holds start.before start.rest.head? = true := by
  rw [ways_sequence_cons] at member
  obtain ⟨first, inLook, _⟩ := List.mem_flatMap.mp member
  exact (mem_ways_look_iff.mp inLook).2

/-! ### Frames -/

namespace Frame

/-- The front of the rule tells names from what stands in front of them. -/
def StartsNames (frame : Frame) (language : String) : Prop :=
  ∀ ⦃text before name rest : List Char⦄ ⦃ahead : Way⦄, isIdentifier name = true →
    ahead ∈ (sequence frame.front).ways (.start text) → (Cursor.start text).Reaches before ahead.stop →
      ahead.stop.rest = name ++ rest → NameStarts language before name

/-- The back of the rule tells names from what stands behind them. -/
def EndsNames (frame : Frame) (language : String) : Prop :=
  ∀ ⦃text before name : List Char⦄ ⦃stop : Cursor⦄ ⦃behind : Way⦄, isIdentifier name = true →
    (Cursor.start text).Reaches (before ++ name) stop → behind ∈ (sequence frame.back).ways stop →
      NameEnds language name stop.rest

structure Delimits (frame : Frame) (language : String) : Prop where
  starts : frame.StartsNames language
  ends : frame.EndsNames language

def ApartInFront (frame : Frame) : Prop :=
  Nameless (sequence frame.front).lasts

instance (frame : Frame) : Decidable frame.ApartInFront :=
  inferInstanceAs (Decidable (Nameless _))

/-- Something stands behind the name, and it is no part of an identifier. -/
def ApartBehind (frame : Frame) : Prop :=
  Nameless (sequence frame.back).firsts ∧ (sequence frame.back).mayBeEmpty = false

instance (frame : Frame) : Decidable frame.ApartBehind :=
  inferInstanceAs (Decidable (_ ∧ _))

variable {frame : Frame} {language : String}

theorem ApartInFront.startsNames (apart : frame.ApartInFront) : frame.StartsNames language := by
  intro text before name rest ahead _ inFront reaches _
  have takes : (sequence frame.front).Takes (before ++ ahead.stop.rest) ahead.stop.rest := by
    rw [← reaches.rest_eq]
    exact takes_of_mem inFront
  exact .apart (takes.notPart_last apart)

theorem ApartBehind.endsNames (apart : frame.ApartBehind) : frame.EndsNames language := by
  intro text before name stop behind _ _ inBack
  exact .apart ((takes_of_mem inBack).notPart_head apart.1 apart.2)

theorem startsNames_of_function (lead : List Pattern) (front : frame.front = lead ++ Shipped.functionFront)
    (script : language ∈ ["javascript", "typescript"]) : frame.StartsNames language := by
  intro text before name rest ahead _ inFront reaches _
  have takes := takes_of_mem inFront
  rw [front] at takes
  obtain ⟨middle, leading, later⟩ := takes.sequence_append
  obtain ⟨behind, split, onward⟩ := later.spelled
  obtain ⟨led, split', _⟩ := leading.exists_borders
  obtain ⟨between, split'', _⟩ := onward.exists_borders
  have whole : before = led ++ "function".toList ++ between := by
    refine reaches.eq_of_rest ?_
    rw [split', split, split'']
    simp only [List.append_assoc]
  rw [whole]
  cases between with
  | nil =>
      rw [List.append_nil]
      exact .glued script (List.suffix_append _ _)
  | cons c between =>
      have last : (led ++ "function".toList ++ c :: between).getLast? = (c :: between).getLast? :=
        List.getLast?_append_of_ne_nil _ (List.cons_ne_nil c between)
      rw [split''] at onward
      refine .apart ?_
      rw [last]
      exact onward.notPart_last (by decide)

theorem startsNames_of_boundary (lead : List Pattern)
    (front : frame.front = lead ++ [look (.wordBoundary false)]) (allowed : language = "cpp") :
    frame.StartsNames language := by
  intro text before name rest ahead shape inFront reaches split
  rw [front] at inFront
  have boundary := bne_iff_ne.mp (holds_of_mem_front inFront)
  obtain ⟨filled, parts⟩ := identifierPart_of_isIdentifier shape
  rw [reaches.before_start, split, List.head?_append_of_ne_nil _ filled] at boundary
  by_cases free : ∀ c ∈ before.getLast?, identifierPart.has c = false
  · exact .apart free
  · push Not at free
    obtain ⟨last, ends, part⟩ := free
    rw [ne_eq, Bool.not_eq_false] at part
    have begins : name.head filled ∈ name.head? := List.head?_eq_some_head filled
    exact .dollar allowed
      (meetAtDollar_of_boundary ends begins part (parts _ (List.head_mem filled)) boundary)

theorem endsNames_of_boundary {pieces : List Pattern}
    (back : frame.back = look (.wordBoundary false) :: pieces) (allowed : language ∈ ["rust", "ruby"]) :
    frame.EndsNames language := by
  intro text before name stop behind shape reaches inBack
  rw [back] at inBack
  have boundary := bne_iff_ne.mp (holds_of_mem_back inBack)
  obtain ⟨filled, parts⟩ := identifierPart_of_isIdentifier shape
  rw [reaches.before_start, List.getLast?_append_of_ne_nil _ filled] at boundary
  by_cases free : ∀ c ∈ stop.rest.head?, identifierPart.has c = false
  · exact .apart free
  · push Not at free
    obtain ⟨first, begins, part⟩ := free
    rw [ne_eq, Bool.not_eq_false] at part
    have ends : name.getLast filled ∈ name.getLast? := List.getLast?_eq_some_getLast filled
    exact .dollar allowed
      (meetAtDollar_of_boundary ends begins (parts _ (List.getLast_mem filled)) part boundary)

end Frame

/-! ### Rules -/

/-- A hit for a name that is told from what stands around it on the line. -/
structure Hit.Whole (hit : Hit) (language line name : String) : Prop where
  named : hit.name = name
  cut : ∃ before after, hit.CutsOut line before after ∧
    NameStarts language before.toList name.toList ∧ NameEnds language name.toList after.toList

theorem Rule.Fills.whole_of_find? {rule : Rule} {frame : Frame} {language line name : String}
    (fills : rule.Fills frame (literals name.toList)) (anchored : frame.Anchored)
    (delimits : frame.Delimits language) (shape : isIdentifier name.toList = true) {hit : Hit}
    (hits : rule.find? line = some hit) : hit.Whole language line name := by
  obtain ⟨ahead, called, behind, _, passes, rfl⟩ :=
    fills.exists_passes_of_find? anchored (groups_literals _) hits
  obtain ⟨before, reached, _⟩ := exists_reaches_of_mem_ways passes.inFront
  have reaches : ahead.stop.Reaches name.toList called.stop := reaches_of_mem_literals passes.inBody
  obtain ⟨more, onward, _⟩ := exists_reaches_of_mem_ways passes.inBack
  have spelled : String.ofList (ahead.stop.textUpTo called.stop) = name := by
    rw [reaches.textUpTo_eq, String.ofList_toList]
  refine ⟨spelled, String.ofList before, String.ofList called.stop.rest, ?cut, ?starts, ?ends⟩
  case cut =>
    refine Hit.cutsOut_of_reaches reached reaches onward ?_ rfl rfl
    rw [spelled]
  case starts =>
    rw [String.toList_ofList]
    exact delimits.starts shape passes.inFront reached reaches.rest_eq
  case ends =>
    rw [String.toList_ofList]
    exact delimits.ends shape (reached.trans reaches) passes.inBack

/-- All rules for declarations in the table tell names from what stands around them. -/
def LanguageTable.Delimits (table : LanguageTable) : Prop :=
  ∃ frames, FramedAll table.declarations frames ∧ ∀ frame ∈ frames, frame.Delimits table.name

namespace Shipped

/-! ### Shipped tables -/

/-- The frames with something on both sides of the name that is no part of an identifier. -/
def separateFrames : List Frame :=
  [genericFunction, javascriptArrow, scriptProperty, javascriptMethod, typescriptAbstract, typescriptArrow,
    typescriptMethod, pythonFunction, javaAbstract, javaMethod, javaConstructor, csharpAbstract, csharpArrow,
    csharpMethod, csharpConstructor, goFunction, goMethod, rustFunction, cppFunction, cppMember, phpAbstract,
    phpFunction]

theorem frames_apart :
    (∀ frame ∈ [rustSignature, rubyMethod] ++ separateFrames, frame.ApartInFront) ∧
      ∀ frame ∈ [javascriptFunction, typescriptFunction, cppVirtual] ++ separateFrames, frame.ApartBehind := by
  decide +kernel

theorem delimits_of_subset {frames : List Frame} (separate : frames ⊆ separateFrames) (language : String) :
    ∀ frame ∈ frames, frame.Delimits language := by
  intro frame member
  have place := separate member
  exact ⟨(frames_apart.1 frame (List.mem_append_right _ place)).startsNames,
    (frames_apart.2 frame (List.mem_append_right _ place)).endsNames⟩

theorem delimits_of_framed {table : LanguageTable} {frames : List Frame}
    (framed : FramedAll table.declarations frames) (separate : frames ⊆ separateFrames) : table.Delimits :=
  ⟨frames, framed, delimits_of_subset separate table.name⟩

theorem javascript_delimits : javascript.Delimits := by
  refine ⟨_, javascript_framed, List.forall_mem_cons.mpr ⟨⟨?_, ?_⟩, delimits_of_subset ?_ _⟩⟩
  · exact Frame.startsNames_of_function [look .textStart, blanks, optionalWord "export",
      optionalWord "default", optionalWord "async"] rfl (by decide)
  · exact (frames_apart.2 javascriptFunction (by simp)).endsNames
  · simp [separateFrames]

theorem typescript_delimits : typescript.Delimits := by
  have first : ∀ frame ∈ [typescriptAbstract], frame.Delimits typescript.name :=
    delimits_of_subset (by simp [separateFrames]) _
  refine ⟨_, typescript_framed, List.forall_mem_cons.mpr ⟨first _ List.mem_cons_self,
    List.forall_mem_cons.mpr ⟨⟨?_, ?_⟩, delimits_of_subset ?_ _⟩⟩⟩
  · exact Frame.startsNames_of_function [look .textStart, blanks, optionalWord "export",
      optionalWord "declare", optionalWord "default", optionalWord "async"] rfl (by decide)
  · exact (frames_apart.2 typescriptFunction (by simp)).endsNames
  · simp [separateFrames]

theorem rust_delimits : rust.Delimits := by
  refine ⟨_, rust_framed, List.forall_mem_cons.mpr ⟨⟨?_, ?_⟩, delimits_of_subset ?_ _⟩⟩
  · exact (frames_apart.1 rustSignature (by simp)).startsNames
  · exact Frame.endsNames_of_boundary rfl (by decide)
  · simp [separateFrames]

theorem cpp_delimits : cpp.Delimits := by
  refine ⟨_, cpp_framed, List.forall_mem_cons.mpr ⟨⟨?_, ?_⟩, delimits_of_subset ?_ _⟩⟩
  · exact Frame.startsNames_of_boundary (look .textStart :: blanks :: (spelled "virtual" ++
      [gap, anyNumber false (chars (noneOf [';', '(']))])) rfl rfl
  · exact (frames_apart.2 cppVirtual (by simp)).endsNames
  · simp [separateFrames]

theorem ruby_delimits : ruby.Delimits := by
  refine ⟨_, ruby_framed, List.forall_mem_singleton.mpr ⟨?_, ?_⟩⟩
  · exact (frames_apart.1 rubyMethod (by simp)).startsNames
  · exact Frame.endsNames_of_boundary rfl (by decide)

theorem tables_delimit : ∀ table ∈ generic :: tables, table.Delimits := by
  simp only [tables, List.forall_mem_cons]
  exact ⟨delimits_of_framed generic_framed (by simp [separateFrames]), javascript_delimits,
    typescript_delimits, delimits_of_framed python_framed (by simp [separateFrames]),
    delimits_of_framed java_framed (by simp [separateFrames]),
    delimits_of_framed csharp_framed (by simp [separateFrames]),
    delimits_of_framed go_framed (by simp [separateFrames]), rust_delimits, cpp_delimits, ruby_delimits,
    delimits_of_framed php_framed (by simp [separateFrames]), List.forall_mem_nil _⟩

/-- In a declaration that the rules of a language find, the name is told from the text around it. -/
def DeclaresWhole (name line : String) (language : Language) : Prop :=
  ∃ rules, language.rulesFor name = .ok rules ∧
    ∀ hit, rules.declaration? line = some hit → hit.Whole language.name line name

theorem declaresWhole {name : String} (shape : isIdentifier name.toList = true) (line : String)
    {table : LanguageTable} (member : table ∈ generic :: tables) : DeclaresWhole name line table.language := by
  obtain ⟨_, _, compiled, compiledDeclarations, _⟩ := exists_rulesFor member name
  obtain ⟨frames, framed, delimit⟩ := tables_delimit table member
  obtain ⟨declarations, compiledToo, each⟩ := framed.exists_rules delimit (some name)
  cases Except.ok.inj (compiledDeclarations.symm.trans compiledToo)
  refine ⟨_, compiled, fun hit declared => ?_⟩
  obtain ⟨rule, inRules, kept⟩ := List.exists_of_findSome?_eq_some declared
  obtain ⟨frame, fills, anchored, delimits⟩ := each rule inRules
  exact fills.whole_of_find? anchored delimits shape (Option.filter_eq_some_iff.mp kept).1

/-- What the rules of a shipped language find for a name is the name, told from the text around it. -/
theorem declaration?_whole (languageName line name : String) (shape : isIdentifier name.toList = true) :
    ∃ rules, (registry.language languageName).rulesFor name = .ok rules ∧
      ∀ hit, rules.declaration? line = some hit →
        hit.Whole (registry.language languageName).name line name := by
  have every : registry.Every (DeclaresWhole name line) :=
    registry_every fun _ member => declaresWhole shape line member
  exact every.language languageName

end Shipped

/-! ### A method, and a call that passes for a declaration -/

namespace Method

def line : String :=
  "    def area(self):"

theorem declares : ((Shipped.registry.language "python").rulesFor "area").toOption.bind
    (·.declaration? line) = some ⟨"area", 8, 13, .declaration⟩ := by
  have known : Shipped.registry.language "python" = Shipped.python.language := rfl
  -- The rules are taken from their frames, since to read the templates once more is slow.
  rw [known, Shipped.python_framed.rulesFor_eq rfl]
  decide +kernel

theorem area_whole : isIdentifier "area".toList = true ∧
    ∃ rules hit, (Shipped.registry.language "python").rulesFor "area" = .ok rules ∧
      rules.declaration? line = some hit ∧ hit.start = 8 ∧
        hit.Whole (Shipped.registry.language "python").name line "area" := by
  have shape : isIdentifier "area".toList = true := by decide
  obtain ⟨rules, compiled, whole⟩ := Shipped.declaration?_whole "python" line "area" shape
  have found := declares
  rw [compiled] at found
  exact ⟨shape, rules, _, compiled, found, rfl, whole _ found⟩

end Method

namespace Glued

def line : String :=
  "functionfoo(1)"

def hit : Hit :=
  ⟨"foo", 8, 12, .declaration⟩

theorem found : ((Shipped.javascript.declarations.head?).bind fun template =>
      (template.compile (some "foo")).toOption.bind (·.find? line)) = some hit ∧
    precededByWord line hit.start Shipped.javascript.statementWords = false := by
  decide +kernel

/-- A call passes for a declaration of the end of its name. -/
theorem end_of_name_declared : isIdentifier "foo".toList = true ∧
    ∃ rules hit before after, (Shipped.registry.language "javascript").rulesFor "foo" = .ok rules ∧
      rules.declaration? line = some hit ∧ hit.CutsOut line before after ∧
        ∃ c ∈ before.toList.getLast?, identifierPart.has c = true := by
  have shipped : Shipped.javascript ∈ Shipped.generic :: Shipped.tables :=
    List.mem_cons_of_mem _ List.mem_cons_self
  obtain ⟨_, _, compiled, compiledDeclarations, _⟩ := Shipped.exists_rulesFor shipped "foo"
  obtain ⟨first, others⟩ := List.forall_mem_cons.mp Shipped.javascript_framed.slotted
  obtain ⟨rule, compiledRule, _⟩ := first.compile (some "foo")
  obtain ⟨rules, compiledRules, _⟩ := compileAll_of_slotted others (some "foo")
  cases Except.ok.inj (compiledDeclarations.symm.trans (compileAll_cons compiledRule compiledRules))
  have finds : rule.find? line = some hit := by
    have bound : (Except.ok rule : Except PatternFault Rule).toOption.bind (·.find? line) = some hit :=
      compiledRule ▸ found.1
    exact bound
  have declared : firstDeclaration (rule :: rules) line Shipped.javascript.statementWords = some hit := by
    rw [firstDeclaration, List.findSome?_cons, finds, Option.filter_some, found.2]
    rfl
  have cut : hit.CutsOut line "function" "(1)" := ⟨by decide, by decide, by decide⟩
  exact ⟨by decide, _, hit, "function", "(1)", compiled, declared, cut, 'n', by decide, by decide⟩

end Glued

end Callsite

import Callsite.Proofs.Language.ShippedTemplates
import Callsite.Proofs.Pattern.Cover

set_option autoImplicit false

/-! Targets stand for themselves. Whatever characters a target has, a shipped template compiles with it, and a
hit of the rule has the target for a name: the target stands on the line at the byte where the hit starts, and
the match does not end before it. -/

namespace Callsite

open Pattern Text

/-! ### Bytes -/

theorem Text.utf8ByteSize_ofList (text : List Char) :
    (String.ofList text).utf8ByteSize = byteLength text := by
  induction text with
  | nil => rfl
  | cons c rest ih =>
      rw [String.ofList_cons, String.utf8ByteSize_append, String.utf8ByteSize_singleton, ih, byteLength]

theorem Text.utf8ByteSize_eq (text : String) : text.utf8ByteSize = byteLength text.toList := by
  rw [← utf8ByteSize_ofList, String.ofList_toList]

theorem Cursor.Reaches.offset_eq {cursor stop : Cursor} {consumed : List Char}
    (reaches : cursor.Reaches consumed stop) : stop.offset = cursor.offset + byteLength consumed := by
  induction reaches with
  | here => rfl
  | past _ _ ih => rw [ih, Cursor.past, byteLength, Nat.add_assoc]

/-! ### Where a capture ends -/

theorem Pattern.exists_reaches_of_mem_closes {pattern : Pattern} {cursor : Cursor} {way : Way} {index : Nat}
    (member : way ∈ pattern.ways cursor) :
    ∀ position ∈ way.closes index, ∃ rest, position.Reaches rest way.stop := by
  refine (ways_induction
    (fun cursor way => way.Moves cursor ∧
      ∀ position ∈ way.closes index, ∃ rest, position.Reaches rest way.stop)
    (fun cursor => ⟨.here cursor, nofun⟩) ?append ?past ?around member).2
  case append =>
    rintro cursor first second ⟨early, closed⟩ ⟨late, closedToo⟩
    refine ⟨early.append late, fun position inBoth => ?_⟩
    rw [Way.closes_append] at inBoth
    rcases List.mem_append.mp inBoth with inFirst | inSecond
    · obtain ⟨rest, reaches⟩ := closed position inFirst
      obtain ⟨more, onward⟩ := late
      exact ⟨rest ++ more, reaches.trans onward⟩
    · exact closedToo position inSecond
  case past => exact fun _ _ _ c _ _ split => ⟨⟨[c], .past split (.here _)⟩, nofun⟩
  case around =>
    rintro other body _ start inner _ ⟨moves, closed⟩
    refine ⟨moves, fun position inMarks => ?_⟩
    rw [Way.closes_around] at inMarks
    split at inMarks
    · rcases List.mem_append.mp inMarks with inside | last
      · exact closed position inside
      · rw [List.mem_singleton.mp last]
        exact ⟨[], .here inner.stop⟩
    · exact closed position inMarks

theorem Pattern.exists_reaches_of_group? {pattern : Pattern} {cursor start stop : Cursor} {way : Way}
    {index : Nat} (member : way ∈ pattern.ways cursor) (captured : way.group? index = some (start, stop)) :
    ∃ rest, stop.Reaches rest way.stop := by
  rw [Way.group?_eq, Option.bind_eq_some_iff] at captured
  obtain ⟨first, _, closed⟩ := captured
  obtain ⟨last, closed, same⟩ := Option.bind_eq_some_iff.mp closed
  cases same
  exact exists_reaches_of_mem_closes member stop (List.mem_of_getLast? closed)

/-! ### Names on lines -/

/-- A line with the name of a hit in it, between `before` and `after`: the name begins at the byte where the
hit starts, and the match does not end before it. -/
structure Hit.CutsOut (hit : Hit) (line before after : String) : Prop where
  whole : line = before ++ hit.name ++ after
  start : before.utf8ByteSize = hit.start
  within : hit.start + hit.name.utf8ByteSize ≤ hit.stop

theorem Hit.cutsOut_of_reaches {hit : Hit} {line : String} {before name more : List Char}
    {start stop last : Cursor} (ahead : (Cursor.start line.toList).Reaches before start)
    (reaches : start.Reaches name stop) (onward : stop.Reaches more last) (named : hit.name.toList = name)
    (starts : hit.start = start.offset) (stops : hit.stop = last.offset) :
    hit.CutsOut line (String.ofList before) (String.ofList stop.rest) := by
  subst named
  refine ⟨?_, ?_, ?_⟩
  · have whole : line.toList = before ++ start.rest := ahead.rest_eq
    rw [← String.toList_inj, String.toList_append, String.toList_append, String.toList_ofList,
      String.toList_ofList, whole, reaches.rest_eq, List.append_assoc]
  · rw [utf8ByteSize_ofList, starts, ahead.offset_eq]
    exact (Nat.zero_add _).symm
  · rw [utf8ByteSize_eq, starts, stops, ← reaches.offset_eq]
    exact onward.offset_le

namespace Rule.NamesBy

variable {rule : Rule} {inner : Pattern} (names : rule.NamesBy inner)

include names

private theorem exists_cutsOut_of_hit? {line : String} {found : Found} {hit : Hit}
    (stands : found.Stands rule.pattern line.toList) (hits : rule.hit? found = some hit) :
    ∃ before after, hit.CutsOut line before after := by
  obtain ⟨⟨start, stop⟩, captured, rfl⟩ := Option.map_eq_some_iff.mp hits
  rw [Found.group?, if_neg names.captures] at captured
  obtain ⟨⟨skipped, reached⟩, way, inWays, rfl⟩ :=
    captured_of_group? names.plain names.all stands.way captured
  obtain ⟨name, reaches, _⟩ := exists_reaches_of_mem_ways inWays
  obtain ⟨more, onward⟩ := exists_reaches_of_group? stands.way captured
  obtain ⟨before, ahead⟩ := stands.start
  have named : (String.ofList (start.textUpTo way.stop)).toList = name := by
    rw [String.toList_ofList, reaches.textUpTo_eq]
  exact ⟨_, _, Hit.cutsOut_of_reaches (ahead.trans reached) reaches onward named rfl rfl⟩

theorem exists_cutsOut {line : String} {hit : Hit}
    (hits : rule.find? line = some hit ∨ hit ∈ rule.findAll line) :
    ∃ before after, hit.CutsOut line before after := by
  rcases hits with first | listed
  · rw [Rule.find?, Rule.found?_eq, Option.bind_eq_some_iff] at first
    obtain ⟨found, finds, hits⟩ := first
    exact names.exists_cutsOut_of_hit? (stands_of_find? finds) hits
  · rw [Rule.findAll, Rule.allFound_eq] at listed
    obtain ⟨found, finds, hits⟩ := List.mem_filterMap.mp listed
    exact names.exists_cutsOut_of_hit? (stands_of_mem_findAll finds) hits

theorem namedBy {line : String} {hit : Hit} (hits : rule.find? line = some hit ∨ hit ∈ rule.findAll line) :
    hit.NamedBy inner line.toList :=
  hits.elim names.of_find? names.of_mem_findAll

end Rule.NamesBy

theorem Language.Regular.exists_declaredNameEnd? {language : Language} (regular : language.Regular)
    {target : String} {rules : TargetRules} (compiled : language.rulesFor target = .ok rules)
    {line : String} {hit : Hit} (declared : rules.declaration? line = some hit) :
    ∃ before after, line = before ++ target ++ after ∧
      rules.declaredNameEnd? line = some (before ++ target).utf8ByteSize := by
  obtain ⟨rule, names, found⟩ := regular.exists_rule_of_declaration? compiled declared
  have named : hit.name = target := (names.of_find? found).eq_of_literals
  obtain ⟨before, after, cut⟩ := names.exists_cutsOut (.inl found)
  refine ⟨before, after, named ▸ cut.whole, ?_⟩
  rw [TargetRules.declaredNameEnd?, declared, Option.map_some, String.utf8ByteSize_append, cut.start, named]

/-! ### Shipped templates -/

namespace Shipped

/-- A shipped template compiles with any target, and what its rule finds is the target, where the hit
starts. -/
theorem compile_finds_target {table : LanguageTable} (shipped : table ∈ generic :: tables)
    {template : RuleTemplate} (member : template ∈ table.templates) (target : String) :
    ∃ rule, template.compile (some target) = .ok rule ∧
      ∀ line hit, rule.find? line = some hit ∨ hit ∈ rule.findAll line →
        hit.name = target ∧ ∃ before after, hit.CutsOut line before after := by
  obtain ⟨rule, compiled, names⟩ := (templates_slotted table shipped template member).compile (some target)
  exact ⟨rule, compiled, fun line hit hits => ⟨(names.namedBy hits).eq_of_literals, names.exists_cutsOut hits⟩⟩

end Shipped

namespace Dotted

/-- A target in which a character of a pattern stands. -/
def target : String :=
  "a.b"

/-- A line with a call of the target, and a call that the target would stand for if it were a pattern. -/
def line : String :=
  "é: axb(a.b (1))"

theorem finds : ∃ template ∈ Shipped.generic.templates, template.kind = .call ∧
    ((template.compile (some target)).toOption.bind (·.find? line)) = some ⟨target, 8, 13, .call⟩ := by
  decide +kernel

/-- A call rule for a target with a dot finds the target only. -/
theorem target_found : ∃ template ∈ Shipped.generic.templates, ∃ rule : Rule,
    template.compile (some target) = .ok rule ∧ ∃ hit : Hit, rule.find? line = some hit ∧
      hit.start = 8 ∧ hit.name = target ∧ ∃ before after, hit.CutsOut line before after := by
  obtain ⟨template, member, _, first⟩ := finds
  obtain ⟨rule, compiled, literal⟩ :=
    Shipped.compile_finds_target (List.mem_cons_self (a := Shipped.generic)) member target
  rw [compiled] at first
  have hits : rule.find? line = some ⟨target, 8, 13, .call⟩ := first
  obtain ⟨named, cut⟩ := literal line _ (.inl hits)
  exact ⟨template, member, rule, compiled, _, hits, rfl, named, cut⟩

end Dotted

end Callsite

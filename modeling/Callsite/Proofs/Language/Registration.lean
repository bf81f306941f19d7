import Callsite.Proofs.Language.CanonicalNames
import Callsite.Proofs.Outcome

set_option autoImplicit false

/-! What is found again of a language right after it has been registered. Under its own name it is found
if that is a canonical name, as every trimmed name in lower case is; and so are the files with its
extensions. Under an alias it is found unless the alias is the name of another language: names come before
aliases. -/

namespace Callsite

open Text

namespace Path

theorem segments_of_notMem {text : List Char} (plain : '/' ∉ text) :
    ∀ segment, segments segment text = [segment.reverse ++ text] := by
  induction text with
  | nil => exact fun segment => congrArg (· :: []) (List.append_nil segment.reverse).symm
  | cons c rest ih =>
      intro segment
      obtain ⟨other, later⟩ := not_or.mp (mt List.mem_cons.mpr plain)
      rw [segments, if_neg (Ne.symm other), ih later, List.reverse_cons, List.append_assoc]
      rfl

theorem extension?_dotted {stem extension : List Char} (named : stem ≠ [])
    (stemSlashes : '/' ∉ stem) (dots : '.' ∉ extension) (slashes : '/' ∉ extension)
    (stays : stem ++ '.' :: extension ≠ ['.', '.']) :
    (⟨String.ofList (stem ++ '.' :: extension)⟩ : Path).extension? = some (String.ofList extension) := by
  obtain ⟨first, more, rfl⟩ := List.exists_cons_of_ne_nil named
  obtain ⟨firstSlash, moreSlashes⟩ := not_or.mp (mt List.mem_cons.mpr stemSlashes)
  have plain : '/' ∉ first :: more ++ '.' :: extension := by
    simp [firstSlash, moreSlashes, slashes]
  have part : PathPart.ofSegment (first :: more ++ '.' :: extension) =
      .name (String.ofList (first :: more ++ '.' :: extension)) := by
    rw [PathPart.ofSegment]
    exact stays
  have alone : (⟨String.ofList (first :: more ++ '.' :: extension)⟩ : Path).parts =
      [.name (String.ofList (first :: more ++ '.' :: extension))] := by
    rw [← part, parts, isAbsolute, String.toList_ofList, segments_of_notMem plain]
    simp [Ne.symm firstSlash]
  have lone : (⟨String.ofList (first :: more ++ '.' :: extension)⟩ : Path).fileName? =
      some (String.ofList (first :: more ++ '.' :: extension)) := by
    rw [fileName?, alone]
    rfl
  have reversed : (first :: more ++ '.' :: extension).reverse =
      extension.reverse ++ '.' :: (first :: more).reverse := by
    rw [List.reverse_append, List.reverse_cons, List.append_assoc]
    rfl
  have before (c : Char) (member : c ∈ extension.reverse) : decide (c ≠ '.') = true := by
    rw [decide_eq_true_eq]
    rintro rfl
    exact dots (List.mem_reverse.mp member)
  have dropped : (extension.reverse ++ '.' :: (first :: more).reverse).dropWhile (· ≠ '.') =
      '.' :: (first :: more).reverse := by
    rw [List.dropWhile_append_of_pos before, List.dropWhile_cons_of_neg (by decide)]
  have taken : (extension.reverse ++ '.' :: (first :: more).reverse).takeWhile (· ≠ '.') =
      extension.reverse := by
    rw [List.takeWhile_append_of_pos before, List.takeWhile_cons_of_neg (by decide), List.append_nil]
  obtain ⟨last, front, split⟩ := List.exists_cons_of_ne_nil
    (List.reverse_ne_nil_iff.mpr (List.cons_ne_nil first more))
  rw [extension?, lone, Option.bind_eq_bind, Option.bind_some, String.toList_ofList, reversed]
  dsimp only
  rw [dropped, taken, split, List.reverse_reverse]

end Path

theorem Language.table_of_ofTable {table : LanguageTable} {language : Language}
    (compiled : ofTable table = .ok language) : language.table = table := by
  rw [ofTable] at compiled
  obtain ⟨_, _, compiled⟩ := bind_eq_ok_iff.mp compiled
  obtain ⟨_, _, compiled⟩ := bind_eq_ok_iff.mp compiled
  obtain ⟨_, _, compiled⟩ := bind_eq_ok_iff.mp compiled
  exact congrArg Language.table (Except.ok.inj compiled).symm

namespace Registry

variable {registry : Registry} {language : Language}

theorem exists_of_register {after : Registry} {table : LanguageTable}
    (registered : registry.register table = .ok after) :
    ∃ language, Language.ofTable table = .ok language ∧ language.table = table ∧
      after = registry.add language := by
  rw [register] at registered
  cases compiled : Language.ofTable table with
  | error fault =>
      rw [compiled] at registered
      contradiction
  | ok language =>
      rw [compiled] at registered
      refine ⟨language, rfl, ?_, (Except.ok.inj registered).symm⟩
      exact Language.table_of_ofTable compiled

theorem language_add {name : String}
    (canonical : (registry.add language).canonicalName name = language.table.name) :
    (registry.add language).isRegistered name = true ∧ (registry.add language).language name = language := by
  have known : (registry.add language).languages.get? language.table.name = some language := by
    rw [add, Dictionary.get?_put, if_pos rfl]
  constructor
  · rw [isRegistered, canonical, Dictionary.contains, known]
    rfl
  · rw [Registry.language, canonical, known]
    rfl

theorem canonicalName_add_name (normal : normalName language.table.name = language.table.name) :
    (registry.add language).canonicalName language.table.name = language.table.name := by
  have known : (registry.add language).languages.contains language.table.name = true :=
    Dictionary.contains_put_iff.mpr (.inl rfl)
  rw [canonicalName_eq, normal, if_pos known]

theorem canonicalName_add_alias {other : String} (member : other ∈ language.table.aliases)
    (trimmed : trim other = other)
    (free : (registry.add language).languages.contains (lowercase other) = true →
      lowercase other = language.table.name) :
    (registry.add language).canonicalName other = language.table.name := by
  have lowered : normalName other = lowercase other := by rw [normalName, trimmed]
  have meant : (registry.add language).aliases.get? (lowercase other) = some language.table.name := by
    rw [add, Dictionary.get?_foldl_put, if_pos (List.mem_map_of_mem member)]
  rw [canonicalName_eq, lowered]
  by_cases known : (registry.add language).languages.contains (lowercase other) = true
  · rw [if_pos known, free known]
  · rw [if_neg known, meant, Option.getD_some]

theorem languageOf?_add {extension : String} (member : extension ∈ language.table.extensions)
    {path : Path} (ends : path.extension? = some extension) :
    (registry.add language).languageOf? path = some language.table.name := by
  have routed : (registry.add language).extensions.get? (lowercase extension) =
      some language.table.name := by
    rw [add, Dictionary.get?_foldl_put, if_pos (List.mem_map_of_mem member)]
  rw [languageOf?, ends, Option.bind_eq_bind, Option.bind_some, routed]

/-- Right after a table has been registered, its language is found under its name, if that is a canonical
name, and so are the files with its extensions; and it is found under its aliases, other than names of
other languages. -/
theorem found_after_register {after : Registry} {table : LanguageTable}
    (registered : registry.register table = .ok after) :
    ∃ language, Language.ofTable table = .ok language ∧
      (normalName table.name = table.name → after.canonicalName table.name = table.name) ∧
      (after.canonicalName table.name = table.name →
        after.isRegistered table.name = true ∧ after.language table.name = language ∧
          ∀ extension ∈ table.extensions, '.' ∉ extension.toList → '/' ∉ extension.toList →
            ∀ stem : String, stem ≠ "" → '/' ∉ stem.toList → stem ++ "." ++ extension ≠ ".." →
              ∃ name, after.languageOf? ⟨stem ++ "." ++ extension⟩ = some name ∧
                after.language name = language ∧
                (LanguageFilter.ofNames after [table.name]).allows name = true) ∧
      ∀ other ∈ table.aliases, trim other = other →
        (after.languages.contains (lowercase other) = true → lowercase other = table.name) →
          after.language other = language := by
  obtain ⟨language, compiled, rfl, rfl⟩ := exists_of_register registered
  refine ⟨language, compiled, canonicalName_add_name, ?_, ?_⟩
  · intro canonical
    obtain ⟨known, own⟩ := language_add canonical
    refine ⟨known, own, fun extension member dots slashes stem named stemSlashes stays => ?_⟩
    refine ⟨language.table.name, languageOf?_add member ?_, own, ?_⟩
    · have spelled : (stem ++ "." ++ extension).toList = stem.toList ++ '.' :: extension.toList := by
        simp
      have plain : stem.toList ++ '.' :: extension.toList ≠ ['.', '.'] := by
        rw [← spelled]
        exact fun same => stays (String.toList_inj.mp same)
      have ends := Path.extension?_dotted (mt String.toList_eq_nil_iff.mp named) stemSlashes dots slashes
        plain
      rw [← spelled, String.ofList_toList, String.ofList_toList] at ends
      exact ends
    · rw [LanguageFilter.allows_ofNames_iff]
      by_cases blank : isBlankText language.table.name = true
      · exact .inl (List.forall_mem_singleton.mpr blank)
      · rw [Bool.not_eq_true] at blank
        exact .inr ⟨_, List.mem_singleton_self _, blank, canonical⟩
  · intro other member trimmed free
    exact (language_add (canonicalName_add_alias member trimmed free)).2

end Registry

namespace Zig

def table : LanguageTable where
  name := "zig"
  aliases := ["ZigLang", "Z"]
  extensions := ["ZIG"]
  declarations := [Shipped.declares r"^\s*(?:pub\s+)?fn\s+({name})\s*\("]
  calls := Shipped.callTemplates

theorem registers : (Shipped.registry.register table).toOption.map (fun after =>
    after.languages.contains (lowercase "ZigLang")) = some false := by
  decide +kernel

theorem found_again :
    ∃ after language, Shipped.registry.register table = .ok after ∧ Language.ofTable table = .ok language ∧
      after.isRegistered "zig" = true ∧ after.language "zig" = language ∧
      after.language "ZigLang" = language ∧
      ∃ name, after.languageOf? ⟨"main.old.ZIG"⟩ = some name ∧ after.language name = language ∧
        (LanguageFilter.ofNames after ["zig"]).allows name = true := by
  obtain ⟨after, registered, absent⟩ := Option.map_eq_some_iff.mp registers
  have registered := eq_ok_of_toOption registered
  obtain ⟨language, compiled, normal, named, other⟩ := Registry.found_after_register registered
  have canonical : after.canonicalName "zig" = "zig" := normal (by decide +kernel)
  obtain ⟨known, own, files⟩ := named canonical
  have free : after.languages.contains (lowercase "ZigLang") = true → lowercase "ZigLang" = "zig" := by
    rw [absent]
    exact nofun
  refine ⟨after, language, registered, compiled, known, own, ?_, ?_⟩
  · exact other "ZigLang" (by decide) (by decide) free
  · exact files "ZIG" (by decide) (by decide) (by decide) "main.old" (by decide) (by decide) (by decide)

end Zig

/-! ### Names that come before others -/

namespace Pun

/-- A table that calls itself by a name with a capital letter, and by the name of another language. -/
def table : LanguageTable where
  name := "Pun"
  aliases := ["python"]

theorem lookups : (Shipped.registry.register table).toOption.map (fun after =>
    ((after.language "python").name, after.isRegistered "Pun")) = some ("python", false) := by
  decide +kernel

/-- An alias does not lead to its language if another language has it as its name, nor does a name with a
capital letter. -/
theorem not_found :
    ∃ after language, Shipped.registry.register table = .ok after ∧ Language.ofTable table = .ok language ∧
      "python" ∈ table.aliases ∧ after.language "python" ≠ language ∧
      after.isRegistered table.name = false := by
  obtain ⟨after, registered, found⟩ := Option.map_eq_some_iff.mp lookups
  have registered := eq_ok_of_toOption registered
  obtain ⟨language, compiled, own, _⟩ := Registry.exists_of_register registered
  obtain ⟨other, absent⟩ := Prod.mk.inj found
  refine ⟨after, language, registered, compiled, List.mem_cons_self, ?_, absent⟩
  rintro rfl
  rw [Language.name, own] at other
  contradiction

end Pun

end Callsite

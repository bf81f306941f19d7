import Mathlib.Data.Prod.Lex
import Mathlib.Data.String.Basic
import Mathlib.Order.Bounds.Basic
import Callsite.Proofs.Language.Calls
import Callsite.Proofs.Language.ShippedRegistry
import Callsite.Proofs.Text.JoinedLines

set_option autoImplicit false

/-! The order of the names called in a text. A name is listed at the first place where a call rule captures
it; of names with one first place the lesser one comes first. This determines the list. Names called in
lines that are joined are those called in the first lines, and then the new ones of the others, unless an
empty line calls something: a text does not have the empty line behind its last line feed. -/

namespace Callsite

open Text

/-! ### Names without repetitions -/

section

variable {κ : Type}

private theorem mem_of_other {entry : κ ×ₗ String} {rest : List (κ ×ₗ String)} {name : String}
    (other : (ofLex entry).2 ≠ name) {key : κ} (member : toLex (key, name) ∈ entry :: rest) :
    toLex (key, name) ∈ rest := by
  refine (List.mem_cons.mp member).resolve_left ?_
  rintro rfl
  exact other rfl

private theorem keys_filter {entry : κ ×ₗ String} {rest : List (κ ×ₗ String)} {name : String}
    (other : (ofLex entry).2 ≠ name) :
    {key | toLex (key, name) ∈ rest.filter fun other => !(ofLex other).2 == (ofLex entry).2} =
      {key | toLex (key, name) ∈ entry :: rest} := by
  ext key
  constructor
  · intro kept
    exact List.mem_cons_of_mem _ (List.mem_filter.mp kept).1
  · intro member
    refine List.mem_filter.mpr ⟨mem_of_other other member, ?_⟩
    rw [Bool.not_eq_true', beq_eq_false_iff_ne]
    exact Ne.symm other

variable [LinearOrder κ] {keyed : List (κ ×ₗ String)}

private theorem isLeast_head {entry : κ ×ₗ String} {rest : List (κ ×ₗ String)}
    (sorted : (entry :: rest).Pairwise (· ≤ ·)) :
    IsLeast {key | toLex (key, (ofLex entry).2) ∈ entry :: rest} (ofLex entry).1 := by
  refine ⟨List.mem_cons_self, fun key member => ?_⟩
  rcases List.mem_cons.mp member with same | later
  · rw [← same]
    exact le_refl key
  · exact Prod.Lex.monotone_fst _ _ ((List.pairwise_cons.mp sorted).1 _ later)

theorem exists_isLeast_of_sorted (sorted : keyed.Pairwise (· ≤ ·)) {name : String}
    (member : name ∈ keyed.map fun entry => (ofLex entry).2) :
    ∃ key, IsLeast {key | toLex (key, name) ∈ keyed} key := by
  induction keyed with
  | nil => contradiction
  | cons entry rest ih =>
      by_cases same : (ofLex entry).2 = name
      · subst same
        exact ⟨_, isLeast_head sorted⟩
      · have inRest : name ∈ rest.map fun entry => (ofLex entry).2 :=
          (List.mem_cons.mp member).resolve_left (Ne.symm same)
        obtain ⟨key, inKeys, least⟩ := ih (List.pairwise_cons.mp sorted).2 inRest
        exact ⟨key, List.mem_cons_of_mem _ inKeys, fun other inside => least (mem_of_other same inside)⟩

theorem pairwise_eraseDups_of_sorted : ∀ {keyed : List (κ ×ₗ String)}, keyed.Pairwise (· ≤ ·) →
    (keyed.map fun entry => (ofLex entry).2).eraseDups.Pairwise fun earlier later => ∃ first second,
      IsLeast {key | toLex (key, earlier) ∈ keyed} first ∧ IsLeast {key | toLex (key, later) ∈ keyed} second ∧
        toLex (first, earlier) < toLex (second, later)
  | [], _ => List.Pairwise.nil
  | entry :: rest, sorted => by
      have shorter : (rest.filter fun other => !(ofLex other).2 == (ofLex entry).2).length ≤ rest.length :=
        List.length_filter_le _ rest
      obtain ⟨below, sortedRest⟩ := List.pairwise_cons.mp sorted
      have others : ((rest.map fun entry => (ofLex entry).2).filter fun other => !other == (ofLex entry).2) =
          (rest.filter fun other => !(ofLex other).2 == (ofLex entry).2).map fun entry => (ofLex entry).2 :=
        List.filter_map
      have new {name : String} (member : name ∈ ((rest.filter fun other =>
          !(ofLex other).2 == (ofLex entry).2).map fun entry => (ofLex entry).2).eraseDups) :
          name ∈ (rest.map fun entry => (ofLex entry).2) ∧ (ofLex entry).2 ≠ name := by
        rw [List.mem_eraseDups, ← others, List.mem_filter, Bool.not_eq_true', beq_eq_false_iff_ne] at member
        exact ⟨member.1, Ne.symm member.2⟩
      rw [List.map_cons, List.eraseDups_cons, others, List.pairwise_cons]
      constructor
      · intro name member
        obtain ⟨inRest, different⟩ := new member
        obtain ⟨second, least⟩ := exists_isLeast_of_sorted sorted (List.mem_cons_of_mem _ inRest)
        refine ⟨(ofLex entry).1, second, isLeast_head sorted, least, ?_⟩
        have beyond := below _ (mem_of_other different least.1)
        exact lt_of_le_of_ne beyond fun same => different (congrArg (fun entry => (ofLex entry).2) same)
      · have later := pairwise_eraseDups_of_sorted
          (sortedRest.filter fun other => !(ofLex other).2 == (ofLex entry).2)
        refine later.imp_of_mem fun inNames inNamesToo before => ?_
        rwa [keys_filter (new inNames).2, keys_filter (new inNamesToo).2] at before
termination_by keyed => keyed.length

end

section

variable {α : Type} [BEq α] [LawfulBEq α]

theorem eraseDups_of_nodup : ∀ {items : List α}, items.Nodup → items.eraseDups = items
  | [], _ => rfl
  | head :: rest, nodup => by
      obtain ⟨new, nodupRest⟩ := List.nodup_cons.mp nodup
      have all : (rest.filter fun other => !other == head) = rest := by
        rw [List.filter_eq_self]
        intro other member
        have different : other ≠ head := by
          rintro rfl
          exact new member
        rw [beq_eq_false_iff_ne.mpr different]
        rfl
      rw [List.eraseDups_cons, all, eraseDups_of_nodup nodupRest]

theorem eraseDups_append_eraseDups (items more : List α) :
    (items.eraseDups ++ more.eraseDups).eraseDups = (items ++ more).eraseDups := by
  have known (item : α) : items.eraseDups.elem item = items.elem item := by
    rw [Bool.eq_iff_iff, List.elem_iff, List.elem_iff, List.mem_eraseDups]
  rw [List.eraseDups_append, List.eraseDups_append, eraseDups_of_nodup (nodup_eraseDups items)]
  simp only [List.removeAll, known]
  rw [← filter_eraseDups, eraseDups_of_nodup (nodup_eraseDups _)]

end

namespace Language

/-! ### Places of a text -/

/-- The places where a call rule captures `name`: the number of a line that is no comment, and the byte where
the name begins. Earlier lines come first. -/
def places (language : Language) (text : String) (name : String) : Set (Nat ×ₗ Nat) :=
  {place | ∃ line, (lines text)[(ofLex place).1]? = some line ∧ language.isComment line = false ∧
    ∃ rule ∈ language.callRules, ∃ hit ∈ rule.findAll line, hit.start = (ofLex place).2 ∧ hit.name = name}

/-- A list of the names called in a text, in the order of the first places where they are captured. -/
structure ListsCalls (language : Language) (text : String) (withBuiltins : Bool) (names : List String) :
    Prop where
  nodup : names.Nodup
  mem_iff : ∀ name, name ∈ names ↔ (language.places text name).Nonempty ∧ language.isKeyword name = false ∧
    (withBuiltins = true ∨ language.isBuiltin name = false)
  ordered : names.Pairwise fun earlier later => ∃ first second,
    IsLeast (language.places text earlier) first ∧ IsLeast (language.places text later) second ∧
      toLex (first, earlier) < toLex (second, later)

variable {language : Language} {text : String} {withBuiltins : Bool}

theorem ListsCalls.unique {names others : List String} (lists : language.ListsCalls text withBuiltins names)
    (listsToo : language.ListsCalls text withBuiltins others) : names = others := by
  have same : names.Perm others :=
    (List.perm_ext_iff_of_nodup lists.nodup listsToo.nodup).mpr fun name =>
      (lists.mem_iff name).trans (listsToo.mem_iff name).symm
  refine same.eq_of_pairwise ?_ lists.ordered listsToo.ordered
  rintro earlier later _ _ ⟨first, second, least, leastToo, before⟩ ⟨third, fourth, leastThird, leastFourth, after⟩
  cases least.unique leastFourth
  cases leastToo.unique leastThird
  exact absurd after (lt_asymm before)

/-! ### Captured names in the order of the text -/

def sitesOn (language : Language) (line : String) (index : Nat) : List ((Nat ×ₗ Nat) ×ₗ String) :=
  if language.isComment line then []
  else (language.callHits line).map fun hit => toLex (toLex (index, hit.start), hit.name)

/-- The names captured in a text, with their places, in the order of the text. -/
def sites (language : Language) (text : String) : List ((Nat ×ₗ Nat) ×ₗ String) :=
  (lines text).zipIdx.flatMap fun (line, index) => language.sitesOn line index

theorem mem_sitesOn {line : String} {index : Nat} {site : (Nat ×ₗ Nat) ×ₗ String} :
    site ∈ language.sitesOn line index ↔ language.isComment line = false ∧
      ∃ rule ∈ language.callRules, ∃ hit ∈ rule.findAll line,
        toLex (toLex (index, hit.start), hit.name) = site := by
  rw [sitesOn]
  split
  · rename_i comment
    simp [comment]
  · rename_i plain
    rw [List.mem_map, and_iff_right (Bool.eq_false_of_not_eq_true plain)]
    simp only [callHits, List.mem_mergeSort, List.mem_flatMap]
    constructor
    · rintro ⟨hit, ⟨rule, inRules, found⟩, same⟩
      exact ⟨rule, inRules, hit, found, same⟩
    · rintro ⟨rule, inRules, hit, found, same⟩
      exact ⟨hit, ⟨rule, inRules, found⟩, same⟩

theorem mem_sites {place : Nat ×ₗ Nat} {name : String} :
    toLex (place, name) ∈ language.sites text ↔ place ∈ language.places text name := by
  rw [sites, List.mem_flatMap]
  constructor
  · rintro ⟨⟨line, index⟩, inLines, member⟩
    obtain ⟨plain, rule, inRules, hit, found, same⟩ := mem_sitesOn.mp member
    cases same
    exact ⟨line, List.mk_mem_zipIdx_iff_getElem?.mp inLines, plain, rule, inRules, hit, found, rfl, rfl⟩
  · rintro ⟨line, here, plain, rule, inRules, hit, found, start, rfl⟩
    refine ⟨(line, (ofLex place).1), List.mk_mem_zipIdx_iff_getElem?.mpr here, ?_⟩
    refine mem_sitesOn.mpr ⟨plain, rule, inRules, hit, found, ?_⟩
    rw [start]
    rfl

theorem pairwise_callHits (line : String) :
    (language.callHits line).Pairwise fun hit other =>
      toLex (hit.start, hit.name) ≤ toLex (other.start, other.name) := by
  have sorts (hit other : Hit) :
      (decide (hit.start < other.start) ||
        (decide (hit.start = other.start) && !decide (other.name < hit.name))) = true ↔
      toLex (hit.start, hit.name) ≤ toLex (other.start, other.name) := by
    simp only [Bool.or_eq_true, Bool.and_eq_true, Bool.not_eq_true', decide_eq_true_eq,
      decide_eq_false_iff_not, not_lt, Prod.Lex.toLex_le_toLex]
  refine (List.pairwise_mergeSort ?_ ?_ _).imp fun {hit other} before => (sorts hit other).mp before
  · intro first second third before beforeToo
    rw [sorts] at before beforeToo ⊢
    exact le_trans before beforeToo
  · intro first second
    rw [Bool.or_eq_true, sorts, sorts]
    exact le_total _ _

theorem pairwise_sites : (language.sites text).Pairwise (· ≤ ·) := by
  have increasing : ((lines text).zipIdx.map Prod.snd).Pairwise (· < ·) := by
    rw [List.zipIdx_map_snd]
    exact List.pairwise_lt_range'
  refine List.pairwise_flatMap.mpr ⟨?_, (List.pairwise_map.mp increasing).imp fun below => ?_⟩
  · rintro ⟨line, index⟩ _
    dsimp only [sitesOn]
    split
    · exact List.Pairwise.nil
    · refine List.pairwise_map.mpr ((pairwise_callHits line).imp fun before => ?_)
      simpa [Prod.Lex.toLex_le_toLex, Prod.Lex.toLex_lt_toLex] using before
  · rintro first inFirst second inSecond
    obtain ⟨_, _, _, _, _, rfl⟩ := mem_sitesOn.mp inFirst
    obtain ⟨_, _, _, _, _, rfl⟩ := mem_sitesOn.mp inSecond
    exact le_of_lt (Prod.Lex.toLex_lt_toLex.mpr (.inl (Prod.Lex.toLex_lt_toLex.mpr (.inl below))))

theorem flatMap_callNames_eq :
    (lines text).flatMap language.callNames =
      ((language.sites text).map fun site => (ofLex site).2).filter fun name => !language.isKeyword name := by
  have line (item : String × Nat) : language.callNames item.1 =
      ((language.sitesOn item.1 item.2).map fun site => (ofLex site).2).filter fun name =>
        !language.isKeyword name := by
    rw [callNames, sitesOn]
    split
    · rfl
    · rw [List.map_map]
      rfl
  have numbered : (lines text).flatMap language.callNames =
      (lines text).zipIdx.flatMap fun item => language.callNames item.1 := by
    rw [← List.flatMap_map Prod.fst, List.zipIdx_map_fst]
  rw [numbered, sites, List.map_flatMap, List.filter_flatMap]
  exact List.flatMap_congr fun item _ => line item

def isListed (language : Language) (withBuiltins : Bool) (name : String) : Bool :=
  (withBuiltins || !language.isBuiltin name) && !language.isKeyword name

def listedSites (language : Language) (text : String) (withBuiltins : Bool) :
    List ((Nat ×ₗ Nat) ×ₗ String) :=
  (language.sites text).filter fun site => language.isListed withBuiltins (ofLex site).2

theorem callsIn_eq : language.callsIn text withBuiltins =
    ((language.listedSites text withBuiltins).map fun site => (ofLex site).2).eraseDups := by
  rw [callsIn, flatMap_callNames_eq, List.filter_filter, List.filter_map]
  rfl

theorem mem_listedSites {place : Nat ×ₗ Nat} {name : String} :
    toLex (place, name) ∈ language.listedSites text withBuiltins ↔
      place ∈ language.places text name ∧ language.isListed withBuiltins name = true := by
  rw [listedSites, List.mem_filter, mem_sites]
  rfl

theorem mem_callsIn {name : String} : name ∈ language.callsIn text withBuiltins ↔
    (language.places text name).Nonempty ∧ language.isListed withBuiltins name = true := by
  rw [callsIn_eq, List.mem_eraseDups, List.mem_map]
  constructor
  · rintro ⟨site, member, rfl⟩
    obtain ⟨inPlaces, listed⟩ := mem_listedSites.mp member
    exact ⟨⟨_, inPlaces⟩, listed⟩
  · rintro ⟨⟨place, inPlaces⟩, listed⟩
    exact ⟨toLex (place, name), mem_listedSites.mpr ⟨inPlaces, listed⟩, rfl⟩

theorem listedSites_eq_places {name : String} (called : name ∈ language.callsIn text withBuiltins) :
    {place | toLex (place, name) ∈ language.listedSites text withBuiltins} = language.places text name := by
  ext place
  exact mem_listedSites.trans (and_iff_left (mem_callsIn.mp called).2)

theorem listsCalls_callsIn : language.ListsCalls text withBuiltins (language.callsIn text withBuiltins) := by
  refine ⟨language.nodup_callsIn text withBuiltins, fun name => ?_, ?_⟩
  · rw [mem_callsIn, isListed, Bool.and_eq_true, Bool.or_eq_true, Bool.not_eq_true', Bool.not_eq_true',
      and_comm (a := _ ∨ _)]
  · have sorted : (language.listedSites text withBuiltins).Pairwise (· ≤ ·) := pairwise_sites.filter _
    have ordered := pairwise_eraseDups_of_sorted sorted
    rw [← callsIn_eq] at ordered
    refine ordered.imp_of_mem fun called calledToo before => ?_
    rwa [listedSites_eq_places called, listedSites_eq_places calledToo] at before

/-! ### Joined lines -/

end Language

namespace Text

theorem dropCarriageReturn_of_not_mem {line : String} (plain : '\r' ∉ line.toList) :
    dropCarriageReturn line = line := by
  rcases closeLine_eq_reverse_or line.toList.reverse with same | more
  · rw [dropCarriageReturn, same, List.reverse_reverse, String.ofList_toList]
  · rw [List.reverse_reverse] at more
    rw [more] at plain
    exact absurd (List.mem_append_right _ List.mem_cons_self) plain

/-- Lines without carriage returns come back from a text, but for an empty one at the end. -/
theorem rejoined_eq {pieces : List String} (plain : ∀ piece ∈ pieces, '\r' ∉ piece.toList) :
    rejoined pieces = pieces ∨ pieces = rejoined pieces ++ [""] := by
  induction pieces with
  | nil => exact .inl rfl
  | cons line rest ih =>
      obtain ⟨here, later⟩ := List.forall_mem_cons.mp plain
      cases rest with
      | nil =>
          rw [rejoined]
          split
          · rename_i empty
            exact .inr (by simpa using empty)
          · exact .inl rfl
      | cons next rest =>
          rw [rejoined, dropCarriageReturn_of_not_mem here]
          rcases ih later with same | more
          · exact .inl (congrArg _ same)
          · exact .inr (congrArg _ more)

theorem rejoined_append {before after : List String} (plain : ∀ piece ∈ before, '\r' ∉ piece.toList)
    (some : after ≠ []) : rejoined (before ++ after) = before ++ rejoined after := by
  induction before with
  | nil => rfl
  | cons line rest ih =>
      obtain ⟨here, later⟩ := List.forall_mem_cons.mp plain
      have more : rest ++ after ≠ [] := by simp [some]
      obtain ⟨next, others, split⟩ := List.exists_cons_of_ne_nil more
      rw [List.cons_append, split, rejoined, dropCarriageReturn_of_not_mem here, ← split, ih later]
      rfl

end Text

namespace Language

variable {language : Language} {withBuiltins : Bool} {before after : List String}

/-- The lines of two texts that are joined call what the lines of each call, unless the first text ends with
an empty line that calls something: alone, it does not have this line. -/
theorem flatMap_callNames_append (plain : ∀ line ∈ before ++ after, '\n' ∉ line.toList ∧ '\r' ∉ line.toList)
    (closed : before.getLast? = some "" → language.callNames "" = []) :
    (lines ("\n".intercalate (before ++ after))).flatMap language.callNames =
      (lines ("\n".intercalate before)).flatMap language.callNames ++
        (lines ("\n".intercalate after)).flatMap language.callNames := by
  obtain ⟨plainBefore, plainAfter⟩ := List.forall_mem_append.mp plain
  rw [lines_intercalate fun line member => (plain line member).1,
    lines_intercalate fun line member => (plainBefore line member).1,
    lines_intercalate fun line member => (plainAfter line member).1]
  by_cases none : after = []
  · subst none
    simp [rejoined]
  · rw [rejoined_append (fun line member => (plainBefore line member).2) none, List.flatMap_append]
    congr 1
    rcases rejoined_eq fun line member => (plainBefore line member).2 with same | more
    · rw [same]
    · have last : before.getLast? = some "" := by
        rw [more, List.getLast?_append]
        rfl
      conv_lhs => rw [more]
      rw [List.flatMap_append, List.flatMap_singleton, closed last, List.append_nil]

theorem callsIn_append (plain : ∀ line ∈ before ++ after, '\n' ∉ line.toList ∧ '\r' ∉ line.toList)
    (closed : before.getLast? = some "" → language.callNames "" = []) :
    language.callsIn ("\n".intercalate (before ++ after)) withBuiltins =
      (language.callsIn ("\n".intercalate before) withBuiltins ++
        language.callsIn ("\n".intercalate after) withBuiltins).eraseDups := by
  simp only [callsIn]
  rw [flatMap_callNames_append plain closed, List.filter_append, eraseDups_append_eraseDups]

/-- The names called in a text are listed in the order of their first places, each once; without library
functions the others stay as they are; and the lines of a text call what its first lines call and then what
the others call. -/
theorem callsIn_by_first_places (language : Language) (text : String) (withBuiltins : Bool) :
    (∀ names, names = language.callsIn text withBuiltins ↔ language.ListsCalls text withBuiltins names) ∧
      language.callsIn text false =
        ((language.callsIn text true).filter fun name => !language.isBuiltin name) ∧
      ∀ before after : List String,
        (∀ line ∈ before ++ after, '\n' ∉ line.toList ∧ '\r' ∉ line.toList) →
        (before.getLast? = some "" → language.callNames "" = []) →
        language.callsIn ("\n".intercalate (before ++ after)) withBuiltins =
          (language.callsIn ("\n".intercalate before) withBuiltins ++
            language.callsIn ("\n".intercalate after) withBuiltins).eraseDups := by
  refine ⟨fun names => ⟨?_, fun lists => lists.unique listsCalls_callsIn⟩, language.callsIn_false text,
    fun before after plain closed => callsIn_append plain closed⟩
  rintro rfl
  exact listsCalls_callsIn

end Language

namespace Hollow

/-- A language in which an empty line calls something without a name. -/
def table : LanguageTable where
  name := "hollow"
  calls := [⟨"^()$", .call, 1⟩]

theorem calls_apart_and_joined :
    (Language.ofTable table).toOption.map (fun language =>
      (language.callsIn ("\n".intercalate ["x", ""]) true, language.callsIn ("\n".intercalate ["y"]) true,
        language.callsIn ("\n".intercalate (["x", ""] ++ ["y"])) true)) = some ([], [], [""]) := by
  decide +kernel

/-- The empty line between two others calls something, but not where it ends a text. -/
theorem joined_calls_more : ∃ language, Language.ofTable table = .ok language ∧
    (∀ line ∈ ["x", ""] ++ ["y"], '\n' ∉ line.toList ∧ '\r' ∉ line.toList) ∧
      language.callsIn ("\n".intercalate (["x", ""] ++ ["y"])) true ≠
        (language.callsIn ("\n".intercalate ["x", ""]) true ++
          language.callsIn ("\n".intercalate ["y"]) true).eraseDups := by
  have calls := calls_apart_and_joined
  cases compiled : Language.ofTable table with
  | error fault =>
      rw [compiled] at calls
      contradiction
  | ok language =>
      rw [compiled] at calls
      simp only [Except.toOption, Option.map_some, Option.some.injEq, Prod.mk.injEq] at calls
      obtain ⟨first, second, both⟩ := calls
      refine ⟨language, rfl, by decide, ?_⟩
      rw [first, second, both]
      decide

end Hollow

namespace Notes

/-- The lines of a script, the last one empty, and lines that follow. -/
def before : List String :=
  ["load(a)", "// skip(b)", "store(a)", ""]

def after : List String :=
  ["log(d)", "load(d)", "ready(d)"]

theorem joined_calls :
    ((∀ line ∈ before ++ after, '\n' ∉ line.toList ∧ '\r' ∉ line.toList) ∧
      (before.getLast? = some "" → (Shipped.registry.language "javascript").callNames "" = [])) ∧
      (Shipped.registry.language "javascript").callsIn ("\n".intercalate (before ++ after)) false =
        ["load", "store", "ready"] := by
  have plain : ∀ line ∈ before ++ after, '\n' ∉ line.toList ∧ '\r' ∉ line.toList := by decide
  have closed : before.getLast? = some "" → (Shipped.registry.language "javascript").callNames "" = [] := by
    intro _
    decide +kernel
  refine ⟨⟨plain, closed⟩, ?_⟩
  rw [(Language.callsIn_by_first_places (Shipped.registry.language "javascript") "" false).2.2 before after
    plain closed]
  decide +kernel

end Notes

end Callsite

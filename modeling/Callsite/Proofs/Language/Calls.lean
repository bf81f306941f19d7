import Mathlib.Data.List.Basic
import Callsite.Calls

set_option autoImplicit false

/-! The names called in a text. Each is listed once, and library functions are left out without a change in
the order of the others. -/

namespace Callsite

theorem nodup_eraseDups {α : Type} [BEq α] [LawfulBEq α] : ∀ items : List α, items.eraseDups.Nodup
  | [] => List.nodup_nil
  | head :: rest => by
      have shorter : (rest.filter fun other => !other == head).length ≤ rest.length :=
        List.length_filter_le _ rest
      rw [List.eraseDups_cons, List.nodup_cons, List.mem_eraseDups]
      exact ⟨by simp, nodup_eraseDups _⟩
termination_by items => items.length

theorem filter_eraseDups {α : Type} [BEq α] [LawfulBEq α] (stays : α → Bool) :
    ∀ items : List α, (items.filter stays).eraseDups = items.eraseDups.filter stays
  | [] => rfl
  | head :: rest => by
      have shorter : (rest.filter fun other => !other == head).length ≤ rest.length :=
        List.length_filter_le _ rest
      have later := filter_eraseDups stays (rest.filter fun other => !other == head)
      rw [List.eraseDups_cons]
      by_cases here : stays head = true
      · rw [List.filter_cons_of_pos here, List.filter_cons_of_pos here, List.eraseDups_cons, ← later,
          List.filter_comm]
      · rw [List.filter_cons_of_neg here, List.filter_cons_of_neg here, ← later, List.filter_filter]
        congr 1
        refine List.filter_congr fun other _ => ?_
        by_cases same : other = head
        · rw [same, eq_false_of_ne_true here]
          rfl
        · simp [same]
termination_by items => items.length

namespace Language

theorem nodup_callsIn (language : Language) (text : String) (withBuiltins : Bool) :
    (language.callsIn text withBuiltins).Nodup :=
  nodup_eraseDups _

theorem exists_hit_of_mem_callsIn {language : Language} {text : String} {withBuiltins : Bool} {name : String}
    (called : name ∈ language.callsIn text withBuiltins) :
    language.isKeyword name = false ∧ ∃ line ∈ Text.lines text, language.isComment line = false ∧
      ∃ rule ∈ language.callRules, ∃ hit ∈ rule.findAll line, hit.name = name := by
  have inText := (List.mem_filter.mp (List.mem_eraseDups.mp called)).1
  obtain ⟨line, inLines, inLine⟩ := List.mem_flatMap.mp inText
  rw [callNames] at inLine
  split at inLine
  · contradiction
  · rename_i code
    obtain ⟨captured, kept⟩ := List.mem_filter.mp inLine
    obtain ⟨hit, inHits, named⟩ := List.mem_map.mp captured
    rw [callHits, List.mem_mergeSort] at inHits
    obtain ⟨rule, member, inRule⟩ := List.mem_flatMap.mp inHits
    exact ⟨(Bool.not_eq_true' _).mp kept, line, inLines, Bool.eq_false_iff.mpr code, rule, member, hit,
      inRule, named⟩

theorem callsIn_false (language : Language) (text : String) :
    language.callsIn text false = (language.callsIn text true).filter fun name =>
      !language.isBuiltin name := by
  rw [callsIn, callsIn, ← filter_eraseDups, List.filter_filter]
  simp

end Language

end Callsite

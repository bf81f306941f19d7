import Mathlib.Tactic.FinCases
import Callsite.Proofs.Pattern.Captures

set_option autoImplicit false

/-! Reading a pattern text around a group whose content varies. What stands before and after the group is
read the same way whatever fills it, so that the patterns of all fillings differ in the body of that
group only; a name that is escaped there stands for itself. -/

namespace Callsite.Pattern

theorem length_le_escape (target : List Char) : target.length ≤ (escape target).length := by
  induction target with
  | nil => exact Nat.le_refl 0
  | cons c target ih =>
      rw [escape]
      split
      · exact Nat.le_succ_of_le (Nat.succ_le_succ ih)
      · exact Nat.succ_le_succ ih

namespace Draft

/-- The draft after exactly `count` steps, and the text that is left. -/
def advance : Nat → Draft → List Char → Except PatternFault (Draft × List Char)
  | 0, draft, text => .ok (draft, text)
  | count + 1, draft, text =>
      match settle draft.modes.verbose text with
      | [] => .error .unfinished
      | c :: rest => do
          let (draft, rest) ← draft.step c rest
          draft.advance count rest

def stepCount : Nat → Draft → List Char → Nat
  | 0, _, _ => 0
  | fuel + 1, draft, text =>
      match settle draft.modes.verbose text with
      | [] => 0
      | c :: rest =>
          match draft.step c rest with
          | .error _ => 0
          | .ok (draft, rest) => stepCount fuel draft rest + 1

theorem stepCount_le (fuel : Nat) : ∀ (draft : Draft) (text : List Char),
    stepCount fuel draft text ≤ fuel := by
  induction fuel with
  | zero => exact fun _ _ => Nat.le_refl 0
  | succ fuel ih =>
      intro draft text
      rw [stepCount]
      split
      · exact Nat.zero_le _
      · split
        · exact Nat.zero_le _
        · exact Nat.succ_le_succ (ih _ _)

theorem readOn_advance {draft after : Draft} {text rest : List Char} {count : Nat}
    (advanced : draft.advance count text = .ok (after, rest)) (fuel : Nat) :
    draft.readOn (fuel + count) text = after.readOn fuel rest := by
  induction count generalizing draft text with
  | zero =>
      cases Except.ok.inj advanced
      rfl
  | succ count ih =>
      rw [advance] at advanced
      rw [← Nat.add_assoc, readOn]
      cases settled : settle draft.modes.verbose text with
      | nil =>
          rw [settled] at advanced
          contradiction
      | cons c rest =>
          rw [settled] at advanced
          dsimp only at advanced ⊢
          cases stepped : draft.step c rest with
          | error fault =>
              rw [stepped] at advanced
              contradiction
          | ok next =>
              rw [stepped] at advanced
              exact ih advanced

theorem readOn_nil (draft : Draft) (fuel : Nat) : draft.readOn fuel [] = .ok draft := by
  cases fuel with
  | zero => rfl
  | succ fuel =>
      rw [readOn]
      cases draft.modes.verbose <;> rfl

def withGroup (draft : Draft) (body : Pattern) (depth : Nat) : Draft :=
  { draft with
    pieces := .pattern ⟨group (draft.groupCount + 1) body, depth⟩ :: draft.pieces
    groupCount := draft.groupCount + 1 }

theorem advance_add {draft middle last : Draft} {text rest end_ : List Char} {count more : Nat}
    (first : draft.advance count text = .ok (middle, rest))
    (second : middle.advance more rest = .ok (last, end_)) :
    draft.advance (more + count) text = .ok (last, end_) := by
  induction count generalizing draft text with
  | zero =>
      cases Except.ok.inj first
      exact second
  | succ count ih =>
      rw [advance] at first
      rw [← Nat.add_assoc, advance]
      cases settled : settle draft.modes.verbose text with
      | nil =>
          rw [settled] at first
          contradiction
      | cons c rest =>
          rw [settled] at first
          dsimp only at first ⊢
          cases stepped : draft.step c rest with
          | error fault =>
              rw [stepped] at first
              contradiction
          | ok next =>
              rw [stepped] at first
              exact ih first

theorem advance_one {draft : Draft} (plain : draft.modes = {}) {c : Char} {rest : List Char}
    {next : Draft × List Char} (stepped : draft.step c rest = .ok next) :
    draft.advance 1 (c :: rest) = .ok next := by
  rw [advance, plain]
  show (draft.step c rest >>= fun found => .ok (found.1, found.2)) = _
  rw [stepped]
  rfl

/-! ### An escaped name -/

private theorem step_backslash_of_isMeta {draft : Draft} (plain : draft.modes = {}) {c : Char}
    (special : isMeta c = true) (rest : List Char) :
    draft.step '\\' (c :: rest) = .ok (draft.pushLiteral c, rest) := by
  have member : c ∈ ['\\', '.', '+', '*', '?', '(', ')', '|', '[', ']', '\x7b', '\x7d', '^', '$',
      '#', '&', '-', '~'] := of_decide_eq_true special
  have read : readEscape draft.modes.verbose (c :: rest) = .ok (.literal c, rest) := by
    rw [plain]
    fin_cases member <;> rfl
  show (readEscape draft.modes.verbose (c :: rest) >>= fun found =>
    draft.pushEscape found.1 >>= fun pushed => .ok (pushed, found.2)) = _
  rw [read]
  rfl

private theorem step_of_not_isMeta {c : Char} (ordinary : isMeta c = false) (draft : Draft)
    (rest : List Char) : draft.step c rest = .ok (draft.pushLiteral c, rest) := by
  unfold step
  split
  all_goals try contradiction
  all_goals rfl

theorem advance_escape (target rest : List Char) : ∀ draft : Draft, draft.modes = {} →
    draft.advance target.length (escape target ++ rest) =
      .ok (target.foldl pushLiteral draft, rest) := by
  induction target with
  | nil => exact fun _ _ => rfl
  | cons c target ih =>
      intro draft plain
      have later := ih (draft.pushLiteral c) plain
      rw [escape]
      by_cases special : isMeta c = true
      · rw [if_pos special]
        have stepped := step_backslash_of_isMeta plain special (escape target ++ rest)
        exact advance_add (advance_one plain stepped) later
      · rw [if_neg special]
        have stepped := step_of_not_isMeta (Bool.eq_false_of_not_eq_true special) draft
          (escape target ++ rest)
        exact advance_add (advance_one plain stepped) later

private theorem head?_escape (target rest : List Char) :
    (escape target ++ ')' :: rest).head? ≠ some '?' := by
  cases target with
  | nil => exact fun same => nomatch same
  | cons c target =>
      rw [escape]
      by_cases special : isMeta c = true
      · rw [if_pos special]
        exact fun same => nomatch same
      · rw [if_neg special]
        rintro same
        cases Option.some.inj same
        exact special rfl

private theorem readGroup_of_head? {draft : Draft} (plain : draft.modes = {}) {text : List Char}
    (capture : text.head? ≠ some '?') : draft.readGroup text = .ok (draft.openCapture, text) := by
  have settled : settle draft.modes.verbose text = text := by rw [plain]; rfl
  rw [readGroup, settled]
  split
  all_goals first | exact absurd rfl capture | rfl

private theorem foldl_pushLiteral (target : List Char) : ∀ draft : Draft, draft.modes = {} →
    target.foldl pushLiteral draft = { draft with
      pieces := (target.map fun c => Piece.pattern ⟨chars (.single c), 0⟩).reverse ++ draft.pieces } := by
  induction target with
  | nil => exact fun _ _ => rfl
  | cons c target ih =>
      intro draft plain
      have same : (draft.pushLiteral c).modes = {} := plain
      rw [List.foldl_cons, ih _ same, List.map_cons, List.reverse_cons, List.append_assoc]
      cases draft
      cases plain
      rfl

def literalDepth (target : List Char) : Nat :=
  if target.length ≤ 1 then 1 else 2

private theorem branch_literals {draft : Draft} {target : List Char}
    (pieces : draft.pieces =
      (target.map fun c => Piece.pattern ⟨chars (.single c), 0⟩).reverse) :
    draft.branch.body = literals target ∧ draft.branch.depth + 1 = literalDepth target := by
  have parts : draft.pieces.reverse.filterMap Piece.pattern? =
      target.map fun c => ⟨chars (.single c), 0⟩ := by
    rw [pieces, List.reverse_reverse, List.filterMap_map]
    show target.filterMap (some ∘ fun c => (⟨chars (.single c), 0⟩ : NestedPattern)) = _
    rw [List.filterMap_eq_map]
  have count : draft.pieces.length = target.length := by
    rw [pieces, List.length_reverse, List.length_map]
  have shallow : ∀ target : List Char,
      (target.map fun c => (⟨chars (.single c), 0⟩ : NestedPattern)).foldl
        (fun depth part => max depth part.depth) 0 = 0 := by
    intro target
    induction target with
    | nil => rfl
    | cons c target ih => exact ih
  rw [branch, parts, count]
  refine ⟨congrArg sequence (List.map_map ..), ?_⟩
  rw [depthAround, shallow, literalDepth]
  split <;> rfl

private theorem body_eq_branch {draft : Draft} (alone : draft.branches = []) :
    draft.body = draft.branch := by
  rw [body, alone]
  show (⟨draft.branch.body, max 0 draft.branch.depth⟩ : NestedPattern) = draft.branch
  rw [Nat.zero_max]

theorem advance_group {draft : Draft} (plain : draft.modes = {}) (target rest : List Char) :
    draft.advance (1 + target.length + 1) ('(' :: (escape target ++ ')' :: rest)) =
      .ok (draft.withGroup (literals target) (literalDepth target), rest) := by
  have opened : draft.advance 1 ('(' :: (escape target ++ ')' :: rest)) =
      .ok (draft.openCapture, escape target ++ ')' :: rest) :=
    advance_one plain (readGroup_of_head? plain (head?_escape target rest))
  have same : draft.openCapture.modes = {} := plain
  have filled := advance_escape target (')' :: rest) draft.openCapture same
  rw [foldl_pushLiteral target _ same] at filled
  generalize inner : ({ draft.openCapture with
      pieces := (target.map fun c => Piece.pattern ⟨chars (.single c), 0⟩).reverse ++
        draft.openCapture.pieces } : Draft) = open_ at filled
  have pieces : open_.pieces = (target.map fun c => Piece.pattern ⟨chars (.single c), 0⟩).reverse := by
    rw [← inner]
    exact List.append_nil _
  obtain ⟨body, depth⟩ := branch_literals pieces
  have closed : open_.closeGroup =
      .ok (draft.withGroup (literals target) (literalDepth target)) := by
    have around : open_.outer = ⟨draft.pieces, draft.branches, draft.modes,
        some (draft.groupCount + 1)⟩ :: draft.outer := by
      rw [← inner]
      rfl
    have alone : open_.branches = [] := by
      rw [← inner]
      rfl
    rw [closeGroup, around]
    dsimp only
    rw [body_eq_branch alone, body, depth, ← inner]
    rfl
  refine advance_add opened (advance_add filled (advance_one ?_ ?_))
  · rw [← inner]
    exact plain
  · show open_.closeGroup >>= _ = _
    rw [closed]
    rfl

def identifierDepth : Nat :=
  5

theorem advance_identifier {draft : Draft} (plain : draft.modes = {}) (rest : List Char) :
    draft.advance 5 ('(' :: (identifierPattern.toList ++ ')' :: rest)) =
      .ok (draft.withGroup identifier identifierDepth, rest) := by
  cases draft
  cases plain
  rfl

end Draft

/-! ### Templates -/

/-- What stands before and after the group that holds the slot for the name. -/
def cutSlot : List Char → Option (List Char × List Char)
  | '(' :: '\x7b' :: 'n' :: 'a' :: 'm' :: 'e' :: '\x7d' :: ')' :: rest => some ([], rest)
  | c :: rest => (cutSlot rest).map fun (before, after) => (c :: before, after)
  | [] => none

/-- The body that the filled slot stands for: the name itself, or any identifier. -/
def slotBody : Option String → Pattern
  | some target => literals target.toList
  | none => identifier

end Callsite.Pattern

namespace Callsite

open Pattern

def Pattern.slotDepth : Option String → Nat
  | some target => Draft.literalDepth target.toList
  | none => Draft.identifierDepth

/-- A template whose patterns differ in the body of the name group only, whatever fills the slot. -/
def RuleTemplate.SlottedAs (template : RuleTemplate) (shape : Pattern) : Prop :=
  template.group = 1 ∧ ∀ target,
    Pattern.read (fillSlot (slot target) template.pattern.toList) =
      .ok (fillGroup 1 (slotBody target) shape)

def RuleTemplate.Slotted (template : RuleTemplate) : Prop :=
  ∃ shape, template.SlottedAs shape

section

variable {text before after : List Char} {front : Draft} {last : Pattern → Nat → Draft}
  (whole : ∀ slot, fillSlot slot text = before ++ '(' :: (slot ++ ')' :: after))
  (ahead : ∀ rest, Draft.advance (Draft.stepCount before.length {} before) {}
    (before ++ '(' :: rest) = .ok (front, '(' :: rest))
  (behind : ∀ body deep, Draft.advance (Draft.stepCount after.length (front.withGroup .empty 0) after)
    (front.withGroup body deep) after = .ok (last body deep, []))
  (closed : ∀ body deep, (last body deep).outer = [])

include whole ahead behind closed

private theorem read_fillSlot {slot : List Char} {body : Pattern} {deep steps : Nat}
    (short : steps ≤ slot.length + 2)
    (inside : ∀ rest, front.advance steps ('(' :: (slot ++ ')' :: rest)) =
      .ok (front.withGroup body deep, rest))
    (shallow : (last body deep).body.depth ≤ nestLimit) :
    Pattern.read (fillSlot slot text) = .ok (last body deep).body.body := by
  have all := Draft.advance_add (ahead (slot ++ ')' :: after))
    (Draft.advance_add (inside after) (behind body deep))
  have few := Draft.stepCount_le before.length {} before
  have fewer := Draft.stepCount_le after.length (front.withGroup .empty 0) after
  have length : (before ++ '(' :: (slot ++ ')' :: after)).length =
      before.length + slot.length + after.length + 2 := by
    simp only [List.length_append, List.length_cons]
    omega
  generalize counted : Draft.stepCount after.length (front.withGroup .empty 0) after + steps +
    Draft.stepCount before.length {} before = count at all
  obtain ⟨fuel, enough⟩ : ∃ fuel, (before ++ '(' :: (slot ++ ')' :: after)).length = fuel + count :=
    Nat.exists_eq_add_of_le' (by omega)
  have finished : (last body deep).finish = .ok (last body deep).body.body := by
    rw [Draft.finish, closed, List.isEmpty_nil, if_pos rfl, if_pos shallow]
  rw [whole, Pattern.read, enough, Draft.readOn_advance all, Draft.readOn_nil]
  exact finished

end

section

variable {template : RuleTemplate} {text before after : List Char} {front : Draft}
  {last : Pattern → Nat → Draft}
  (spelled : template.pattern = String.ofList text)
  (cut : cutSlot text = some (before, after))
  (whole : ∀ slot, (cutSlot text).map (fun (before, after) =>
    before ++ '(' :: (slot ++ ')' :: after)) = some (fillSlot slot text))
  (ahead : ∀ rest, Draft.advance (Draft.stepCount before.length {} before) {}
    (before ++ '(' :: rest) = .ok (front, '(' :: rest))
  (plain : front.modes = {})
  (behind : ∀ body deep, Draft.advance (Draft.stepCount after.length (front.withGroup .empty 0) after)
    (front.withGroup body deep) after = .ok (last body deep, []))
  (closed : ∀ body deep, (last body deep).outer = [])
  (shallow : ([1, 2, 5].all fun deep => (last .empty deep).body.depth.ble nestLimit) = true)

include spelled cut whole ahead plain behind closed shallow

/-- What a template is read as, whatever fills the slot, if what is read ahead of the slot does not depend on
what follows, and what is read behind it builds one shape around any body. -/
theorem RuleTemplate.reads_of {shape : Pattern → Pattern}
    (built : ∀ body deep, (last body deep).body = ⟨shape body, (last .empty deep).body.depth⟩)
    (target : Option String) :
    Pattern.read (fillSlot (slot target) template.pattern.toList) = .ok (shape (slotBody target)) := by
  have whole : ∀ slot, fillSlot slot text = before ++ '(' :: (slot ++ ')' :: after) := by
    intro slot
    have parts := whole slot
    rw [cut] at parts
    exact (Option.some.inj parts).symm
  have bounded : ∀ body, ∀ deep ∈ [1, 2, 5], (last body deep).body.depth ≤ nestLimit := by
    intro body deep member
    rw [built]
    exact Nat.le_of_ble_eq_true (List.all_eq_true.mp shallow deep member)
  have shaped : (last (slotBody target) (slotDepth target)).body.body = shape (slotBody target) :=
    congrArg NestedPattern.body (built _ _)
  rw [spelled, String.toList_ofList, ← shaped]
  cases target with
  | none =>
      refine read_fillSlot whole ahead behind closed ?_ (Draft.advance_identifier plain) ?_
      · decide
      · exact bounded _ 5 (by decide)
  | some target =>
      refine read_fillSlot whole ahead behind closed ?_ (Draft.advance_group plain target.toList) ?_
      · have longer := length_le_escape target.toList
        show 1 + target.toList.length + 1 ≤ (escape target.toList).length + 2
        omega
      · refine bounded _ _ ?_
        show Draft.literalDepth target.toList ∈ [1, 2, 5]
        unfold Draft.literalDepth
        split <;> decide

theorem RuleTemplate.slotted_of (group : template.group = 1)
    (built : ∀ body deep, (last body deep).body =
      ⟨fillGroup 1 body (last .empty 0).body.body, (last .empty deep).body.depth⟩) :
    template.Slotted :=
  ⟨_, group, reads_of spelled cut whole ahead plain behind closed shallow built⟩

end

end Callsite

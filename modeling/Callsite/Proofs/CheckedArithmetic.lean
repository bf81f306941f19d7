import Mathlib.Algebra.BigOperators.Group.List.Basic
import Mathlib.Algebra.GroupWithZero.Nat
import Mathlib.Algebra.Order.BigOperators.Group.List
import Mathlib.Algebra.Order.Group.Nat
import Callsite.Proofs.Balance

set_option autoImplicit false

/-! Bodies in numbers of 64 bits. Isolation is carried out once more with additions that fail when their sum
does not fit; subtractions stop at zero and cannot fail. For a text that fits into memory no addition does,
whatever the first line and the size of the window, and the body is the same. It stays inside the window and
inside the text. -/

namespace Callsite

open Text

namespace Body

namespace Checked

/-! ### Isolation with checked additions -/

/-- The two numbers whose sum takes more than 64 bits. -/
structure Overflow where
  first : Nat
  second : Nat
  deriving DecidableEq, Repr

def add (first second : Nat) : Except Overflow Nat :=
  if first + second < 2 ^ 64 then .ok (first + second) else .error ⟨first, second⟩

/-- The sum, or the largest number of 64 bits. -/
def addSaturating (first second : Nat) : Nat :=
  min (first + second) (2 ^ 64 - 1)

def windowEnd (lines : List String) (scanLimit start : Nat) : Nat :=
  min (addSaturating start (max scanLimit 1)) lines.length

def window (lines : List String) (scanLimit start : Nat) : List String :=
  (lines.take (windowEnd lines scanLimit start)).drop start

/-- The number of open blocks after the marks of a line, or none once the last of them has closed. -/
def scanMarks (depth : Nat) : List BlockMark → Except Overflow (Option Nat)
  | [] => .ok (some depth)
  | .opening :: rest => do scanMarks (← add depth 1) rest
  | .closing :: rest =>
      if depth = 0 then scanMarks 0 rest
      else if depth - 1 = 0 then .ok none
      else scanMarks (depth - 1) rest
  | .plain :: rest => scanMarks depth rest

def closingLine? (marks : String → List BlockMark) (depth index : Nat) :
    List String → Except Overflow (Option Nat)
  | [] => .ok none
  | line :: rest => do
      match ← scanMarks depth (marks line) with
      | none => .ok (some index)
      | some deeper => closingLine? marks deeper (← add index 1) rest

def spanBy (marks : String → List BlockMark) (lines : List String) (scanLimit start : Nat) :
    Except Overflow Span := do
  match ← closingLine? marks 0 start (window lines scanLimit start) with
  | some stop => .ok ⟨start, stop, true⟩
  | none => .ok (capped start (windowEnd lines scanLimit start))

def widen (width : Nat) : List Char → Except Overflow Nat
  | [] => .ok width
  | c :: rest =>
      if isBlank c then do widen (← add width (if c = '\t' then 4 else 1)) rest
      else .ok width

def indentation (line : String) : Except Overflow Nat :=
  widen 0 line.toList

def scanIndented (base last index : Nat) : List String → Except Overflow (Nat × Bool)
  | [] => .ok (last, false)
  | line :: rest =>
      if isBlankText line then do scanIndented base last (← add index 1) rest
      else do
        if (← indentation line) ≤ base then .ok (last, true)
        else scanIndented base index (← add index 1) rest

def byIndentation (lines : List String) (scanLimit start : Nat) : Except Overflow Span :=
  let windowEnd := windowEnd lines scanLimit start
  match window lines scanLimit start with
  | [] => .ok (capped start windowEnd)
  | first :: rest => do
      let (last, ended) ← scanIndented (← indentation first) start (← add start 1) rest
      if ended || windowEnd = lines.length then .ok ⟨start, last, true⟩
      else .ok (capped start windowEnd)

def isolate (style : BlockStyle) (lines : List String) (scanLimit start : Nat) : Except Overflow Span :=
  match style with
  | .braces => spanBy braceMarks lines scanLimit start
  | .indentation => byIndentation lines scanLimit start
  | .endKeyword => spanBy wordMarks lines scanLimit start

/-! ### Sums that fit -/

@[simp] theorem ok_bind {α β : Type} (value : α) (next : α → Except Overflow β) :
    (Except.ok value >>= next) = next value :=
  rfl

theorem add_of_lt {first second : Nat} (fits : first + second < 2 ^ 64) :
    add first second = .ok (first + second) :=
  if_pos fits

theorem scanMarks_fits {depth : Nat} {marks : List BlockMark} (fits : depth + marks.length < 2 ^ 64) :
    ∃ answer, scanMarks depth marks = .ok answer ∧
      (∀ deeper, answer = some deeper → deeper ≤ depth + marks.length) ∧
      ∀ (index : Nat) (rest : List PlacedMark), closingMark? depth (marks.map (index, ·) ++ rest) =
        match answer with
        | none => some index
        | some deeper => closingMark? deeper rest := by
  induction marks generalizing depth with
  | nil => exact ⟨some depth, rfl, by simp, fun _ _ => rfl⟩
  | cons mark marks ih =>
      rw [List.length_cons] at fits ⊢
      cases mark with
      | opening =>
          obtain ⟨answer, scanned, bound, closes⟩ := ih (show depth + 1 + marks.length < 2 ^ 64 by omega)
          refine ⟨answer, ?_, ?_, closes⟩
          · rw [scanMarks, add_of_lt (by omega), ok_bind, scanned]
          · intro deeper same
            have upTo := bound deeper same
            omega
      | plain =>
          obtain ⟨answer, scanned, bound, closes⟩ := ih (show depth + marks.length < 2 ^ 64 by omega)
          exact ⟨answer, scanned, fun deeper same => Nat.le_succ_of_le (bound deeper same), closes⟩
      | closing =>
          by_cases none : depth = 0
          · subst none
            obtain ⟨answer, scanned, bound, closes⟩ := ih (show 0 + marks.length < 2 ^ 64 by omega)
            refine ⟨answer, ?_, fun deeper same => Nat.le_succ_of_le (bound deeper same), ?_⟩
            · rw [scanMarks, if_pos rfl, scanned]
            · intro index rest
              rw [List.map_cons, List.cons_append, closingMark?, if_pos rfl, closes]
          by_cases last : depth = 1
          · subst last
            exact ⟨.none, rfl, by simp, fun _ _ => rfl⟩
          · obtain ⟨answer, scanned, bound, closes⟩ := ih (show depth - 1 + marks.length < 2 ^ 64 by omega)
            refine ⟨answer, ?_, ?_, ?_⟩
            · rw [scanMarks, if_neg none, if_neg (by omega), scanned]
            · intro deeper same
              have upTo := bound deeper same
              omega
            · intro index rest
              rw [List.map_cons, List.cons_append, closingMark?, if_neg none, if_neg last, closes]

theorem closingLine?_fits {marks : String → List BlockMark} {lines : List String} {depth index : Nat}
    (depthFits : depth + (lines.map fun line => (marks line).length).sum < 2 ^ 64)
    (indexFits : index + lines.length < 2 ^ 64) :
    closingLine? marks depth index lines =
      .ok (closingMark? depth
        ((lines.zipIdx index).flatMap fun (line, index) => (marks line).map (index, ·))) := by
  -- A line adds no more than its marks to the depth, so what is left still fits.
  induction lines generalizing depth index with
  | nil => rfl
  | cons line rest ih =>
      rw [List.map_cons, List.sum_cons] at depthFits
      rw [List.length_cons] at indexFits
      obtain ⟨answer, scanned, bound, closes⟩ :=
        scanMarks_fits (show depth + (marks line).length < 2 ^ 64 by omega)
      rw [closingLine?, scanned, ok_bind, List.zipIdx_cons, List.flatMap_cons, closes]
      cases answer with
      | none => rfl
      | some deeper =>
          have upTo := bound deeper rfl
          dsimp only
          rw [add_of_lt (by omega), ok_bind]
          exact ih (by omega) (by omega)

theorem widen_fits {width : Nat} {text : List Char} (fits : width + 4 * text.length < 2 ^ 64) :
    widen width text =
      .ok ((text.takeWhile isBlank).foldl (fun width c => width + if c = '\t' then 4 else 1) width) := by
  induction text generalizing width with
  | nil => rfl
  | cons c rest ih =>
      rw [List.length_cons] at fits
      rw [widen]
      split
      · rename_i blank
        have wide : (if c = '\t' then 4 else 1) ≤ 4 := by split <;> decide
        rw [List.takeWhile_cons_of_pos blank, add_of_lt (by omega), ok_bind]
        exact ih (by omega)
      · rename_i other
        rw [List.takeWhile_cons_of_neg other]
        rfl

theorem indentation_fits {line : String} (short : line.toList.length < 2 ^ 62) :
    indentation line = .ok (Body.indentation line) := by
  apply widen_fits
  omega

theorem scanIndented_fits {base last index : Nat} {lines : List String}
    (short : ∀ line ∈ lines, line.toList.length < 2 ^ 62) (indexFits : index + lines.length < 2 ^ 64) :
    scanIndented base last index lines = .ok (Body.scanIndented base last index lines) := by
  induction lines generalizing last index with
  | nil => rfl
  | cons line rest ih =>
      rw [List.length_cons] at indexFits
      obtain ⟨here, later⟩ := List.forall_mem_cons.mp short
      have next : add index 1 = .ok (index + 1) := add_of_lt (by omega)
      have further (last : Nat) : scanIndented base last (index + 1) rest =
          .ok (Body.scanIndented base last (index + 1) rest) := ih later (by omega)
      rw [scanIndented, Body.scanIndented, indentation_fits here, next, ok_bind, ok_bind, ok_bind]
      split
      · exact further last
      split
      · rfl
      · exact further index

/-! ### Texts that fit -/

/-- The characters of a text, with a line feed behind each line. -/
def characters (lines : List String) : Nat :=
  (lines.map fun line => line.toList.length + 1).sum

theorem length_lt_characters {lines : List String} {line : String} (member : line ∈ lines) :
    line.toList.length < characters lines := by
  have counted : line.toList.length + 1 ∈ lines.map fun line => line.toList.length + 1 :=
    List.mem_map_of_mem member
  exact List.le_sum_of_mem counted

theorem length_le_characters (lines : List String) : lines.length ≤ characters lines := by
  have some : ∀ size ∈ lines.map fun line => line.toList.length + 1, 1 ≤ size := by
    intro size member
    obtain ⟨line, _, rfl⟩ := List.mem_map.mp member
    exact Nat.le_add_left 1 _
  have counted := List.length_le_sum_of_one_le _ some
  rwa [List.length_map] at counted

theorem characters_window_le (lines : List String) (scanLimit start : Nat) :
    characters (Body.window lines scanLimit start) ≤ characters lines := by
  have within : (Body.window lines scanLimit start).Sublist lines :=
    (List.drop_sublist start _).trans (List.take_sublist _ lines)
  exact (within.map _).sum_le_sum (fun _ _ => Nat.zero_le _)

def Few (marks : String → List BlockMark) : Prop :=
  ∀ line, (marks line).length ≤ line.toList.length

theorem few_braceMarks : Few braceMarks :=
  fun _ => Nat.le_of_eq (List.length_map _)

theorem few_wordMarks : Few wordMarks := by
  intro line
  have pieces (text : List Char) (same : Char → Char → Bool) : (text.splitBy same).length ≤ text.length := by
    have some : ∀ size ∈ (text.splitBy same).map List.length, 1 ≤ size := by
      intro size member
      obtain ⟨piece, inText, rfl⟩ := List.mem_map.mp member
      exact List.length_pos_of_ne_nil (List.ne_nil_of_mem_splitBy inText)
    have few := List.length_le_sum_of_one_le _ some
    rwa [List.length_map, ← List.length_flatten, List.flatten_splitBy] at few
  rw [wordMarks, List.length_map, List.length_zipIdx, wordRuns, List.length_map]
  calc _ ≤ _ := List.length_filter_le _ _
    _ ≤ _ := pieces _ _
    _ ≤ _ := (List.takeWhile_prefix _).length_le

theorem Few.sum_le_characters {marks : String → List BlockMark} (few : Few marks) (lines : List String) :
    (lines.map fun line => (marks line).length).sum ≤ characters lines :=
  List.sum_le_sum fun line _ => Nat.le_succ_of_le (few line)

/-! ### Bodies -/

variable {lines : List String} (fits : characters lines < 2 ^ 62) (scanLimit start : Nat)

include fits

theorem windowEnd_fits : windowEnd lines scanLimit start = Body.windowEnd lines scanLimit start := by
  have short := length_le_characters lines
  rw [windowEnd, addSaturating, Body.windowEnd]
  omega

theorem window_fits : window lines scanLimit start = Body.window lines scanLimit start := by
  rw [window, windowEnd_fits fits, Body.window]

theorem spanBy_fits {scan : LineScan} {marks : String → List BlockMark} (follows : Follows scan marks)
    (few : Few marks) : spanBy marks lines scanLimit start = .ok (Body.spanBy scan lines scanLimit start) := by
  have long := length_window lines scanLimit start
  have within := windowEnd_le lines scanLimit start
  have short := length_le_characters lines
  have seen := characters_window_le lines scanLimit start
  have scanned : closingLine? marks 0 start (Body.window lines scanLimit start) =
      .ok (Body.closingLine? scan 0 start (Body.window lines scanLimit start)) := by
    rw [follows.closingLine?_eq]
    cases windowed : Body.window lines scanLimit start with
    | nil => rfl
    | cons first rest =>
        rw [windowed] at long seen
        have marked := few.sum_le_characters (first :: rest)
        rw [List.length_cons] at long
        apply closingLine?_fits
        · omega
        · rw [List.length_cons]
          omega
  rw [spanBy, Body.spanBy, window_fits fits, windowEnd_fits fits, scanned]
  cases Body.closingLine? scan 0 start (Body.window lines scanLimit start) with
  | none => rfl
  | some stop => rfl

theorem byIndentation_fits : byIndentation lines scanLimit start = .ok (Body.byIndentation lines scanLimit start) := by
  have long := length_window lines scanLimit start
  have within := windowEnd_le lines scanLimit start
  have short := length_le_characters lines
  have lineFits (line : String) (member : line ∈ Body.window lines scanLimit start) :
      line.toList.length < 2 ^ 62 := by
    have inText := List.mem_of_mem_take (List.mem_of_mem_drop member)
    exact Nat.lt_trans (length_lt_characters inText) fits
  rw [byIndentation, Body.byIndentation, window_fits fits, windowEnd_fits fits]
  cases windowed : Body.window lines scanLimit start with
  | nil => rfl
  | cons first rest =>
      rw [windowed] at long lineFits
      rw [List.length_cons] at long
      obtain ⟨here, later⟩ := List.forall_mem_cons.mp lineFits
      dsimp only
      have scanned : scanIndented (Body.indentation first) start (start + 1) rest =
          .ok (Body.scanIndented (Body.indentation first) start (start + 1) rest) :=
        scanIndented_fits later (by omega)
      rw [indentation_fits here, add_of_lt (by omega), ok_bind, ok_bind, scanned, ok_bind]
      split
      · rfl
      · rfl

theorem isolate_fits (style : BlockStyle) :
    isolate style lines scanLimit start = .ok (Body.isolate style lines scanLimit start) := by
  cases style with
  | braces => exact spanBy_fits fits scanLimit start follows_scanBraces few_braceMarks
  | indentation => exact byIndentation_fits fits scanLimit start
  | endKeyword => exact spanBy_fits fits scanLimit start follows_scanWords few_wordMarks

end Checked

/-! ### Bounds -/

section

variable {lines : List String} {start : Nat}

/-- Isolation stays inside its window for all first lines and all sizes of the window, in numbers of 64 bits
too. A text of `2 ^ 62` characters takes up four exbibytes of memory. -/
theorem isolate_bounded (style : BlockStyle) (lines : List String) (scanLimit start : Nat) :
    let span := isolate style lines scanLimit start
    let windowEnd := min (start + max scanLimit 1) lines.length
    (Checked.characters lines < 2 ^ 62 → Checked.isolate style lines scanLimit start = .ok span) ∧
      span.start = start ∧
      (start < lines.length → start ≤ span.stop ∧ span.stop < windowEnd ∧
        (span.closed = false → span.stop = windowEnd - 1)) ∧
      (lines.length ≤ start → span.stop = start ∧ span.closed = false) := by
  intro span windowEnd
  refine ⟨fun fits => Checked.isolate_fits fits scanLimit start style, ?_⟩
  rcases Nat.lt_or_ge start lines.length with inside | outside
  · obtain ⟨stop, closed, body, bounds⟩ := isolate_within style scanLimit inside
    rw [show span = ⟨start, stop, closed⟩ from body]
    exact ⟨rfl, fun _ => bounds, fun outside => absurd inside (Nat.not_lt.mpr outside)⟩
  · have body : span = ⟨start, start, false⟩ := isolate_of_le style scanLimit outside
    rw [body]
    exact ⟨rfl, fun inside => absurd inside (Nat.not_lt.mpr outside), fun _ => ⟨rfl, rfl⟩⟩

/-- Two blocks stay open. -/
def openBraces : List String :=
  ["\x7d", "fn f() \x7b", "  if a() \x7b"]

theorem openBraces_bounded : Checked.characters openBraces < 2 ^ 62 ∧
    Checked.isolate .braces openBraces (2 ^ 64 - 1) 1 = .ok ⟨1, 2, false⟩ ∧ 1 < openBraces.length ∧
    2 = min (1 + max (2 ^ 64 - 1) 1) openBraces.length - 1 ∧ openBraces.length ≤ 2 ^ 64 - 1 ∧
    Checked.isolate .braces openBraces (2 ^ 64 - 1) (2 ^ 64 - 1) = .ok ⟨2 ^ 64 - 1, 2 ^ 64 - 1, false⟩ := by
  have fits : Checked.characters openBraces < 2 ^ 62 := by decide +kernel
  have inside : 1 < openBraces.length := by decide
  have body : isolate .braces openBraces (2 ^ 64 - 1) 1 = ⟨1, 2, false⟩ := by decide +kernel
  have beyond : isolate .braces openBraces (2 ^ 64 - 1) (2 ^ 64 - 1) = ⟨2 ^ 64 - 1, 2 ^ 64 - 1, false⟩ := by
    decide +kernel
  have first := isolate_bounded .braces openBraces (2 ^ 64 - 1) 1
  have last := isolate_bounded .braces openBraces (2 ^ 64 - 1) (2 ^ 64 - 1)
  rw [body] at first
  rw [beyond] at last
  exact ⟨fits, first.1 fits, inside, (first.2.2.1 inside).2.2 rfl, by decide, last.1 fits⟩

end

end Body

end Callsite

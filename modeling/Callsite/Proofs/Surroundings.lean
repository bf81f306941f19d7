import Callsite.Proofs.OffSide

set_option autoImplicit false

/-! The text around a body. Where a body ends depends on the lines of its window and on whether the text ends
with them. So lines before it shift the body and do nothing else, lines behind the window do not matter, and a
body that closes is the same in every wider window. -/

namespace Callsite

open Text

/-- The same lines with `count` further ones before them. -/
def Span.shift (count : Nat) (span : Span) : Span :=
  ⟨count + span.start, count + span.stop, span.closed⟩

theorem Span.shift_zero (span : Span) : span.shift 0 = span := by
  simp [shift]

namespace Body

/-! ### Windows -/

section

variable {lines others : List String} {scanLimit wider start count : Nat}

theorem capped_windowEnd (lines : List String) (scanLimit start : Nat) :
    capped start (windowEnd lines scanLimit start) =
      ⟨start, start + ((window lines scanLimit start).length - 1), false⟩ := by
  rw [capped, length_window, Span.mk.injEq]
  refine ⟨rfl, ?_, rfl⟩
  omega

theorem window_append (before lines : List String) (scanLimit start : Nat) :
    window (before ++ lines) scanLimit (before.length + start) = window lines scanLimit start := by
  have ends : windowEnd (before ++ lines) scanLimit (before.length + start) =
      before.length + windowEnd lines scanLimit start := by
    simp only [windowEnd, List.length_append]
    omega
  rw [window, window, ends, List.take_length_add_append, List.drop_length_add_append]

theorem window_eq_take (inside : start + max scanLimit 1 ≤ lines.length) :
    window lines scanLimit start = (lines.take (start + max scanLimit 1)).drop start := by
  rw [window, windowEnd, Nat.min_eq_left inside]

end

/-! ### Scans -/

section

variable {scan : LineScan}

theorem closingLine?_shift (depth index count : Nat) (lines : List String) :
    closingLine? scan depth (count + index) lines = (closingLine? scan depth index lines).map (count + ·) := by
  induction lines generalizing depth index with
  | nil => rfl
  | cons line rest ih =>
      rw [closingLine?, closingLine?]
      cases scan depth line with
      | none => rfl
      | some deeper => exact ih deeper (index + 1)

theorem scanIndented_shift (base last index count : Nat) (lines : List String) :
    scanIndented base (count + last) (count + index) lines =
      (count + (scanIndented base last index lines).1, (scanIndented base last index lines).2) := by
  induction lines generalizing last index with
  | nil => rfl
  | cons line rest ih =>
      rw [scanIndented, scanIndented]
      split
      · exact ih last (index + 1)
      split
      · rfl
      · exact ih index (index + 1)

end

/-! ### Bodies -/

section

variable {lines others : List String} {scanLimit wider start count : Nat}

theorem spanBy_eq_shift (scan : LineScan)
    (same : window others wider (count + start) = window lines scanLimit start) :
    spanBy scan others wider (count + start) = (spanBy scan lines scanLimit start).shift count := by
  rw [spanBy, spanBy, capped_windowEnd, capped_windowEnd, same, closingLine?_shift]
  cases closingLine? scan 0 start (window lines scanLimit start) with
  | some stop => rfl
  | none => rw [Option.map_none, Span.shift, Nat.add_assoc]

theorem byIndentation_eq_shift
    (same : window others wider (count + start) = window lines scanLimit start)
    (ends : windowEnd others wider (count + start) = others.length ↔
      windowEnd lines scanLimit start = lines.length) :
    byIndentation others wider (count + start) = (byIndentation lines scanLimit start).shift count := by
  rw [byIndentation, byIndentation, capped_windowEnd, capped_windowEnd, same]
  simp only [ends]
  cases window lines scanLimit start with
  | nil => rfl
  | cons first rest =>
      dsimp only
      rw [Nat.add_assoc, scanIndented_shift]
      split
      · rfl
      · rw [Span.shift, Nat.add_assoc]

/-- A body depends on the lines of its window and on whether the text ends with them. -/
theorem isolate_eq_shift (style : BlockStyle)
    (same : window others wider (count + start) = window lines scanLimit start)
    (ends : windowEnd others wider (count + start) = others.length ↔
      windowEnd lines scanLimit start = lines.length) :
    isolate style others wider (count + start) = (isolate style lines scanLimit start).shift count := by
  cases style with
  | braces => exact spanBy_eq_shift _ same
  | endKeyword => exact spanBy_eq_shift _ same
  | indentation => exact byIndentation_eq_shift same ends

theorem isolate_append (style : BlockStyle) (before lines : List String) (scanLimit start : Nat) :
    isolate style (before ++ lines) scanLimit (before.length + start) =
      (isolate style lines scanLimit start).shift before.length := by
  apply isolate_eq_shift style (window_append before lines scanLimit start)
  simp only [windowEnd, List.length_append]
  omega

/-- A body depends on the lines before the end of its window alone, if there are any behind it. -/
theorem isolate_eq_of_take (style : BlockStyle) (inside : start + max scanLimit 1 < lines.length)
    (insideToo : start + max scanLimit 1 < others.length)
    (same : others.take (start + max scanLimit 1) = lines.take (start + max scanLimit 1)) :
    isolate style others scanLimit start = isolate style lines scanLimit start := by
  have windows : window others scanLimit (0 + start) = window lines scanLimit start := by
    rw [Nat.zero_add, window_eq_take (Nat.le_of_lt inside), window_eq_take (Nat.le_of_lt insideToo), same]
  have ends : windowEnd others scanLimit (0 + start) = others.length ↔
      windowEnd lines scanLimit start = lines.length := by
    simp only [windowEnd]
    omega
  have shifted := isolate_eq_shift style windows ends
  rwa [Nat.zero_add, Span.shift_zero] at shifted

theorem spanBy_wider {scan : LineScan} (more : scanLimit ≤ wider)
    (shut : (spanBy scan lines scanLimit start).closed = true) :
    spanBy scan lines wider start = spanBy scan lines scanLimit start := by
  obtain ⟨further, longer⟩ := window_isPrefix lines more start
  cases closes : closingLine? scan 0 start (window lines scanLimit start) with
  | none => simp [spanBy, capped, closes] at shut
  | some stop =>
      have closesToo := closingLine?_append closes further
      rw [longer] at closesToo
      rw [spanBy_closed_iff.mpr closes, spanBy_closed_iff.mpr closesToo]

theorem isolate_wider (style : BlockStyle) (more : scanLimit ≤ wider)
    (shut : (isolate style lines scanLimit start).closed = true) :
    isolate style lines wider start = isolate style lines scanLimit start := by
  cases style with
  | braces => exact spanBy_wider more shut
  | endKeyword => exact spanBy_wider more shut
  | indentation => exact byIndentation_wider more shut

theorem isBlankText_of_isolate {style : BlockStyle} {place : Nat} (more : scanLimit ≤ wider)
    (behind : (isolate style lines wider start).stop < place)
    (within : place ≤ (isolate style lines scanLimit start).stop) {line : String}
    (found : lines[place]? = some line) : isBlankText line = true := by
  have marks (scan : LineScan) (lost : (spanBy scan lines wider start).stop < place)
      (kept : place ≤ (spanBy scan lines scanLimit start).stop) : False := by
    have longer := stop_spanBy_mono scan lines more start
    omega
  cases style with
  | braces => exact (marks _ behind within).elim
  | endKeyword => exact (marks _ behind within).elim
  | indentation =>
      have later := start_le_stop .indentation lines wider start
      have inText := (List.getElem?_eq_some_iff.mp found).1
      exact isBlankText_of_byIndentation (by omega) more behind within found

/-- Isolation is local and stable. -/
theorem isolate_local (style : BlockStyle) (lines : List String) (scanLimit start : Nat) :
    (∀ before : List String, isolate style (before ++ lines) scanLimit (before.length + start) =
        (isolate style lines scanLimit start).shift before.length) ∧
      (∀ others : List String, start + max scanLimit 1 < lines.length →
        start + max scanLimit 1 < others.length →
        others.take (start + max scanLimit 1) = lines.take (start + max scanLimit 1) →
          isolate style others scanLimit start = isolate style lines scanLimit start) ∧
      ((isolate style lines scanLimit start).closed = true → ∀ wider, scanLimit ≤ wider →
        isolate style lines wider start = isolate style lines scanLimit start) := by
  refine ⟨fun before => isolate_append style before lines scanLimit start, ?_, ?_⟩
  · intro others inside insideToo same
    exact isolate_eq_of_take style inside insideToo same
  · intro shut wider more
    exact isolate_wider style more shut

/-- A window of three lines shows no end of this block, and one of four reaches the end of the text. -/
def openBlock : List String :=
  ["def f():", "    g()", "", "    h()"]

def closedBlock : List String :=
  ["def f():", "    g()", "", "h()", "k()"]

theorem openBlock_local :
    isolate .indentation (["# f", ""] ++ openBlock) 4 2 = ⟨2, 5, true⟩ ∧
      0 + max 3 1 < openBlock.length ∧ 0 + max 3 1 < closedBlock.length ∧
      closedBlock.take (0 + max 3 1) = openBlock.take (0 + max 3 1) ∧
      isolate .indentation closedBlock 3 0 = isolate .indentation openBlock 3 0 ∧
      (isolate .indentation openBlock 4 0).closed = true ∧ 4 ≤ 9 ∧
      isolate .indentation openBlock 9 0 = isolate .indentation openBlock 4 0 := by
  have body : isolate .indentation openBlock 4 0 = ⟨0, 3, true⟩ := by decide +kernel
  have shut : (isolate .indentation openBlock 4 0).closed = true := by rw [body]
  have wide := isolate_local .indentation openBlock 4 0
  have narrow := isolate_local .indentation openBlock 3 0
  have shifted := wide.1 ["# f", ""]
  rw [body] at shifted
  have inside : 0 + max 3 1 < openBlock.length := by decide
  have insideToo : 0 + max 3 1 < closedBlock.length := by decide
  have same : closedBlock.take (0 + max 3 1) = openBlock.take (0 + max 3 1) := by decide
  exact ⟨shifted, inside, insideToo, same, narrow.2.1 closedBlock inside insideToo same, shut, by decide,
    wide.2.2 shut 9 (by decide)⟩

end

end Body

end Callsite

import Mathlib.Data.List.Infix
import Callsite.Body

set_option autoImplicit false

/-! Windows of lines, and the scans of bodies in them. A body stays inside its window, and ends with it if it
does not close there. Between marks a body that closes inside a window closes on the same line in every wider
one. -/

namespace Callsite

open Text

namespace Body

/-! ### Windows -/

section

variable {lines : List String} {scanLimit wider start : Nat}

theorem windowEnd_mono (lines : List String) (more : scanLimit ≤ wider) (start : Nat) :
    windowEnd lines scanLimit start ≤ windowEnd lines wider start := by
  unfold windowEnd
  omega

theorem windowEnd_le (lines : List String) (scanLimit start : Nat) :
    windowEnd lines scanLimit start ≤ lines.length := by
  unfold windowEnd
  omega

theorem lt_windowEnd (inside : start < lines.length) (scanLimit : Nat) :
    start < windowEnd lines scanLimit start := by
  unfold windowEnd
  omega

theorem length_window (lines : List String) (scanLimit start : Nat) :
    (window lines scanLimit start).length = windowEnd lines scanLimit start - start := by
  have within := windowEnd_le lines scanLimit start
  simp only [window, List.length_drop, List.length_take]
  omega

theorem getElem?_window {place : Nat} (inside : start + place < windowEnd lines scanLimit start) :
    (window lines scanLimit start)[place]? = lines[start + place]? := by
  simp [window, inside]

theorem window_isPrefix (lines : List String) (more : scanLimit ≤ wider) (start : Nat) :
    window lines scanLimit start <+: window lines wider start := by
  have shorter : lines.take (windowEnd lines scanLimit start) <+: lines.take (windowEnd lines wider start) :=
    List.take_prefix_take_left (windowEnd_mono lines more start)
  exact shorter.drop start

end

/-! ### Scans -/

section

variable {scan : LineScan} {lines : List String} {depth index stop : Nat}

theorem closingLine?_append (closes : closingLine? scan depth index lines = some stop)
    (further : List String) : closingLine? scan depth index (lines ++ further) = some stop := by
  induction lines generalizing depth index with
  | nil => simp [closingLine?] at closes
  | cons line rest ih =>
      rw [List.cons_append]
      unfold closingLine? at closes ⊢
      cases scanned : scan depth line with
      | none => simpa [scanned] using closes
      | some deeper =>
          simp only [scanned] at closes ⊢
          exact ih closes

theorem closingLine?_bounds (closes : closingLine? scan depth index lines = some stop) :
    index ≤ stop ∧ stop < index + lines.length := by
  induction lines generalizing depth index with
  | nil => simp [closingLine?] at closes
  | cons line rest ih =>
      unfold closingLine? at closes
      rw [List.length_cons]
      cases scanned : scan depth line with
      | none =>
          simp only [scanned, Option.some.injEq] at closes
          omega
      | some deeper =>
          simp only [scanned] at closes
          have further := ih closes
          omega

theorem closingLine?_take (closes : closingLine? scan depth index lines = some stop) :
    closingLine? scan depth index (lines.take (stop + 1 - index)) = some stop := by
  induction lines generalizing depth index with
  | nil => simp [closingLine?] at closes
  | cons line rest ih =>
      have bounds := closingLine?_bounds closes
      have some : stop + 1 - index = stop - index + 1 := by omega
      rw [some, List.take_succ_cons]
      unfold closingLine? at closes ⊢
      cases scanned : scan depth line with
      | none => simpa [scanned] using closes
      | some deeper =>
          simp only [scanned] at closes ⊢
          have later := ih closes
          rwa [Nat.add_sub_add_right] at later

end

section

variable {scan : LineScan} {lines : List String} {scanLimit wider start stop : Nat}

theorem spanBy_of_lt (inside : start < lines.length) :
    spanBy scan lines scanLimit start =
      match closingLine? scan 0 start (window lines scanLimit start) with
      | some stop => ⟨start, stop, true⟩
      | none => ⟨start, windowEnd lines scanLimit start - 1, false⟩ := by
  have last : max (windowEnd lines scanLimit start - 1) start = windowEnd lines scanLimit start - 1 := by
    have first := lt_windowEnd inside scanLimit
    omega
  unfold spanBy
  cases closingLine? scan 0 start (window lines scanLimit start) with
  | none =>
      show capped start (windowEnd lines scanLimit start) = _
      unfold capped
      rw [last]
  | some line => rfl

theorem spanBy_closed_iff :
    spanBy scan lines scanLimit start = ⟨start, stop, true⟩ ↔
      closingLine? scan 0 start (window lines scanLimit start) = some stop := by
  unfold spanBy capped
  cases closingLine? scan 0 start (window lines scanLimit start) with
  | none => simp
  | some line => simp

theorem stop_lt_windowEnd (body : spanBy scan lines scanLimit start = ⟨start, stop, true⟩) :
    start ≤ stop ∧ stop < windowEnd lines scanLimit start := by
  have bounds := closingLine?_bounds (spanBy_closed_iff.mp body)
  rw [length_window] at bounds
  omega

/-- A body that closes is found by a window that ends with it. -/
theorem spanBy_narrow (body : spanBy scan lines scanLimit start = ⟨start, stop, true⟩) :
    spanBy scan lines (stop + 1 - start) start = ⟨start, stop, true⟩ := by
  have bounds := stop_lt_windowEnd body
  have inside := windowEnd_le lines scanLimit start
  have closes := closingLine?_take (spanBy_closed_iff.mp body)
  have ends : windowEnd lines (stop + 1 - start) start = stop + 1 := by
    unfold windowEnd
    omega
  have cut : (window lines scanLimit start).take (stop + 1 - start) = window lines (stop + 1 - start) start := by
    have both : start + (stop + 1 - start) = stop + 1 := by omega
    rw [window, window, ends, List.take_drop, both, List.take_take, Nat.min_eq_left (by omega)]
  rw [cut] at closes
  exact spanBy_closed_iff.mpr closes

theorem stop_spanBy_mono (scan : LineScan) (lines : List String) (more : scanLimit ≤ wider) (start : Nat) :
    (spanBy scan lines scanLimit start).stop ≤ (spanBy scan lines wider start).stop := by
  obtain ⟨further, longer⟩ := window_isPrefix lines more start
  have later := windowEnd_mono lines more start
  unfold spanBy
  cases here : closingLine? scan 0 start (window lines scanLimit start) with
  | some line =>
      have there := closingLine?_append here further
      rw [longer] at there
      simp [there]
  | none =>
      cases there : closingLine? scan 0 start (window lines wider start) with
      | none =>
          simp only [capped]
          omega
      | some line =>
          simp only [capped]
          have body : spanBy scan lines wider start = ⟨start, line, true⟩ := spanBy_closed_iff.mpr there
          have bounds := stop_lt_windowEnd body
          -- Otherwise the narrow window would hold the whole body.
          by_contra short
          have shorter : line + 1 - start ≤ max scanLimit 1 := by
            unfold windowEnd at short
            omega
          have inside : windowEnd lines (line + 1 - start) start ≤ windowEnd lines scanLimit start := by
            unfold windowEnd
            omega
          obtain ⟨rest, same⟩ : window lines (line + 1 - start) start <+: window lines scanLimit start :=
            (List.take_prefix_take_left inside).drop start
          have closes := closingLine?_append (spanBy_closed_iff.mp (spanBy_narrow body)) rest
          rw [same, here] at closes
          simp at closes

end

/-! ### Indented blocks -/

section

variable {base last index final : Nat} {lines : List String}

theorem scanIndented_bounds (behind : last < index)
    {ended : Bool} (scanned : scanIndented base last index lines = (final, ended)) :
    last ≤ final ∧ final < index + lines.length := by
  induction lines generalizing last index with
  | nil =>
      simp only [scanIndented, Prod.mk.injEq] at scanned
      simp
      omega
  | cons line rest ih =>
      rw [List.length_cons]
      unfold scanIndented at scanned
      split at scanned
      · have further := ih (Nat.lt_succ_of_lt behind) scanned
        omega
      split at scanned
      · simp only [Prod.mk.injEq] at scanned
        omega
      · have further := ih (Nat.lt_succ_self index) scanned
        omega

theorem isBlankText_of_scanIndented (scanned : scanIndented base last index lines = (final, false)) :
    ∀ (place : Nat) (line : String), lines[place]? = some line → final < index + place →
      isBlankText line = true := by
  induction lines generalizing last index with
  | nil => simp
  | cons head rest ih =>
      intro place line found later
      unfold scanIndented at scanned
      split at scanned
      · rename_i blank
        cases place with
        | zero =>
            simp only [List.getElem?_cons_zero, Option.some.injEq] at found
            rwa [← found]
        | succ place => exact ih scanned place line (by simpa using found) (by omega)
      split at scanned
      · simp at scanned
      · have bounds := scanIndented_bounds (Nat.lt_succ_self index) scanned
        cases place with
        | zero => omega
        | succ place => exact ih scanned place line (by simpa using found) (by omega)

theorem byIndentation_of_window {lines : List String} {scanLimit start : Nat} {first : String}
    {rest : List String} (windowed : window lines scanLimit start = first :: rest) {final : Nat} {ended : Bool}
    (scanned : scanIndented (indentation first) start (start + 1) rest = (final, ended)) :
    byIndentation lines scanLimit start =
      if ended = true ∨ windowEnd lines scanLimit start = lines.length then ⟨start, final, true⟩
      else ⟨start, windowEnd lines scanLimit start - 1, false⟩ := by
  have long := length_window lines scanLimit start
  rw [windowed, List.length_cons] at long
  have last : max (windowEnd lines scanLimit start - 1) start = windowEnd lines scanLimit start - 1 := by omega
  simp only [byIndentation, windowed, scanned, capped, last, Bool.or_eq_true, decide_eq_true_eq]

end

/-! ### Bounds -/

section

variable {lines : List String} {scanLimit start : Nat}

theorem spanBy_within (scan : LineScan) (scanLimit : Nat) (inside : start < lines.length) :
    ∃ stop closed, spanBy scan lines scanLimit start = ⟨start, stop, closed⟩ ∧ start ≤ stop ∧
      stop < windowEnd lines scanLimit start ∧
      (closed = false → stop = windowEnd lines scanLimit start - 1) := by
  have first := lt_windowEnd inside scanLimit
  rw [spanBy_of_lt inside]
  cases closes : closingLine? scan 0 start (window lines scanLimit start) with
  | none => exact ⟨windowEnd lines scanLimit start - 1, false, rfl, by omega, by omega, fun _ => rfl⟩
  | some stop =>
      have bounds := stop_lt_windowEnd (spanBy_closed_iff.mpr closes)
      exact ⟨stop, true, rfl, bounds.1, bounds.2, by simp⟩

theorem byIndentation_within (scanLimit : Nat) (inside : start < lines.length) :
    ∃ stop closed, byIndentation lines scanLimit start = ⟨start, stop, closed⟩ ∧ start ≤ stop ∧
      stop < windowEnd lines scanLimit start ∧
      (closed = false → stop = windowEnd lines scanLimit start - 1) := by
  have first := lt_windowEnd inside scanLimit
  have long := length_window lines scanLimit start
  cases windowed : window lines scanLimit start with
  | nil =>
      rw [windowed, List.length_nil] at long
      omega
  | cons head rest =>
      rw [windowed, List.length_cons] at long
      rcases scanned : scanIndented (indentation head) start (start + 1) rest with ⟨final, ended⟩
      have bounds := scanIndented_bounds (Nat.lt_succ_self start) scanned
      rw [byIndentation_of_window windowed scanned]
      split
      · exact ⟨final, true, rfl, bounds.1, by omega, by simp⟩
      · exact ⟨windowEnd lines scanLimit start - 1, false, rfl, by omega, by omega, fun _ => rfl⟩

theorem isolate_within (style : BlockStyle) (scanLimit : Nat) (inside : start < lines.length) :
    ∃ stop closed, isolate style lines scanLimit start = ⟨start, stop, closed⟩ ∧ start ≤ stop ∧
      stop < windowEnd lines scanLimit start ∧
      (closed = false → stop = windowEnd lines scanLimit start - 1) := by
  cases style with
  | braces => exact spanBy_within _ scanLimit inside
  | endKeyword => exact spanBy_within _ scanLimit inside
  | indentation => exact byIndentation_within scanLimit inside

theorem isolate_of_le (style : BlockStyle) (scanLimit : Nat) (outside : lines.length ≤ start) :
    isolate style lines scanLimit start = ⟨start, start, false⟩ := by
  have within := windowEnd_le lines scanLimit start
  have nothing : window lines scanLimit start = [] := by
    rw [window, List.drop_eq_nil_iff, List.length_take]
    omega
  have last : capped start (windowEnd lines scanLimit start) = ⟨start, start, false⟩ := by
    rw [capped, Nat.max_eq_right (by omega)]
  have marks (scan : LineScan) : spanBy scan lines scanLimit start = ⟨start, start, false⟩ := by
    rw [spanBy, nothing]
    exact last
  cases style with
  | braces => exact marks _
  | endKeyword => exact marks _
  | indentation =>
      rw [isolate, byIndentation, nothing]
      exact last

theorem start_le_stop (style : BlockStyle) (lines : List String) (scanLimit start : Nat) :
    start ≤ (isolate style lines scanLimit start).stop := by
  rcases Nat.lt_or_ge start lines.length with inside | outside
  · obtain ⟨stop, closed, body, first, _⟩ := isolate_within style scanLimit inside
    rw [body]
    exact first
  · rw [isolate_of_le style scanLimit outside]

end

end Body

end Callsite

import Callsite.Proofs.Balance

set_option autoImplicit false

/-! Bodies marked off by indentation. They follow the off-side rule: a body ends with its last line that is
not blank before the first one indented no deeper than the declaration, or before the end of the text. A
parameter list over several lines belongs to the body as far as it is indented deeper than the
declaration, and no further. -/

namespace Callsite

open Text

namespace Body

/-! ### Margins -/

/-- The width of the white space that a line begins with. A tab is as wide as four other blanks. -/
def margin (line : String) : Nat :=
  let blanks := line.toList.takeWhile isBlank
  4 * blanks.count '\t' + blanks.countP (· ≠ '\t')

private theorem foldl_widths (blanks : List Char) (width : Nat) :
    blanks.foldl (fun width c => width + if c = '\t' then 4 else 1) width =
      width + (4 * blanks.count '\t' + blanks.countP (· ≠ '\t')) := by
  induction blanks generalizing width with
  | nil => rfl
  | cons c rest ih =>
      rw [List.foldl_cons, ih]
      by_cases tab : c = '\t'
      · simp [tab]
        omega
      · simp [tab]
        omega

theorem indentation_eq_margin (line : String) : indentation line = margin line := by
  rw [indentation, foldl_widths, Nat.zero_add, margin]

/-! ### The rule -/

/-- The line at `index` is `line`, and it is not blank. -/
def Content (lines : List String) (index : Nat) (line : String) : Prop :=
  lines[index]? = some line ∧ isBlankText line = false

/-- The lines behind `start` up to `last` are indented deeper than `base`, blank ones aside. -/
def Deeper (lines : List String) (base start last : Nat) : Prop :=
  ∀ index line, start < index → index ≤ last → Content lines index line → base < margin line

/-- The off-side rule for a block that begins on line `start`, seen through a window: the block ends on line
`stop`. -/
structure OffSide (lines : List String) (base windowEnd start stop : Nat) : Prop where
  deeper : Deeper lines base start stop
  last : stop = start ∨ start < stop ∧ ∃ line, Content lines stop line
  ends : (∃ next line, stop < next ∧ next < windowEnd ∧ Content lines next line ∧ margin line ≤ base ∧
        ∀ index other, stop < index → index < next → ¬Content lines index other) ∨
      windowEnd = lines.length ∧ ∀ index line, stop < index → ¬Content lines index line

namespace OffSide

variable {lines : List String} {base windowEnd start stop last : Nat}

theorem start_le_stop (block : OffSide lines base windowEnd start stop) : start ≤ stop := by
  rcases block.last with same | ⟨behind, _⟩
  · exact Nat.le_of_eq same.symm
  · exact Nat.le_of_lt behind

theorem le_stop_iff (block : OffSide lines base windowEnd start stop) {line : String}
    (content : Content lines last line) : last ≤ stop ↔ Deeper lines base start last := by
  constructor
  · intro within index other first before
    exact block.deeper index other first (Nat.le_trans before within)
  · intro deeper
    by_contra beyond
    rcases block.ends with ⟨next, other, later, _, here, shallow, blank⟩ | ⟨_, blank⟩
    · have before : next ≤ last := by
        by_contra further
        exact blank last line (Nat.lt_of_not_le beyond) (Nat.lt_of_not_le further) content
      have first : start < next := Nat.lt_of_le_of_lt block.start_le_stop later
      exact absurd (deeper next other first before here) (Nat.not_lt.mpr shallow)
    · exact blank last line (Nat.lt_of_not_le beyond) content

theorem unique (block : OffSide lines base windowEnd start stop)
    (other : OffSide lines base windowEnd start last) : stop = last := by
  -- The last line of either block is not blank, so the other block reaches it.
  have reaches {stop last : Nat} (block : OffSide lines base windowEnd start stop)
      (other : OffSide lines base windowEnd start last) : last ≤ stop := by
    rcases other.last with rfl | ⟨_, line, content⟩
    · exact block.start_le_stop
    · exact (block.le_stop_iff content).mpr other.deeper
  exact Nat.le_antisymm (reaches other block) (reaches block other)

theorem not_deeper (block : OffSide lines base windowEnd start stop) (short : windowEnd < lines.length) :
    ¬Deeper lines base start (windowEnd - 1) := by
  intro deeper
  rcases block.ends with ⟨next, line, behind, inWindow, content, shallow, _⟩ | ⟨whole, _⟩
  · have first := Nat.lt_of_le_of_lt block.start_le_stop behind
    exact absurd (deeper next line first (Nat.le_sub_one_of_lt inWindow) content) (Nat.not_lt.mpr shallow)
  · exact absurd whole (Nat.ne_of_lt short)

theorem widen {wider : Nat} (block : OffSide lines base windowEnd start stop) (more : windowEnd ≤ wider)
    (within : wider ≤ lines.length) : OffSide lines base wider start stop := by
  refine ⟨block.deeper, block.last, ?_⟩
  rcases block.ends with ⟨next, line, behind, inWindow, rest⟩ | ⟨whole, blank⟩
  · exact .inl ⟨next, line, behind, Nat.lt_of_lt_of_le inWindow more, rest⟩
  · exact .inr ⟨by omega, blank⟩

end OffSide

/-! ### The scan -/

section

variable {base last index final : Nat} {ended : Bool} {lines : List String}

theorem lt_indentation_of_scanIndented (behind : last < index)
    (scanned : scanIndented base last index lines = (final, ended)) :
    ∀ {line : String} {place : Nat}, (line, place) ∈ lines.zipIdx index → place ≤ final →
      isBlankText line = false → base < indentation line := by
  -- All along, the last line of the block so far lies before the lines that are left.
  induction lines generalizing last index with
  | nil => exact fun member => (List.not_mem_nil member).elim
  | cons head rest ih =>
      intro line place member within content
      rw [List.zipIdx_cons, List.mem_cons] at member
      unfold scanIndented at scanned
      split at scanned
      · rename_i blank
        rcases member with here | later
        · obtain ⟨rfl, rfl⟩ := Prod.mk.inj here
          simp [blank] at content
        · exact ih (Nat.lt_succ_of_lt behind) scanned later within content
      split at scanned
      · obtain ⟨rfl, _⟩ := Prod.mk.inj scanned
        have low : index ≤ place := by
          rcases member with here | later
          · exact Nat.le_of_eq (Prod.mk.inj here).2.symm
          · exact Nat.le_of_succ_le (List.le_snd_of_mem_zipIdx later)
        omega
      · rename_i deep
        rcases member with here | later
        · obtain ⟨rfl, _⟩ := Prod.mk.inj here
          exact Nat.lt_of_not_le deep
        · exact ih (Nat.lt_succ_self index) scanned later within content

theorem content_of_scanIndented (scanned : scanIndented base last index lines = (final, ended)) :
    final = last ∨ ∃ line, (line, final) ∈ lines.zipIdx index ∧ isBlankText line = false := by
  induction lines generalizing last index with
  | nil => exact .inl (Prod.mk.inj scanned).1.symm
  | cons head rest ih =>
      rw [List.zipIdx_cons]
      unfold scanIndented at scanned
      split at scanned
      · rcases ih scanned with same | ⟨line, later, content⟩
        · exact .inl same
        · exact .inr ⟨line, List.mem_cons_of_mem _ later, content⟩
      rename_i content
      split at scanned
      · exact .inl (Prod.mk.inj scanned).1.symm
      · rcases ih scanned with rfl | ⟨line, later, contentToo⟩
        · exact .inr ⟨head, List.mem_cons_self, by simpa using content⟩
        · exact .inr ⟨line, List.mem_cons_of_mem _ later, contentToo⟩

theorem ending_of_scanIndented (behind : last < index)
    (scanned : scanIndented base last index lines = (final, true)) :
    ∃ line next, (line, next) ∈ lines.zipIdx index ∧ final < next ∧ isBlankText line = false ∧
      indentation line ≤ base ∧
      ∀ other place, (other, place) ∈ lines.zipIdx index → final < place → place < next →
        isBlankText other = true := by
  induction lines generalizing last index with
  | nil => simp [scanIndented] at scanned
  | cons head rest ih =>
      rw [List.zipIdx_cons]
      unfold scanIndented at scanned
      split at scanned
      · rename_i blank
        obtain ⟨line, next, later, beyond, content, shallow, between⟩ :=
          ih (Nat.lt_succ_of_lt behind) scanned
        refine ⟨line, next, List.mem_cons_of_mem _ later, beyond, content, shallow, ?_⟩
        intro other place member first before
        rcases List.mem_cons.mp member with here | inRest
        · exact (Prod.mk.inj here).1 ▸ blank
        · exact between other place inRest first before
      rename_i content
      split at scanned
      · rename_i shallow
        obtain ⟨rfl, _⟩ := Prod.mk.inj scanned
        refine ⟨head, index, List.mem_cons_self, behind, by simpa using content, shallow, ?_⟩
        intro other place member first before
        rcases List.mem_cons.mp member with here | inRest
        · exact absurd (Prod.mk.inj here).2 (Nat.ne_of_lt before)
        · have low := List.le_snd_of_mem_zipIdx inRest
          simp only at low
          omega
      · obtain ⟨line, next, later, beyond, contentToo, shallow, between⟩ :=
          ih (Nat.lt_succ_self index) scanned
        refine ⟨line, next, List.mem_cons_of_mem _ later, beyond, contentToo, shallow, ?_⟩
        intro other place member first before
        rcases List.mem_cons.mp member with here | inRest
        · have bounds := scanIndented_bounds (Nat.lt_succ_self index) scanned
          have same := (Prod.mk.inj here).2
          omega
        · exact between other place inRest first before

end

/-! ### Windows -/

section

variable {lines rest : List String} {scanLimit start : Nat} {head : String}
  (windowed : window lines scanLimit start = head :: rest)

include windowed

theorem eq_getElem_of_window (inside : start < lines.length) : head = lines[start] := by
  have inWindow : (window lines scanLimit start)[0]? = lines[start + 0]? :=
    getElem?_window (lt_windowEnd inside scanLimit)
  rw [windowed] at inWindow
  simpa [inside] using inWindow

theorem mem_zipIdx_window_tail {line : String} {place : Nat} :
    (line, place) ∈ rest.zipIdx (start + 1) ↔
      start < place ∧ place < windowEnd lines scanLimit start ∧ lines[place]? = some line := by
  have long := length_window lines scanLimit start
  rw [windowed, List.length_cons] at long
  rw [List.mk_mem_zipIdx_iff_le_and_getElem?_sub, Nat.succ_le_iff]
  apply and_congr_right
  intro behind
  have there (inside : place < windowEnd lines scanLimit start) :
      rest[place - (start + 1)]? = lines[place]? := by
    have same : start + (place - (start + 1) + 1) = place := by omega
    have inWindow := getElem?_window (same.symm ▸ inside)
    rwa [windowed, List.getElem?_cons_succ, same] at inWindow
  constructor
  · intro found
    have bound := (List.getElem?_eq_some_iff.mp found).1
    have inside : place < windowEnd lines scanLimit start := by omega
    exact ⟨inside, there inside ▸ found⟩
  · rintro ⟨inside, found⟩
    rw [there inside, found]

variable {final : Nat} {ended : Bool}
  (scanned : scanIndented (indentation head) start (start + 1) rest = (final, ended))

include scanned

theorem lt_windowEnd_of_scanned : final < windowEnd lines scanLimit start := by
  have bounds := scanIndented_bounds (Nat.lt_succ_self start) scanned
  have long := length_window lines scanLimit start
  rw [windowed, List.length_cons] at long
  omega

theorem deeper_of_scanned : Deeper lines (margin head) start final := by
  intro index line behind upTo content
  have inWindow := Nat.lt_of_le_of_lt upTo (lt_windowEnd_of_scanned windowed scanned)
  have member := (mem_zipIdx_window_tail windowed).mpr ⟨behind, inWindow, content.1⟩
  have deep := lt_indentation_of_scanIndented (Nat.lt_succ_self start) scanned member upTo content.2
  rwa [indentation_eq_margin, indentation_eq_margin] at deep

theorem content_of_scanned : final = start ∨ start < final ∧ ∃ line, Content lines final line := by
  rcases content_of_scanIndented scanned with same | ⟨line, member, content⟩
  · exact .inl same
  · have placed := (mem_zipIdx_window_tail windowed).mp member
    exact .inr ⟨placed.1, line, placed.2.2, content⟩

theorem not_content_of_scanned (open_ : ended = false) {index : Nat} {line : String}
    (behind : final < index) (inWindow : index < windowEnd lines scanLimit start) :
    ¬Content lines index line := by
  intro content
  subst open_
  have bounds := scanIndented_bounds (Nat.lt_succ_self start) scanned
  have member := (mem_zipIdx_window_tail windowed).mpr
    ⟨Nat.lt_of_le_of_lt bounds.1 behind, inWindow, content.1⟩
  obtain ⟨low, inRest⟩ := List.mk_mem_zipIdx_iff_le_and_getElem?_sub.mp member
  have blank := isBlankText_of_scanIndented scanned _ line inRest (by omega)
  rw [content.2] at blank
  contradiction

theorem ending_of_scanned (atEnd : ended = true) :
    ∃ next line, final < next ∧ next < windowEnd lines scanLimit start ∧ Content lines next line ∧
      margin line ≤ margin head ∧
      ∀ index other, final < index → index < next → ¬Content lines index other := by
  subst atEnd
  have first := (scanIndented_bounds (Nat.lt_succ_self start) scanned).1
  obtain ⟨line, next, member, behind, content, shallow, between⟩ :=
    ending_of_scanIndented (Nat.lt_succ_self start) scanned
  obtain ⟨_, inWindow, here⟩ := (mem_zipIdx_window_tail windowed).mp member
  rw [indentation_eq_margin, indentation_eq_margin] at shallow
  refine ⟨next, line, behind, inWindow, ⟨here, content⟩, shallow, ?_⟩
  intro index other later before contentToo
  have inRest := (mem_zipIdx_window_tail windowed).mpr
    ⟨Nat.lt_of_le_of_lt first later, Nat.lt_trans before inWindow, contentToo.1⟩
  have blank := between other index inRest later before
  rw [contentToo.2] at blank
  contradiction

end

section

variable {lines : List String} {start : Nat}

/-- An indented body follows the off-side rule, unless the window is too small to show where it ends. -/
theorem byIndentation_cases (scanLimit : Nat) (inside : start < lines.length) :
    let windowEnd := windowEnd lines scanLimit start
    let base := margin lines[start]
    (∃ stop, byIndentation lines scanLimit start = ⟨start, stop, true⟩ ∧
        OffSide lines base windowEnd start stop) ∨
      byIndentation lines scanLimit start = ⟨start, windowEnd - 1, false⟩ ∧ windowEnd < lines.length ∧
        Deeper lines base start (windowEnd - 1) := by
  intro windowEnd base
  have first : start < windowEnd := lt_windowEnd inside scanLimit
  have within : windowEnd ≤ lines.length := windowEnd_le lines scanLimit start
  cases windowed : window lines scanLimit start with
  | nil =>
      have long := length_window lines scanLimit start
      rw [windowed, List.length_nil] at long
      omega
  | cons head rest =>
      have width : margin head = base := by rw [eq_getElem_of_window windowed inside]
      rcases scanned : scanIndented (indentation head) start (start + 1) rest with ⟨final, ended⟩
      have body := byIndentation_of_window windowed scanned
      have deeper := width ▸ deeper_of_scanned windowed scanned
      have last := content_of_scanned windowed scanned
      cases ended with
      | true =>
          rw [if_pos (.inl rfl)] at body
          have ending := width ▸ ending_of_scanned windowed scanned rfl
          exact .inl ⟨final, body, deeper, last, .inl ending⟩
      | false =>
          have nothing {index : Nat} {line : String} (behind : final < index) (inWindow : index < windowEnd) :
              ¬Content lines index line :=
            not_content_of_scanned windowed scanned rfl behind inWindow
          by_cases whole : windowEnd = lines.length
          · rw [if_pos (.inr whole)] at body
            refine .inl ⟨final, body, deeper, last, .inr ⟨whole, ?_⟩⟩
            intro index line behind content
            have inWindow : index < windowEnd := by
              rw [whole]
              exact (List.getElem?_eq_some_iff.mp content.1).1
            exact nothing behind inWindow content
          · rw [if_neg (by simpa using whole)] at body
            refine .inr ⟨body, Nat.lt_of_le_of_ne within whole, ?_⟩
            intro index line behind upTo content
            apply deeper index line behind ?_ content
            by_contra later
            exact nothing (Nat.lt_of_not_le later) (by omega) content

/-- An indented body that closes is the same in every wider window. -/
theorem byIndentation_wider {scanLimit wider : Nat} (more : scanLimit ≤ wider)
    (shut : (byIndentation lines scanLimit start).closed = true) :
    byIndentation lines wider start = byIndentation lines scanLimit start := by
  rcases Nat.lt_or_ge start lines.length with inside | outside
  · rcases byIndentation_cases scanLimit inside with ⟨stop, body, block⟩ | ⟨body, _⟩
    · have shown := block.widen (windowEnd_mono lines more start) (windowEnd_le lines wider start)
      rcases byIndentation_cases wider inside with ⟨last, bodyWide, blockWide⟩ | ⟨_, short, deeper⟩
      · rw [body, bodyWide, blockWide.unique shown]
      · exact absurd deeper (shown.not_deeper short)
    · rw [body] at shut
      contradiction
  · have nothing : byIndentation lines scanLimit start = ⟨start, start, false⟩ :=
      isolate_of_le .indentation scanLimit outside
    rw [nothing] at shut
    contradiction

/-- An indented body that does not close in its window loses nothing but blank lines to a wider one. -/
theorem isBlankText_of_byIndentation {scanLimit wider place : Nat} (inside : start < lines.length)
    (more : scanLimit ≤ wider) (behind : (byIndentation lines wider start).stop < place)
    (within : place ≤ (byIndentation lines scanLimit start).stop) {line : String}
    (found : lines[place]? = some line) : isBlankText line = true := by
  rcases byIndentation_cases scanLimit inside with ⟨stop, body, _⟩ | ⟨body, _, deeper⟩
  · rw [byIndentation_wider more (by rw [body])] at behind
    exact absurd within (Nat.not_le.mpr behind)
  rw [body] at within
  rcases byIndentation_cases wider inside with ⟨stop, bodyWide, block⟩ | ⟨bodyWide, _⟩
  · rw [bodyWide] at behind
    by_contra content
    have reached := (block.le_stop_iff ⟨found, by simpa using content⟩).mpr
      fun index other first upTo => deeper index other first (Nat.le_trans upTo within)
    exact absurd reached (Nat.not_le.mpr behind)
  · rw [bodyWide] at behind
    have later := windowEnd_mono lines more start
    simp only at behind within
    omega

/-- Isolation by indentation is the off-side rule. -/
theorem byIndentation_offSide (lines : List String) (scanLimit : Nat) {start : Nat}
    (inside : start < lines.length) :
    let windowEnd := min (start + max scanLimit 1) lines.length
    let base := margin lines[start]
    (∀ stop, byIndentation lines scanLimit start = ⟨start, stop, true⟩ ↔
        OffSide lines base windowEnd start stop) ∧
      (byIndentation lines scanLimit start = ⟨start, windowEnd - 1, false⟩ ↔
        windowEnd < lines.length ∧ Deeper lines base start (windowEnd - 1)) ∧
      ((byIndentation lines scanLimit start).closed = false →
        byIndentation lines scanLimit start = ⟨start, windowEnd - 1, false⟩) := by
  intro windowEnd base
  rcases byIndentation_cases scanLimit inside with ⟨last, body, block⟩ | ⟨body, short, deeper⟩
  · refine ⟨?_, ?_, ?_⟩
    · intro stop
      rw [body]
      constructor
      · rintro ⟨⟩
        exact block
      · intro other
        rw [block.unique other]
    · rw [body]
      constructor
      · rintro ⟨⟩
      · rintro ⟨short, deeper⟩
        exact absurd deeper (block.not_deeper short)
    · rw [body]
      rintro ⟨⟩
  · refine ⟨?_, ?_, fun _ => body⟩
    · intro stop
      rw [body]
      constructor
      · rintro ⟨⟩
      · intro block
        exact absurd deeper (block.not_deeper short)
    · exact iff_of_true body ⟨short, deeper⟩

/-- The first line is indented by a tab and ends its block at a line indented by four spaces. Between them
stand two blank lines, the second of them behind the block. -/
def tabbedBlock : List String :=
  ["class A:", "\tdef f():", "\t  g()", "", "      h()", "  ", "    def i():", "      j()"]

theorem tabbedBlock_offSide : 1 < tabbedBlock.length ∧ byIndentation tabbedBlock 50 1 = ⟨1, 4, true⟩ ∧
    OffSide tabbedBlock (margin tabbedBlock[1]) 8 1 4 ∧ byIndentation tabbedBlock 5 1 = ⟨1, 5, false⟩ ∧
    Deeper tabbedBlock (margin tabbedBlock[1]) 1 5 := by
  have inside : 1 < tabbedBlock.length := by decide
  have body : byIndentation tabbedBlock 50 1 = ⟨1, 4, true⟩ := by decide +kernel
  have cutOff : byIndentation tabbedBlock 5 1 = ⟨1, 5, false⟩ := by decide +kernel
  have wide := byIndentation_offSide tabbedBlock 50 inside
  have narrow := byIndentation_offSide tabbedBlock 5 inside
  exact ⟨inside, body, (wide.1 4).mp body, cutOff, (narrow.2.1.mp cutOff).2⟩

end

/-! ### Signatures -/

section

def parenthesisMark (c : Char) : BlockMark :=
  if c = '(' then .opening else if c = ')' then .closing else .plain

def parenthesisMarks (line : String) : List BlockMark :=
  line.toList.map parenthesisMark

/-- A parenthesis that line `start` opens is closed on line `last`: counted from it on, that is where as many
have been closed as opened for the first time. -/
def ParenthesisCloses (lines : List String) (start last : Nat) : Prop :=
  ∃ before behind : List PlacedMark,
    marksBetween parenthesisMarks lines start lines.length = before ++ (start, .opening) :: behind ∧
      EndsOn ((start, .opening) :: behind) last

variable {lines : List String} {start last : Nat}

theorem ParenthesisCloses.content (spans : ParenthesisCloses lines start last) :
    ∃ line, Content lines last line := by
  obtain ⟨before, behind, read, earlier, later, split, _⟩ := spans
  have member : (last, .closing) ∈ marksBetween parenthesisMarks lines start lines.length := by
    simp [read, split]
  simp only [marksBetween, List.mem_flatMap, List.mem_map, Prod.mk.injEq] at member
  obtain ⟨⟨line, index⟩, placed, mark, marked, rfl, rfl⟩ := member
  have inText := List.mem_of_mem_take (List.mem_of_mem_drop placed)
  refine ⟨line, List.mk_mem_zipIdx_iff_getElem?.mp inText, ?_⟩
  obtain ⟨c, inLine, closing⟩ := List.mem_map.mp marked
  have isClosing : c = ')' := by
    unfold parenthesisMark at closing
    split at closing
    · contradiction
    split at closing
    · assumption
    · contradiction
  rw [isBlankText, List.all_eq_false]
  exact ⟨c, inLine, by rw [isClosing]; decide⟩

theorem endsOn_opening_iff {rest : List PlacedMark} {line stop : Nat} :
    EndsOn ((line, .opening) :: rest) stop ↔ closingMark? 1 rest = some stop := by
  have whole : fromOpening ((line, .opening) :: rest) = (line, .opening) :: rest := by simp [fromOpening]
  rw [← whole, endsOn_fromOpening_iff, closingMark?]

/-- A parameter list that goes on over several lines belongs to an indented body as long as none of its lines
is indented less than those of a body are. The body ends before the first one that is. -/
theorem signature_within_iff (scanLimit : Nat) (inside : start < lines.length)
    (spans : ParenthesisCloses lines start last) (within : last < min (start + max scanLimit 1) lines.length) :
    (last ≤ (byIndentation lines scanLimit start).stop ↔ Deeper lines (margin lines[start]) start last) ∧
      ∀ index line, start < index → index ≤ last → Content lines index line →
        margin line ≤ margin lines[start] →
          (byIndentation lines scanLimit start).stop < index ∧
            (byIndentation lines scanLimit start).closed = true := by
  obtain ⟨line, content⟩ := spans.content
  rcases byIndentation_cases scanLimit inside with ⟨stop, body, block⟩ | ⟨body, _, deeper⟩
  · rw [body]
    refine ⟨block.le_stop_iff content, ?_⟩
    intro index other behind _ here shallow
    refine ⟨?_, rfl⟩
    by_contra reached
    have deep := block.deeper index other behind (Nat.le_of_not_lt reached) here
    exact absurd deep (Nat.not_lt.mpr shallow)
  · rw [body]
    have upTo : last ≤ windowEnd lines scanLimit start - 1 := Nat.le_sub_one_of_lt within
    constructor
    · apply iff_of_true upTo
      intro index other behind before
      exact deeper index other behind (Nat.le_trans before upTo)
    · intro index other behind before here shallow
      have deep := deeper index other behind (Nat.le_trans before upTo) here
      exact absurd deep (Nat.not_lt.mpr shallow)

/-- The closing parenthesis stands below the declaration. -/
def hangingParenthesis : List String :=
  ["def f(", "    a,", "):", "    g()"]

theorem hangingParenthesis_closes : ParenthesisCloses hangingParenthesis 0 2 := by
  refine ⟨(marksBetween parenthesisMarks hangingParenthesis 0 4).take 5,
    (marksBetween parenthesisMarks hangingParenthesis 0 4).drop 6, by decide +kernel, ?_⟩
  rw [endsOn_opening_iff]
  decide +kernel

/-- The body ends inside the parameter list, before the line that is no deeper than the declaration. -/
theorem hangingParenthesis_left_out :
    ParenthesisCloses hangingParenthesis 0 2 ∧ 2 < min (0 + max 50 1) hangingParenthesis.length ∧
      byIndentation hangingParenthesis 50 0 = ⟨0, 1, true⟩ ∧
      ¬2 ≤ (byIndentation hangingParenthesis 50 0).stop :=
  ⟨hangingParenthesis_closes, by decide, by decide +kernel, by decide +kernel⟩

/-- The parameters stand below each other. -/
def alignedParameters : List String :=
  ["def f(a,", "      b=(1, 2)):", "    g()", "f()"]

theorem alignedParameters_within :
    0 < alignedParameters.length ∧ ParenthesisCloses alignedParameters 0 1 ∧
      1 < min (0 + max 50 1) alignedParameters.length ∧
      1 ≤ (byIndentation alignedParameters 50 0).stop ∧
      Deeper alignedParameters (margin alignedParameters[0]) 0 1 := by
  have inside : 0 < alignedParameters.length := by decide
  have within : 1 < min (0 + max 50 1) alignedParameters.length := by decide
  have reached : 1 ≤ (byIndentation alignedParameters 50 0).stop := by decide +kernel
  have spans : ParenthesisCloses alignedParameters 0 1 := by
    refine ⟨(marksBetween parenthesisMarks alignedParameters 0 4).take 5,
      (marksBetween parenthesisMarks alignedParameters 0 4).drop 6, by decide +kernel, ?_⟩
    rw [endsOn_opening_iff]
    decide +kernel
  exact ⟨inside, spans, within, reached, (signature_within_iff 50 inside spans within).1.mp reached⟩

end

end Body

end Callsite

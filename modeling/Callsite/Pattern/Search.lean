import Callsite.Pattern.Chart

set_option autoImplicit false

/-! Searching a text for a pattern: the leftmost match, or all matches that do not overlap.
`Pattern.starts_eq` says that a search meets at every position the first way to match there. -/

namespace Callsite

structure Found where
  start : Cursor
  way : Way
  deriving DecidableEq, Repr

namespace Found

def stop (found : Found) : Nat :=
  found.way.stop.offset

def isEmpty (found : Found) : Bool :=
  found.stop = found.start.offset

/-- Where group `index` was captured, group 0 being the whole match. -/
def group? (found : Found) (index : Nat) : Option (Cursor × Cursor) :=
  if index = 0 then some (found.start, found.way.stop) else found.way.group? index

end Found

def positions : (rest : List Char) → (before : Option Char) → (offset : Nat) → List Cursor
  | [], before, offset => [⟨before, [], offset⟩]
  | c :: rest, before, offset =>
      ⟨before, c :: rest, offset⟩ :: positions rest (some c) (offset + c.utf8Size)

namespace Pattern

def startAt (pattern : Pattern) (accept : Cursor → Option Way) (later : Thunk Chart)
    (cursor : Cursor) : Thunk Chart × Cursor × Thunk (Option Way) :=
  let outlook := pattern.outlook later cursor ⟨fun _ => accept cursor⟩
  (outlook.chart, cursor, outlook.completion)

theorem startAt_eq (pattern : Pattern) (accept : Cursor → Option Way) (later : Thunk Chart)
    (cursor : Cursor) :
    pattern.startAt accept later cursor =
      (⟨fun _ => pattern.chart later cursor ⟨fun _ => accept cursor⟩⟩, cursor,
        ⟨fun _ => pattern.complete later cursor ⟨fun _ => accept cursor⟩⟩) := by
  rw [startAt, outlook_eq]

/-- The positions from the one before `rest` on, each with the preferred way that ends at a position
which `accept` takes, and the chart of the first of them. -/
def startsFrom (pattern : Pattern) (accept : Cursor → Option Way) :
    (rest : List Char) → (before : Option Char) → (offset : Nat) →
      Thunk Chart × List (Cursor × Thunk (Option Way))
  | [], before, offset =>
      let (chart, start) := pattern.startAt accept (Thunk.pure .blank) ⟨before, [], offset⟩
      (chart, [start])
  | c :: rest, before, offset =>
      let (later, starts) := pattern.startsFrom accept rest (some c) (offset + c.utf8Size)
      let (chart, start) := pattern.startAt accept later ⟨before, c :: rest, offset⟩
      (chart, start :: starts)

def starts (pattern : Pattern) (accept : Cursor → Option Way) (text : List Char) :
    List (Cursor × Thunk (Option Way)) :=
  (pattern.startsFrom accept text none 0).2

theorem startsFrom_eq (pattern : Pattern) (accept : Cursor → Option Way) (rest : List Char) :
    ∀ (before : Option Char) (offset : Nat),
      pattern.Charts (pattern.startsFrom accept rest before offset).1.get accept
          ⟨before, rest, offset⟩ ∧
        (pattern.startsFrom accept rest before offset).2 =
          (positions rest before offset).map fun cursor =>
            (cursor, Thunk.pure (pattern.completed accept cursor)) := by
  have same : ∀ cursor stop : Cursor, nowOr (accept cursor) accept cursor stop = accept stop := by
    intro cursor stop
    unfold nowOr
    split
    · rename_i still
      rw [still]
    · rfl
  induction rest with
  | nil =>
      intro before offset
      have right : ∀ c rest, (⟨before, [], offset⟩ : Cursor).rest = c :: rest →
          pattern.Charts (Thunk.pure Chart.blank).get accept
            ((⟨before, [], offset⟩ : Cursor).past c rest) := by simp
      refine ⟨by
        simp only [startsFrom, startAt_eq]
        exact charts_chart pattern _ _ ⟨fun _ => accept _⟩ accept rfl right, ?_⟩
      have found := complete_eq pattern (Thunk.pure .blank) ⟨before, [], offset⟩
        ⟨fun _ => accept ⟨before, [], offset⟩⟩ accept right
      simp only [startsFrom, startAt_eq, positions, List.map_cons, List.map_nil, found]
      simp only [completed, Thunk.get, same]
      rfl
  | cons c rest ih =>
      intro before offset
      have right : ∀ d more, (⟨before, c :: rest, offset⟩ : Cursor).rest = d :: more →
          pattern.Charts (pattern.startsFrom accept rest (some c) (offset + c.utf8Size)).1.get
            accept ((⟨before, c :: rest, offset⟩ : Cursor).past d more) := by
        intro d more split
        simp only [List.cons.injEq] at split
        obtain ⟨rfl, rfl⟩ := split
        exact (ih (some c) (offset + c.utf8Size)).1
      refine ⟨by
        simp only [startsFrom, startAt_eq]
        exact charts_chart pattern _ _ ⟨fun _ => accept _⟩ accept rfl right, ?_⟩
      have found := complete_eq pattern _ ⟨before, c :: rest, offset⟩
        ⟨fun _ => accept ⟨before, c :: rest, offset⟩⟩ accept right
      simp only [startsFrom, startAt_eq, positions, List.map_cons, found,
        (ih (some c) (offset + c.utf8Size)).2]
      simp only [completed, Thunk.get, same]
      rfl

theorem starts_eq (pattern : Pattern) (accept : Cursor → Option Way) (text : List Char) :
    pattern.starts accept text = (positions text none 0).map fun cursor =>
      (cursor, Thunk.pure (pattern.completed accept cursor)) :=
  (startsFrom_eq pattern accept text none 0).2

def anywhere (cursor : Cursor) : Option Way :=
  some (.here cursor)

def match? (pattern : Pattern) (cursor : Cursor) : Option Way :=
  (pattern.ways cursor).head?

theorem completed_anywhere (pattern : Pattern) (cursor : Cursor) :
    pattern.completed anywhere cursor = pattern.match? cursor := by
  unfold completed anywhere match?
  cases pattern.ways cursor <;> simp

def find? (pattern : Pattern) (text : List Char) : Option Found :=
  (pattern.starts anywhere text).findSome? fun (start, way) => way.get.map (Found.mk start)

theorem find?_eq (pattern : Pattern) (text : List Char) :
    pattern.find? text = (positions text none 0).findSome? fun start =>
      (pattern.match? start).map (Found.mk start) := by
  simp only [find?, starts_eq, List.findSome?_map, completed_anywhere]
  rfl

def overlaps (taken : Option Nat) (start : Cursor) : Bool :=
  taken.any (start.offset < ·)

/-- The matches from left to right, after one that ended at `taken`. They do not overlap, and an
empty match does not touch the one before it. -/
def select (taken : Option Nat) : List (Cursor × Thunk (Option Way)) → List Found
  | [] => []
  | (start, way) :: rest =>
      if overlaps taken start then select taken rest
      else
        match way.get with
        | none => select taken rest
        | some way =>
            let found : Found := ⟨start, way⟩
            if found.isEmpty && taken = some start.offset then select taken rest
            else found :: select (some found.stop) rest

def findAll (pattern : Pattern) (text : List Char) : List Found :=
  select none (pattern.starts anywhere text)

theorem findAll_eq (pattern : Pattern) (text : List Char) :
    pattern.findAll text = select none ((positions text none 0).map fun start =>
      (start, Thunk.pure (pattern.match? start))) := by
  simp only [findAll, starts_eq, completed_anywhere]

def atEnd (cursor : Cursor) : Option Way :=
  if cursor.rest.isEmpty then some (.here cursor) else none

def fits (pattern : Pattern) (text : List Char) : Bool :=
  (pattern.starts atEnd text).head?.any fun (_, way) => way.get.isSome

end Pattern

end Callsite

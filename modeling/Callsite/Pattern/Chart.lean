import Callsite.Pattern.Match

set_option autoImplicit false

/-! Finding the preferred way without trying all. What a match can still achieve from a place of the
pattern depends on the position only, so a chart keeps it, for one position, at every place where a
character has been consumed; charts are built when asked for and each entry is computed at most once.
`Pattern.complete_eq` says that the way found is the first of `Pattern.ways` that can be completed, and
`Pattern.outlook_eq` that the search which shares all entries finds the same. -/

namespace Callsite

namespace Pattern

/-- The first way from `cursor` that `next` can complete, completed. -/
def completed (pattern : Pattern) (next : Cursor → Option Way) (cursor : Cursor) : Option Way :=
  (pattern.ways cursor).findSome? fun way => (next way.stop).map way.append

/-- The completion of a match from inside the body of a repetition, after a round that made progress. -/
def completedFurther (body : Cursor → List Way) (greedy : Bool) (next : Cursor → Option Way)
    (cursor : Cursor) : Option Way :=
  (furtherWays body greedy cursor).findSome? fun way => (next way.stop).map way.append

end Pattern

/-- For one position, how a match is completed after each set of characters in a pattern. Sequences
and choices fork; the entries stand where the sets do. -/
inductive Chart where
  | blank
  | entry (completion : Thunk (Option Way))
  | fork (left right : Thunk Chart)

namespace Chart

def completion : Chart → Option Way
  | entry completion => completion.get
  | _ => none

def left : Chart → Chart
  | fork left _ => left.get
  | _ => blank

def right : Chart → Chart
  | fork _ right => right.get
  | _ => blank

def leftOf (chart : Thunk Chart) : Thunk Chart :=
  ⟨fun _ => chart.get.left⟩

def rightOf (chart : Thunk Chart) : Thunk Chart :=
  ⟨fun _ => chart.get.right⟩

end Chart

namespace Pattern

open Chart

/-- The preferred way from `cursor` on, where `later` is the chart of the position after the next
character and `next` completes a match that has consumed nothing since `cursor`. -/
def complete : (pattern : Pattern) → (later : Thunk Chart) → Cursor →
    (next : Thunk (Option Way)) → Option Way
  | empty, _, _, next => next.get
  | chars set, later, cursor, _ =>
      match cursor.rest with
      | [] => none
      | c :: _ => if set.has c then later.get.completion else none
  | look condition, _, cursor, next =>
      if condition.holds cursor.before cursor.rest.head? then next.get else none
  | seq first second, later, cursor, next =>
      complete first (leftOf later) cursor
        ⟨fun _ => complete second (rightOf later) cursor next⟩
  | alt first second, later, cursor, next =>
      (complete first (leftOf later) cursor next).or
        (complete second (rightOf later) cursor next)
  | group index body, later, cursor, next =>
      (complete body later cursor ⟨fun _ => next.get.map (.closedAt index cursor)⟩).map
        (.openedAt index cursor)
  | repeated _ body, later, cursor, next => complete body later cursor next

def completeFurther (body : Pattern) (greedy : Bool) (later : Thunk Chart) (cursor : Cursor)
    (next : Thunk (Option Way)) : Option Way :=
  if greedy then (complete body later cursor (Thunk.pure none)).or next.get
  else next.get.or (complete body later cursor (Thunk.pure none))

def chart : (pattern : Pattern) → (later : Thunk Chart) → Cursor → (next : Thunk (Option Way)) →
    Chart
  | empty, _, _, _ => .blank
  | chars _, _, _, next => .entry next
  | look _, _, _, _ => .blank
  | seq first second, later, cursor, next =>
      .fork
        ⟨fun _ => chart first (leftOf later) cursor
          ⟨fun _ => complete second (rightOf later) cursor next⟩⟩
        ⟨fun _ => chart second (rightOf later) cursor next⟩
  | alt first second, later, cursor, next =>
      .fork
        ⟨fun _ => chart first (leftOf later) cursor next⟩
        ⟨fun _ => chart second (rightOf later) cursor next⟩
  | group index body, later, cursor, next =>
      chart body later cursor ⟨fun _ => next.get.map (.closedAt index cursor)⟩
  | repeated greedy body, later, cursor, next =>
      chart body later cursor ⟨fun _ => completeFurther body greedy later cursor next⟩

def Charts : Pattern → Chart → (next : Cursor → Option Way) → Cursor → Prop
  | empty, _, _, _ => True
  | chars _, chart, next, cursor => chart.completion = next cursor
  | look _, _, _, _ => True
  | seq first second, chart, next, cursor =>
      Charts first chart.left (second.completed next) cursor ∧
        Charts second chart.right next cursor
  | alt first second, chart, next, cursor =>
      Charts first chart.left next cursor ∧ Charts second chart.right next cursor
  | group index body, chart, next, cursor =>
      Charts body chart (fun stop => (next stop).map (.closedAt index stop)) cursor
  | repeated greedy body, chart, next, cursor =>
      Charts body chart (completedFurther body.ways greedy next) cursor

/-- The completion of a match by `now` where nothing has been consumed since `cursor`, by `next`
elsewhere. -/
def nowOr (now : Option Way) (next : Cursor → Option Way) (cursor stop : Cursor) : Option Way :=
  if stop = cursor then now else next stop

private theorem findSome?_flatMap {α β γ : Type} (list : List β) (f : β → List γ)
    (g : γ → Option α) :
    (list.flatMap f).findSome? g = list.findSome? fun item => (f item).findSome? g := by
  induction list with
  | nil => rfl
  | cons head tail ih =>
      rw [List.flatMap_cons, List.findSome?_append, ih, List.findSome?_cons]
      cases (f head).findSome? g <;> rfl

private theorem findSome?_congr {α β : Type} {list : List α} {f g : α → Option β}
    (same : ∀ item ∈ list, f item = g item) : list.findSome? f = list.findSome? g := by
  induction list with
  | nil => rfl
  | cons head tail ih =>
      rw [List.findSome?_cons, List.findSome?_cons, same head (by simp),
        ih fun item member => same item (by simp [member])]

private theorem map_findSome? {α β γ : Type} (list : List α) (f : α → Option β) (g : β → γ) :
    (list.findSome? f).map g = list.findSome? fun item => (f item).map g := by
  induction list with
  | nil => rfl
  | cons head tail ih =>
      rw [List.findSome?_cons, List.findSome?_cons, ← ih]
      cases f head <;> rfl

private theorem nowOr_map (now : Option Way) (next : Cursor → Option Way) (cursor stop : Cursor)
    (change : Cursor → Way → Way) :
    nowOr (now.map (change cursor)) (fun stop => (next stop).map (change stop)) cursor stop =
      (nowOr now next cursor stop).map (change stop) := by
  unfold nowOr
  split
  · rename_i still
    rw [still]
  · rfl

private theorem findSome?_map_append (way : Way) (ways : List Way) (next : Cursor → Option Way) :
    ((ways.map way.append).findSome? fun whole => (next whole.stop).map whole.append) =
      (ways.findSome? fun part => (next part.stop).map part.append).map way.append := by
  induction ways with
  | nil => rfl
  | cons head tail ih =>
      rw [List.map_cons, List.findSome?_cons, List.findSome?_cons, ih]
      have same : (way.append head).stop = head.stop := rfl
      rw [same]
      cases next head.stop <;> simp [Way.append_assoc]

private theorem not_at_of_shorter {cursor stop : Cursor}
    (shorter : stop.rest.length < cursor.rest.length) : stop ≠ cursor := by
  rintro rfl
  exact Nat.lt_irrefl _ shorter

theorem complete_eq (pattern : Pattern) :
    ∀ (later : Thunk Chart) (cursor : Cursor) (now : Thunk (Option Way))
      (next : Cursor → Option Way),
      (∀ c rest, cursor.rest = c :: rest →
        Charts pattern later.get next (cursor.past c rest)) →
      complete pattern later cursor now =
        pattern.completed (nowOr now.get next cursor) cursor := by
  induction pattern with
  | empty =>
      intro later cursor now next right
      simp [complete, completed, ways, nowOr, Way.here]
      cases now.get <;> simp [Way.append]
  | chars set =>
      intro later cursor now next right
      rw [complete, completed, ways]
      cases here : cursor.rest with
      | nil => rfl
      | cons c rest =>
          by_cases member : set.has c
          · have entry : later.get.completion = next (cursor.past c rest) := right c rest here
            have moved : cursor.past c rest ≠ cursor :=
              not_at_of_shorter (by rw [here]; simp [Cursor.past])
            simp only [member, if_true, List.findSome?_cons, List.findSome?_nil, nowOr, Way.here,
              moved, if_false, entry]
            cases next (cursor.past c rest) <;> simp [Way.append]
          · simp [member]
  | look condition =>
      intro later cursor now next right
      rw [complete, completed, ways]
      split
      · simp [nowOr, Way.here]
        cases now.get <;> simp [Way.append]
      · rfl
  | seq first second ihFirst ihSecond =>
      intro later cursor now next right
      rw [complete,
        ihFirst (leftOf later) _ _ (second.completed next) fun c rest here => (right c rest here).1,
        completed, completed, ways, findSome?_flatMap]
      refine findSome?_congr fun way member => ?_
      rw [findSome?_map_append]
      congr 1
      unfold nowOr
      split
      · rename_i still
        show complete second _ cursor now = _
        rw [ihSecond (rightOf later) _ _ next fun c rest here => (right c rest here).2, completed, still]
        rfl
      · rename_i moved
        have shorter := (mem_ways member).resolve_left moved
        refine findSome?_congr fun further inSecond => ?_
        have past : further.stop ≠ cursor := not_at_of_shorter (by
          rcases mem_ways inSecond with same | less
          · rw [same]; exact shorter
          · exact Nat.lt_trans less shorter)
        simp [past]
  | alt first second ihFirst ihSecond =>
      intro later cursor now next right
      rw [complete, ihFirst (leftOf later) _ _ next fun c rest here => (right c rest here).1,
        ihSecond (rightOf later) _ _ next fun c rest here => (right c rest here).2]
      simp only [completed, ways, List.findSome?_append]
  | group index body ih =>
      intro later cursor now next right
      rw [complete, ih _ _ _ (fun stop => (next stop).map (.closedAt index stop)) right]
      rw [completed, completed, ways, map_findSome?, List.findSome?_map]
      refine findSome?_congr fun way _ => ?_
      show ((nowOr (now.get.map (Way.closedAt index cursor))
        (fun stop => (next stop).map (Way.closedAt index stop)) cursor way.stop).map way.append).map
          (Way.openedAt index cursor) = (nowOr now.get next cursor way.stop).map _
      rw [nowOr_map]
      cases nowOr now.get next cursor way.stop <;>
        simp [Way.append, Way.closedAt, Way.openedAt, Way.here]
  | repeated greedy body ih =>
      intro later cursor now next right
      rw [complete, ih _ _ _ (completedFurther body.ways greedy next) right]
      rw [completed, completed, ways, findSome?_flatMap]
      refine findSome?_congr fun way member => ?_
      unfold nowOr
      split
      · rename_i still
        simp [still]
      · rename_i moved
        have shorter := (mem_ways member).resolve_left moved
        rw [completedFurther, ← findSome?_map_append]
        refine findSome?_congr fun whole inWhole => ?_
        obtain ⟨further, inFurther, rfl⟩ := List.mem_map.mp inWhole
        have past : (way.append further).stop ≠ cursor := not_at_of_shorter (by
          have late : AtOrAfter way.stop further.stop := mem_furtherWays inFurther
          rcases late with same | less
          · rw [show (way.append further).stop = way.stop from same]; exact shorter
          · exact Nat.lt_trans less shorter)
        rw [if_neg past]

theorem completeFurther_eq (body : Pattern) (greedy : Bool) (later : Thunk Chart)
    (cursor : Cursor) (now : Thunk (Option Way)) (next : Cursor → Option Way)
    (here : now.get = next cursor)
    (right : ∀ c rest, cursor.rest = c :: rest →
      Charts body later.get (completedFurther body.ways greedy next) (cursor.past c rest)) :
    completeFurther body greedy later cursor now =
      completedFurther body.ways greedy next cursor := by
  have round : complete body later cursor (Thunk.pure none) =
      ((body.ways cursor).flatMap fun way =>
        if way.stop.rest.length < cursor.rest.length then
          (furtherWays body.ways greedy way.stop).map way.append
        else []).findSome? fun way => (next way.stop).map way.append := by
    rw [complete_eq body later cursor _ _ right, completed, findSome?_flatMap]
    refine findSome?_congr fun way member => ?_
    unfold nowOr
    rcases mem_ways member with still | shorter
    · rw [if_pos still, if_neg (by rw [still]; exact Nat.lt_irrefl _)]
      rfl
    · rw [if_neg (not_at_of_shorter shorter), if_pos shorter, findSome?_map_append,
        completedFurther]
  have leave : ((Way.here cursor :: []).findSome? fun way => (next way.stop).map way.append) =
      now.get := by
    rw [here, List.findSome?_cons]
    have same : (Way.here cursor).stop = cursor := rfl
    rw [same]
    cases next cursor <;> simp
  rw [completeFurther, completedFurther, furtherWays, round, ← leave]
  cases greedy
  · simp only [Bool.false_eq_true, if_false]
    rw [← List.findSome?_append]
    rfl
  · simp only [if_true]
    rw [List.findSome?_append]

theorem charts_chart (pattern : Pattern) :
    ∀ (later : Thunk Chart) (cursor : Cursor) (now : Thunk (Option Way))
      (next : Cursor → Option Way), now.get = next cursor →
      (∀ c rest, cursor.rest = c :: rest →
        Charts pattern later.get next (cursor.past c rest)) →
      Charts pattern (chart pattern later cursor now) next cursor := by
  induction pattern with
  | empty => intros; trivial
  | chars set => intro later cursor now next here right; exact here
  | look condition => intros; trivial
  | seq first second ihFirst ihSecond =>
      intro later cursor now next here right
      refine ⟨ihFirst (leftOf later) _ _ _ ?_ fun c rest more => (right c rest more).1,
        ihSecond (rightOf later) _ _ _ here fun c rest more => (right c rest more).2⟩
      show complete second _ cursor now = second.completed next cursor
      rw [complete_eq second (rightOf later) _ _ next fun c rest more => (right c rest more).2]
      refine findSome?_congr fun way _ => ?_
      unfold nowOr
      split
      · rename_i still
        rw [still, here]
      · rfl
  | alt first second ihFirst ihSecond =>
      intro later cursor now next here right
      exact ⟨ihFirst (leftOf later) _ _ _ here fun c rest more => (right c rest more).1,
        ihSecond (rightOf later) _ _ _ here fun c rest more => (right c rest more).2⟩
  | group index body ih =>
      intro later cursor now next here right
      refine ih _ _ _ _ ?_ right
      show now.get.map _ = _
      rw [here]
  | repeated greedy body ih =>
      intro later cursor now next here right
      exact ih _ _ _ _ (completeFurther_eq body greedy later cursor now next here right) right

structure Outlook where
  chart : Thunk Chart
  completion : Thunk (Option Way)

/-- Finds the same as `chart` and `complete`. What follows a part of a sequence is found once for both,
and once for all parts before it. -/
def outlook : (pattern : Pattern) → (later : Thunk Chart) → Cursor → (next : Thunk (Option Way)) →
    Outlook
  | empty, _, _, next => ⟨Thunk.pure .blank, next⟩
  | chars set, later, cursor, next =>
      ⟨⟨fun _ => .entry next⟩, ⟨fun _ => complete (chars set) later cursor next⟩⟩
  | look condition, later, cursor, next =>
      ⟨Thunk.pure .blank, ⟨fun _ => complete (look condition) later cursor next⟩⟩
  | seq first second, later, cursor, next =>
      let rest : Thunk Outlook := ⟨fun _ => outlook second (rightOf later) cursor next⟩
      let start := outlook first (leftOf later) cursor ⟨fun _ => rest.get.completion.get⟩
      ⟨⟨fun _ => .fork start.chart ⟨fun _ => rest.get.chart.get⟩⟩, start.completion⟩
  | alt first second, later, cursor, next =>
      let left : Thunk Outlook := ⟨fun _ => outlook first (leftOf later) cursor next⟩
      let right : Thunk Outlook := ⟨fun _ => outlook second (rightOf later) cursor next⟩
      ⟨⟨fun _ => .fork ⟨fun _ => left.get.chart.get⟩ ⟨fun _ => right.get.chart.get⟩⟩,
        ⟨fun _ => left.get.completion.get.or right.get.completion.get⟩⟩
  | group index body, later, cursor, next =>
      let inner := outlook body later cursor ⟨fun _ => next.get.map (.closedAt index cursor)⟩
      ⟨inner.chart, ⟨fun _ => inner.completion.get.map (.openedAt index cursor)⟩⟩
  | repeated greedy body, later, cursor, next =>
      let again : Thunk Outlook := ⟨fun _ => outlook body later cursor (Thunk.pure none)⟩
      let further : Thunk (Option Way) := ⟨fun _ =>
        if greedy then again.get.completion.get.or next.get
        else next.get.or again.get.completion.get⟩
      ⟨⟨fun _ => (outlook body later cursor further).chart.get⟩,
        ⟨fun _ => (outlook body later cursor next).completion.get⟩⟩

theorem outlook_eq (pattern : Pattern) :
    ∀ (later : Thunk Chart) (cursor : Cursor) (next : Thunk (Option Way)),
      pattern.outlook later cursor next =
        ⟨⟨fun _ => pattern.chart later cursor next⟩, ⟨fun _ => pattern.complete later cursor next⟩⟩ := by
  induction pattern with
  | empty => intros; rfl
  | chars set => intros; rfl
  | look condition => intros; rfl
  | seq first second ihFirst ihSecond =>
      intro later cursor next
      simp only [outlook, chart, complete, ihFirst, ihSecond]
      rfl
  | alt first second ihFirst ihSecond =>
      intro later cursor next
      simp only [outlook, chart, complete, ihFirst, ihSecond]
      rfl
  | group index body ih =>
      intro later cursor next
      simp only [outlook, chart, complete, ih]
      rfl
  | repeated greedy body ih =>
      intro later cursor next
      simp only [outlook, chart, complete, completeFurther, ih]
      rfl

end Pattern

end Callsite

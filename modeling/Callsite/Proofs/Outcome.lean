import Mathlib.Data.List.Forall2
import Callsite.Trace

set_option autoImplicit false

/-! Computations that may fail on a state that survives the failure: what they come to, and three ways to
speak of all their runs. A computation meets a condition if its outcome does from every admitted state;
it yields values of a kind if it comes to no others; and it agrees with a value if it comes to that value
and keeps an invariant of the state. -/

namespace Callsite

section

variable {σ α β : Type}

/-- What `action` comes to on `state`: its result and the state after it. -/
def outcome (action : ExceptT Failure (StateM σ) α) (state : σ) : Except Failure α × σ :=
  action.run.run state

@[simp] theorem outcome_pure (value : α) (state : σ) :
    outcome (pure value : ExceptT Failure (StateM σ) α) state = (.ok value, state) :=
  rfl

theorem outcome_bind (action : ExceptT Failure (StateM σ) α)
    (next : α → ExceptT Failure (StateM σ) β) (state : σ) :
    outcome (action >>= next) state =
      match outcome action state with
      | (.ok value, state) => outcome (next value) state
      | (.error failure, state) => (.error failure, state) := by
  simp only [outcome, ExceptT.run_bind, StateT.run_bind]
  rcases action.run.run state with ⟨failure | value, after⟩
  · rfl
  · rfl

theorem outcome_bind_ok {action : ExceptT Failure (StateM σ) α}
    {next : α → ExceptT Failure (StateM σ) β} {state after : σ} {value : α}
    (first : outcome action state = (.ok value, after)) :
    outcome (action >>= next) state = outcome (next value) after := by
  rw [outcome_bind, first]

theorem outcome_bind_error {action : ExceptT Failure (StateM σ) α}
    {next : α → ExceptT Failure (StateM σ) β} {state after : σ} {failure : Failure}
    (first : outcome action state = (.error failure, after)) :
    outcome (action >>= next) state = (.error failure, after) := by
  rw [outcome_bind, first]

@[simp] theorem outcome_get (state : σ) :
    outcome (get : ExceptT Failure (StateM σ) σ) state = (.ok state, state) :=
  rfl

@[simp] theorem outcome_modify (change : σ → σ) (state : σ) :
    outcome (modify change : ExceptT Failure (StateM σ) PUnit) state = (.ok ⟨⟩, change state) :=
  rfl

@[simp] theorem outcome_set (after state : σ) :
    outcome (set after : ExceptT Failure (StateM σ) PUnit) state = (.ok ⟨⟩, after) :=
  rfl

@[simp] theorem outcome_throw (failure : Failure) (state : σ) :
    outcome (throw failure : ExceptT Failure (StateM σ) α) state = (.error failure, state) :=
  rfl

@[simp] theorem outcome_ofExcept (result : Except Failure α) (state : σ) :
    outcome (MonadExcept.ofExcept result : ExceptT Failure (StateM σ) α) state = (result, state) := by
  cases result <;> rfl

/-! ### Conditions on outcomes -/

/-- From every state that satisfies `pre`, the outcome of `action` satisfies `post`. -/
def Meets (pre : σ → Prop) (action : ExceptT Failure (StateM σ) α)
    (post : Except Failure α → σ → Prop) : Prop :=
  ∀ state, pre state → post (outcome action state).1 (outcome action state).2

namespace Meets

variable {pre : σ → Prop} {mid : Except Failure α → σ → Prop} {post : Except Failure β → σ → Prop}

theorem pure {post : Except Failure α → σ → Prop} {value : α}
    (holds : ∀ state, pre state → post (.ok value) state) :
    Meets pre (pure value) post :=
  holds

theorem bind {action : ExceptT Failure (StateM σ) α} {next : α → ExceptT Failure (StateM σ) β}
    (first : Meets pre action mid) (second : ∀ value, Meets (mid (.ok value)) (next value) post)
    (failed : ∀ failure state, mid (.error failure) state → post (.error failure) state) :
    Meets pre (action >>= next) post := by
  intro state holds
  have between := first state holds
  rw [outcome_bind]
  rcases step : outcome action state with ⟨failure | value, after⟩
  · rw [step] at between
    exact failed failure after between
  · rw [step] at between
    exact second value after between

/-- What follows settles the condition alone. -/
theorem bind_any {action : ExceptT Failure (StateM σ) α} {next : α → ExceptT Failure (StateM σ) β}
    (second : ∀ value, Meets (fun _ => True) (next value) post)
    (failed : ∀ failure state, post (.error failure) state) :
    Meets pre (action >>= next) post := by
  intro state _
  rw [outcome_bind]
  rcases outcome action state with ⟨failure | value, after⟩
  · exact failed failure after
  · exact second value after trivial

end Meets

/-- If `action` comes to a value, from whatever state, the value satisfies `holds`. -/
def Yields (action : ExceptT Failure (StateM σ) α) (holds : α → Prop) : Prop :=
  Meets (fun _ => True) action fun result _ => ∀ value, result = .ok value → holds value

namespace Yields

variable {action : ExceptT Failure (StateM σ) α} {next : α → ExceptT Failure (StateM σ) β}
  {between weaker : α → Prop} {holds : β → Prop}

theorem pure {value : α} (known : between value) :
    Yields (pure value : ExceptT Failure (StateM σ) α) between := by
  intro state _ other same
  cases same
  exact known

theorem imp (known : Yields action between) (weaken : ∀ value, between value → weaker value) :
    Yields action weaker :=
  fun state _ value came => weaken value (known state trivial value came)

theorem bind (first : Yields action between)
    (second : ∀ value, between value → Yields (next value) holds) : Yields (action >>= next) holds := by
  refine Meets.bind first (fun value state known => ?_) fun _ _ _ => nofun
  exact second value (known value rfl) state trivial

theorem bind_any (second : ∀ value, Yields (next value) holds) : Yields (action >>= next) holds :=
  Meets.bind_any second fun _ _ => nofun

theorem mapM {compute : α → ExceptT Failure (StateM σ) β} {items : List α}
    (each : ∀ item ∈ items, Yields (compute item) holds) :
    Yields (items.mapM compute) fun values => ∀ value ∈ values, holds value := by
  induction items with
  | nil => exact Yields.pure nofun
  | cons item rest ih =>
      obtain ⟨here, later⟩ := List.forall_mem_cons.mp each
      rw [List.mapM_cons]
      refine bind here fun value known => ?_
      refine bind (ih later) fun values knownRest => ?_
      exact Yields.pure (List.forall_mem_cons.mpr ⟨known, knownRest⟩)

end Yields

/-! ### Agreement with a value -/

/-- From every state that satisfies `sound`, `action` comes to `expected` and to such a state again. -/
def Agrees (sound : σ → Prop) (action : ExceptT Failure (StateM σ) α)
    (expected : Except Failure α) : Prop :=
  Meets sound action fun result state => result = expected ∧ sound state

namespace Agrees

variable {sound : σ → Prop}

theorem pure (value : α) : Agrees sound (pure value) (.ok value) :=
  Meets.pure fun _ holds => ⟨rfl, holds⟩

theorem bind {action : ExceptT Failure (StateM σ) α} {next : α → ExceptT Failure (StateM σ) β}
    {first : Except Failure α} {second : α → Except Failure β} (here : Agrees sound action first)
    (there : ∀ value, first = .ok value → Agrees sound (next value) (second value)) :
    Agrees sound (action >>= next) (first >>= second) := by
  refine Meets.bind here (fun value => ?_) ?_
  · rintro state ⟨found, holds⟩
    rw [← found]
    exact there value found.symm state holds
  · rintro failure state ⟨found, holds⟩
    rw [← found]
    exact ⟨rfl, holds⟩

theorem bind_ok {action : ExceptT Failure (StateM σ) α} {next : α → ExceptT Failure (StateM σ) β}
    {value : α} {expected : Except Failure β} (here : Agrees sound action (.ok value))
    (there : Agrees sound (next value) expected) : Agrees sound (action >>= next) expected := by
  have both : Agrees sound (action >>= next) (Except.ok value >>= fun _ => expected) :=
    here.bind fun _ same => Except.ok.inj same ▸ there
  exact both

theorem exists_outcome {action : ExceptT Failure (StateM σ) α} {expected : Except Failure α}
    (agrees : Agrees sound action expected) {state : σ} (holds : sound state) :
    ∃ after, outcome action state = (expected, after) ∧ sound after := by
  obtain ⟨came, kept⟩ := agrees state holds
  exact ⟨_, Prod.ext came rfl, kept⟩

end Agrees

end

/-! ### Results of lists -/

theorem eq_ok_of_toOption {ε α : Type} {result : Except ε α} {value : α}
    (came : result.toOption = some value) : result = .ok value := by
  cases result with
  | error failure => cases came
  | ok found => exact congrArg Except.ok (Option.some.inj came)

theorem bind_eq_ok_iff {ε α β : Type} {result : Except ε α} {next : α → Except ε β}
    {value : β} : result >>= next = .ok value ↔ ∃ found, result = .ok found ∧ next found = .ok value := by
  cases result with
  | error failure => simp [bind, Except.bind]
  | ok found => simp [bind, Except.bind]

theorem exists_ok_of_map_eq {ε α β γ : Type} {left : Except ε α} {right : Except ε β} {image : α → γ}
    {imageToo : β → γ} (same : left.map image = right.map imageToo) {value : α} (came : left = .ok value) :
    ∃ other, right = .ok other ∧ imageToo other = image value := by
  rw [came] at same
  cases right with
  | error failure => contradiction
  | ok other => exact ⟨other, rfl, (Except.ok.inj same).symm⟩

theorem mapM_eq_ok_iff {ε α β : Type} {compute : α → Except ε β} {items : List α}
    {results : List β} :
    items.mapM compute = .ok results ↔
      List.Forall₂ (fun item result => compute item = .ok result) items results := by
  induction items generalizing results with
  | nil =>
      rw [List.mapM_nil, List.forall₂_nil_left_iff]
      exact ⟨fun same => (Except.ok.inj same).symm, fun same => congrArg Except.ok same.symm⟩
  | cons head rest ih =>
      rw [List.mapM_cons, bind_eq_ok_iff, List.forall₂_cons_left_iff]
      refine exists_congr fun first => ?_
      rw [bind_eq_ok_iff]
      constructor
      · rintro ⟨found, others, computed, same⟩
        exact ⟨others, found, ih.mp computed, (Except.ok.inj same).symm⟩
      · rintro ⟨others, found, computed, rfl⟩
        exact ⟨found, others, ih.mpr computed, rfl⟩

theorem exists_of_mem_mapM {ε α β : Type} {compute : α → Except ε β} {items : List α}
    {results : List β} (computed : items.mapM compute = .ok results) {result : β}
    (member : result ∈ results) : ∃ item ∈ items, compute item = .ok result := by
  induction mapM_eq_ok_iff.mp computed with
  | nil => contradiction
  | @cons item first items results here rest ih =>
      rcases List.mem_cons.mp member with rfl | later
      · exact ⟨item, List.mem_cons_self, here⟩
      · obtain ⟨other, inRest, found⟩ := ih (mapM_eq_ok_iff.mpr rest) later
        exact ⟨other, List.mem_cons_of_mem item inRest, found⟩

theorem bind_congr_of_ok {ε α β : Type} {result : Except ε α} {next other : α → Except ε β}
    (same : ∀ value, result = .ok value → next value = other value) :
    result >>= next = result >>= other := by
  cases result with
  | error failure => rfl
  | ok value => exact same value rfl

theorem exists_of_mapM {ε α β : Type} {compute : α → Except ε β} {items : List α}
    (each : ∀ item ∈ items, ∃ result, compute item = .ok result) :
    ∃ results, items.mapM compute = .ok results := by
  induction items with
  | nil => exact ⟨[], rfl⟩
  | cons item rest ih =>
      obtain ⟨first, here⟩ := each item List.mem_cons_self
      obtain ⟨results, later⟩ := ih fun other member => each other (List.mem_cons_of_mem item member)
      refine ⟨first :: results, ?_⟩
      rw [List.mapM_cons, here, later]
      rfl

theorem exists_mapM_of_map {ε α β γ : Type} {compute : α → Except ε β} {image : β → γ}
    {expected : α → γ} {items : List α}
    (each : ∀ item ∈ items, ∃ result, compute item = .ok result ∧ image result = expected item) :
    ∃ results, items.mapM compute = .ok results ∧ results.map image = items.map expected := by
  induction items with
  | nil => exact ⟨[], rfl, rfl⟩
  | cons item rest ih =>
      obtain ⟨first, here, same⟩ := each item List.mem_cons_self
      obtain ⟨results, later, sameLater⟩ :=
        ih fun other member => each other (List.mem_cons_of_mem item member)
      refine ⟨first :: results, ?_, ?_⟩
      · rw [List.mapM_cons, here, later]
        rfl
      · rw [List.map_cons, List.map_cons, same, sameLater]

theorem mapM_congr_of_mem {ε α β : Type} {compute other : α → Except ε β} {items : List α}
    (same : ∀ item ∈ items, compute item = other item) : items.mapM compute = items.mapM other := by
  induction items with
  | nil => rfl
  | cons item rest ih =>
      rw [List.mapM_cons, List.mapM_cons, same item List.mem_cons_self,
        ih fun next member => same next (List.mem_cons_of_mem item member)]

theorem mapM_filter_eq_ok {ε α β : Type} {compute : α → Except ε β} {items : List α}
    {results : List β} (computed : items.mapM compute = .ok results) {stays : α → Bool}
    {remains : β → Bool}
    (same : ∀ item ∈ items, ∀ result, compute item = .ok result → remains result = stays item) :
    (items.filter stays).mapM compute = .ok (results.filter remains) := by
  induction mapM_eq_ok_iff.mp computed with
  | nil => rfl
  | @cons item first items results here rest ih =>
      have later := ih (mapM_eq_ok_iff.mpr rest) fun other member =>
        same other (List.mem_cons_of_mem item member)
      have test := same item List.mem_cons_self first here
      by_cases stay : stays item = true
      · rw [List.filter_cons_of_pos stay, List.filter_cons_of_pos (test.trans stay), List.mapM_cons,
          here, later]
        rfl
      · rw [List.filter_cons_of_neg stay, List.filter_cons_of_neg (test ▸ stay), later]

theorem map_eq_of_mapM {ε α β : Type} {compute : α → Except ε β} {items : List α} {results : List β}
    (computed : items.mapM compute = .ok results) (back : β → α)
    (undoes : ∀ item ∈ items, ∀ result, compute item = .ok result → back result = item) :
    results.map back = items := by
  induction mapM_eq_ok_iff.mp computed with
  | nil => rfl
  | @cons item first items results here rest ih =>
      have later := ih (mapM_eq_ok_iff.mpr rest) fun other member =>
        undoes other (List.mem_cons_of_mem item member)
      rw [List.map_cons, undoes item List.mem_cons_self first here, later]

/-! ### Outcomes of the lookups that remember -/

namespace Workspace

variable (workspace : Workspace) (session : Session)

theorem outcome_files (root : Path) :
    outcome (workspace.files root) session =
      match session.listings.find? root.parts with
      | some files => (.ok files, session)
      | none =>
          match workspace.corpus.list root workspace.filter with
          | .error failure => (.error failure, { session with listed := session.listed ++ [root] })
          | .ok files => (.ok files, { session with
              listed := session.listed ++ [root]
              listings := session.listings.insert root.parts files }) := by
  rw [files, outcome_bind, outcome_get]
  cases hit : session.listings.find? root.parts with
  | some found => simp only [hit, outcome_pure]
  | none =>
      simp only [hit, outcome_bind, outcome_modify, outcome_ofExcept]
      cases workspace.corpus.list root workspace.filter <;> rfl

theorem outcome_lines? (path : Path) :
    outcome (workspace.lines? path) session =
      match session.sources.find? path.parts with
      | some lines => (.ok lines, session)
      | none =>
          let lines := (workspace.corpus.read? path).map Text.lines
          (.ok lines, { session with
            reads := session.reads ++ [path]
            sources := session.sources.insert path.parts lines }) := by
  rw [lines?, outcome_bind, outcome_get]
  cases hit : session.sources.find? path.parts with
  | some found => simp only [hit, outcome_pure]
  | none => simp only [hit, outcome_bind, outcome_modify, outcome_pure]

theorem outcome_rulesFor (language name : String) :
    outcome (workspace.rulesFor language name) session =
      match session.rules.find? (language, name) with
      | some rules => (.ok rules, session)
      | none =>
          match (workspace.registry.language language).rulesFor name with
          | .error fault => (.error (.pattern fault), session)
          | .ok rules =>
              (.ok rules, { session with rules := session.rules.insert (language, name) rules }) := by
  rw [rulesFor, outcome_bind, outcome_get]
  cases hit : session.rules.find? (language, name) with
  | some found => simp only [hit, outcome_pure]
  | none =>
      simp only [hit]
      cases (workspace.registry.language language).rulesFor name with
      | error fault => simp only [outcome_throw]
      | ok rules => simp only [outcome_bind, outcome_modify, outcome_pure]

def searchDefinition? (name : String) (root : Path) : Lookup (Option CallNode) := do
  workspace.firstDefinition? name (← workspace.files root)

theorem outcome_definition? (name : String) (root : Path) :
    outcome (workspace.definition? name root) session =
      match session.definitions.get? name root with
      | some definition => (.ok definition, session)
      | none =>
          match outcome (workspace.searchDefinition? name root) session with
          | (.error failure, after) => (.error failure, after)
          | (.ok definition, after) => (.ok definition, { after with
              definitions := after.definitions.put name root definition }) := by
  rw [definition?, outcome_bind, outcome_get]
  cases hit : session.definitions.get? name root with
  | some found => simp only [hit, outcome_pure]
  | none =>
      simp only [hit, searchDefinition?, outcome_bind]
      rcases outcome (workspace.files root) session with ⟨failure | files, listed⟩
      · rfl
      · simp only
        rcases outcome (workspace.firstDefinition? name files) listed with ⟨failure | found, searched⟩
        · rfl
        · rfl

end Workspace

theorem Tracing.outcome_lookup {α : Type} (action : Lookup α) (state : TraceState) :
    outcome (Tracing.lookup action) state =
      ((outcome action state.session).1, { state with session := (outcome action state.session).2 }) := by
  rw [Tracing.lookup, outcome_bind, outcome_get]
  show outcome (set _ >>= fun _ => MonadExcept.ofExcept (outcome action state.session).1) state = _
  rw [outcome_bind, outcome_set]
  exact outcome_ofExcept _ _

theorem Yields.lookup {α : Type} {action : Lookup α} {holds : α → Prop} (known : Yields action holds) :
    Yields (Tracing.lookup action) holds := by
  intro state _ value came
  rw [Tracing.outcome_lookup] at came
  exact known state.session trivial value came

/-! ### The nodes around which trees grow -/

/-- With a result, `action` comes to the node with other edges. -/
def GrowsAround (node : CallNode) (action : Tracing CallNode) : Prop :=
  Meets (fun _ => True) action fun result _ => ∀ tree, result = .ok tree →
    { tree with callers := [], callees := [] } = { node with callers := [], callees := [] }

namespace Workspace

variable (workspace : Workspace) (options : TraceOptions) (root : Path)

private theorem pure_growsAround (node : CallNode) : GrowsAround node (pure node) :=
  Yields.pure rfl

theorem expand_growsAround (edge : Edge) (levels : Nat) (ancestors : List FunctionKey)
    (node : CallNode) : GrowsAround node (workspace.expand options root edge levels ancestors node) := by
  have alone := pure_growsAround node
  cases levels with
  | zero => exact alone
  | succ levels =>
      rw [expand]
      split
      · exact alone
      split
      · exact Yields.bind_any fun _ => alone
      split
      · exact alone
      refine Yields.bind_any fun _ => ?_
      refine Yields.bind_any fun _ => ?_
      refine Yields.bind_any fun found => Yields.pure ?_
      cases edge <;> rfl

theorem expandAlong_growsAround (edges : List Edge) :
    ∀ node : CallNode, GrowsAround node (workspace.expandAlong options root edges node) := by
  induction edges with
  | nil => exact pure_growsAround
  | cons edge rest ih =>
      intro node
      rw [expandAlong]
      refine Yields.bind (expand_growsAround workspace options root edge options.maxDepth [] node) ?_
      exact fun grown kept => Yields.imp (ih grown) fun tree same => same.trans kept

end Workspace

end Callsite

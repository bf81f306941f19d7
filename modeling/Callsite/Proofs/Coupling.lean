import Callsite.Proofs.Outcome

set_option autoImplicit false

/-! Two computations run side by side. A relation of their states couples them if from related states they
fail alike or come to related values, and leave related states. Traces are coupled as soon as the searches
for a definition and for the neighbours of a node are. -/

namespace Callsite

section

variable {σ τ α β γ δ : Type}

/-- The same failure on both sides, or values that `same` relates. -/
inductive ResultsMatch (same : α → β → Prop) : Except Failure α → Except Failure β → Prop
  | error (failure : Failure) : ResultsMatch same (.error failure) (.error failure)
  | ok {value : α} {other : β} (related : same value other) :
      ResultsMatch same (.ok value) (.ok other)

theorem ResultsMatch.imp {same looser : α → β → Prop} {result : Except Failure α}
    {other : Except Failure β} (matched : ResultsMatch same result other)
    (weaken : ∀ value opposite, same value opposite → looser value opposite) :
    ResultsMatch looser result other := by
  cases matched with
  | error failure => exact .error failure
  | ok related => exact .ok (weaken _ _ related)

theorem ResultsMatch.eq {result other : Except Failure α} (matched : ResultsMatch Eq result other) :
    result = other := by
  cases matched with
  | error failure => rfl
  | ok related => exact congrArg Except.ok related

def Couples (rel : σ → τ → Prop) (left : ExceptT Failure (StateM σ) α)
    (right : ExceptT Failure (StateM τ) β) (same : α → β → Prop) : Prop :=
  ∀ state other, rel state other →
    ResultsMatch same (outcome left state).1 (outcome right other).1 ∧
      rel (outcome left state).2 (outcome right other).2

namespace Couples

variable {rel : σ → τ → Prop} {left : ExceptT Failure (StateM σ) α}
  {right : ExceptT Failure (StateM τ) β}

theorem pure {same : α → β → Prop} {value : α} {other : β} (related : same value other) :
    Couples rel (pure value) (pure other) same :=
  fun _ _ paired => ⟨.ok related, paired⟩

theorem imp {same looser : α → β → Prop} (couples : Couples rel left right same)
    (weaken : ∀ value other, same value other → looser value other) :
    Couples rel left right looser := by
  intro state other paired
  have came := couples state other paired
  exact ⟨came.1.imp weaken, came.2⟩

theorem bind {same : α → β → Prop} {result : γ → δ → Prop} {next : α → ExceptT Failure (StateM σ) γ}
    {further : β → ExceptT Failure (StateM τ) δ} (first : Couples rel left right same)
    (second : ∀ value other, same value other → Couples rel (next value) (further other) result) :
    Couples rel (left >>= next) (right >>= further) result := by
  intro state other paired
  obtain ⟨matched, between⟩ := first state other paired
  rw [outcome_bind, outcome_bind]
  generalize outcome left state = here at matched between ⊢
  generalize outcome right other = there at matched between ⊢
  rcases here with ⟨value, after⟩
  rcases there with ⟨opposite, later⟩
  cases matched with
  | error failure => exact ⟨.error failure, between⟩
  | ok related => exact second _ _ related after later between

theorem modify {change : σ → σ} {other : τ → τ}
    (keeps : ∀ state opposite, rel state opposite → rel (change state) (other opposite)) :
    Couples rel (modify change : ExceptT Failure (StateM σ) PUnit)
      (modify other : ExceptT Failure (StateM τ) PUnit) fun _ _ => True :=
  fun state opposite paired => ⟨.ok trivial, keeps state opposite paired⟩

theorem mapM {same : α → β → Prop} {result : γ → δ → Prop} {compute : α → ExceptT Failure (StateM σ) γ}
    {other : β → ExceptT Failure (StateM τ) δ} {items : List α} {others : List β}
    (related : List.Forall₂ same items others)
    (each : ∀ item opposite, same item opposite → Couples rel (compute item) (other opposite) result) :
    Couples rel (items.mapM compute) (others.mapM other) (List.Forall₂ result) := by
  induction related with
  | nil => exact pure .nil
  | cons here _ ih =>
      rw [List.mapM_cons, List.mapM_cons]
      apply (each _ _ here).bind
      intro first opposite matched
      apply ih.bind
      intro rest more later
      exact pure (.cons matched later)

end Couples

end

/-! ### Traces -/

structure TraceState.Related (rel : Session → Session → Prop) (state other : TraceState) : Prop where
  session : rel state.session other.session
  truncated : state.truncated = other.truncated
  expansions : state.expansions = other.expansions

theorem Couples.lookup {α β : Type} {rel : Session → Session → Prop} {left : Lookup α}
    {right : Lookup β} {same : α → β → Prop} (couples : Couples rel left right same) :
    Couples (TraceState.Related rel) (Tracing.lookup left) (Tracing.lookup right) same := by
  intro state other paired
  have came := couples state.session other.session paired.session
  rw [Tracing.outcome_lookup, Tracing.outcome_lookup]
  exact ⟨came.1, came.2, paired.truncated, paired.expansions⟩

/-- What a relation of nodes has to respect for trees to grow alike from related nodes. -/
structure GrowsAlike (same : CallNode → CallNode → Prop) : Prop where
  isExternal : ∀ {node other}, same node other → node.isExternal = other.isExternal
  key : ∀ {node other next further}, same node other → same next further →
    node.isExternal = false → next.isExternal = false →
      (node.key = next.key ↔ other.key = further.key)
  attach : ∀ {node other found more} (edge : Edge), same node other → List.Forall₂ same found more →
    same (Workspace.attach node found edge) (Workspace.attach other more edge)

namespace GrowsAlike

variable {same : CallNode → CallNode → Prop} (grows : GrowsAlike same)

include grows in
theorem key_mem_iff {node other : CallNode} (related : same node other)
    (inside : node.isExternal = false) {above below : List CallNode}
    (paths : List.Forall₂ (fun node other => same node other ∧ node.isExternal = false) above below) :
    node.key ∈ above.map CallNode.key ↔ other.key ∈ below.map CallNode.key := by
  induction paths with
  | nil => exact ⟨nofun, nofun⟩
  | cons here _ ih =>
      rw [List.map_cons, List.map_cons, List.mem_cons, List.mem_cons, ih,
        grows.key related here.1 inside here.2]

include grows in
theorem forall₂_distinctBy {found more : List CallNode}
    (related : List.Forall₂ (fun node other => same node other ∧ node.isExternal = false) found more) :
    ∀ {seen known : List CallNode},
      List.Forall₂ (fun node other => same node other ∧ node.isExternal = false) seen known →
      List.Forall₂ (fun node other => same node other ∧ node.isExternal = false)
        (distinctBy CallNode.key (seen.map CallNode.key) found)
        (distinctBy CallNode.key (known.map CallNode.key) more) := by
  induction related with
  | nil => exact fun _ => .nil
  | @cons node other _ _ here _ ih =>
      intro seen known before
      have repeated := grows.key_mem_iff here.1 here.2 before
      rw [distinctBy, distinctBy]
      by_cases again : node.key ∈ seen.map CallNode.key
      · rw [if_pos again, if_pos (repeated.mp again)]
        exact ih before
      · rw [if_neg again, if_neg (fun member => again (repeated.mpr member))]
        exact .cons here (ih (.cons here before))

end GrowsAlike

structure TraceOutput.Related (same : CallNode → CallNode → Prop) (output other : TraceOutput) : Prop where
  root : Option.Rel same output.root other.root
  truncated : output.truncated = other.truncated
  expansions : output.expansions = other.expansions

namespace Workspace

variable {left right : Workspace} {options : TraceOptions} {root place : Path}
  {rel : Session → Session → Prop} {same : CallNode → CallNode → Prop} (grows : GrowsAlike same)

section

variable {edge : Edge}
  (neighbours : ∀ node other, same node other → node.isExternal = false →
    Couples rel (left.neighbours options root node edge) (right.neighbours options place other edge)
      (List.Forall₂ same))

include grows neighbours in
theorem expand_couples (levels : Nat) :
    ∀ {above below : List CallNode} {node other : CallNode},
      List.Forall₂ (fun node other => same node other ∧ node.isExternal = false) above below →
      same node other →
      Couples (TraceState.Related rel)
        (left.expand options root edge levels (above.map CallNode.key) node)
        (right.expand options place edge levels (below.map CallNode.key) other) same := by
  induction levels with
  | zero => exact fun _ related => Couples.pure related
  | succ levels ih =>
      intro above below node other paths related
      rw [expand, expand, ← grows.isExternal related]
      cases external : node.isExternal with
      | true => exact Couples.pure related
      | false =>
          rw [if_neg Bool.false_ne_true, if_neg Bool.false_ne_true]
          by_cases spent : options.timeoutMs = 0
          · rw [if_pos spent, if_pos spent]
            apply Couples.bind (Couples.modify fun state opposite paired => ?_)
            · exact fun _ _ _ => Couples.pure related
            · exact { paired with truncated := rfl }
          rw [if_neg spent, if_neg spent]
          have repeated := grows.key_mem_iff related external paths
          by_cases known : node.key ∈ above.map CallNode.key
          · rw [if_pos known, if_pos (repeated.mp known)]
            exact Couples.pure related
          rw [if_neg known, if_neg (fun again => known (repeated.mpr again))]
          apply Couples.bind (Couples.modify fun state opposite paired => ?_)
          · intro _ _ _
            apply (neighbours node other related external).lookup.bind
            intro found more discovered
            have deeper := List.Forall₂.cons ⟨related, external⟩ paths
            apply Couples.bind (Couples.mapM discovered fun child opposite alike => ih deeper alike)
            intro children others grown
            exact Couples.pure (grows.attach edge related grown)
          · exact { paired with expansions := congrArg (· + 1) paired.expansions }

end

include grows in
theorem expandAlong_couples (edges : List Edge)
    (neighbours : ∀ edge ∈ edges, ∀ node other, same node other → node.isExternal = false →
      Couples rel (left.neighbours options root node edge) (right.neighbours options place other edge)
        (List.Forall₂ same)) :
    ∀ {node other : CallNode}, same node other →
      Couples (TraceState.Related rel) (left.expandAlong options root edges node)
        (right.expandAlong options place edges other) same := by
  induction edges with
  | nil => exact fun related => Couples.pure related
  | cons edge rest ih =>
      intro node other related
      rw [expandAlong, expandAlong]
      apply (expand_couples grows (neighbours edge List.mem_cons_self) options.maxDepth .nil related).bind
      intro tree opposite grown
      exact ih (fun further member => neighbours further (List.mem_cons_of_mem edge member)) grown

include grows in
theorem trace_couples {name : String}
    (definitions : Couples rel (left.definition? name root) (right.definition? name place)
      (Option.Rel fun node other => same (node.atDepth 0) (other.atDepth 0)))
    (neighbours : ∀ edge ∈ options.direction.edges, ∀ node other, same node other →
      node.isExternal = false → Couples rel (left.neighbours options root node edge)
        (right.neighbours options place other edge) (List.Forall₂ same)) :
    Couples (TraceState.Related rel) (left.trace options root name) (right.trace options place name)
      (TraceOutput.Related same) := by
  have finish {tree other : Option CallNode} (related : Option.Rel same tree other) :
      Couples (TraceState.Related rel)
        (do let state ← get; return ⟨tree, state.truncated, state.expansions⟩ : Tracing TraceOutput)
        (do let state ← get; return ⟨other, state.truncated, state.expansions⟩ : Tracing TraceOutput)
        (TraceOutput.Related same) :=
    fun _ _ paired => ⟨.ok ⟨related, paired.truncated, paired.expansions⟩, paired⟩
  rw [trace, trace]
  apply definitions.lookup.bind
  intro found other related
  cases related with
  | none => exact finish .none
  | some alike =>
      apply (expandAlong_couples grows options.direction.edges neighbours alike).bind
      intro tree opposite grown
      exact finish (.some grown)

end Workspace

end Callsite

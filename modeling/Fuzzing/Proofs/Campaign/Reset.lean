import Fuzzing.Proofs.Campaign.Likeness
import Fuzzing.Proofs.Coverage.Names

/-!
A reset against building anew. Two campaigns that differ in the name of their tracker and in the seed that they tell do
the same, call by call (`Call.overlooks_performAll`), since such labels are a `Likeness`. After a reset a campaign differs
in no more from the one that is built of the same parts (`reset_is_rebuilding`): no count, no statistics, no total and no
mutator that was applied before the reset has any effect behind it.
-/
namespace Fuzzing

variable {ρ σ κ : Type}

open Fuzzing.Action (Matches unseen)

namespace Coverage

variable {ν : Type}

/-- The tracker under another name. -/
def renamed (name : Document ρ) (c : Coverage ρ ν) : Coverage ρ ν := { c with name }

/-- A tracker, and the same one under another name. -/
private def Renamed (name : Document ρ) (c d : Coverage ρ ν) : Prop := d = c.renamed name

private theorem matches_checkNames (name : Document ρ) (signals : List Signal) :
    Matches unseen (Renamed (ν := ν) name) Eq (checkNames signals) (checkNames signals) := by
  induction signals with
  | nil => exact .pure rfl
  | cons signal rest ih =>
    have first : Matches unseen (Renamed (ν := ν) name) Eq (checkName signal) (checkName signal) :=
      .ite (.pure rfl) (.fail _)
    exact first.bind fun _ _ _ => ih

variable [Tally ν]

private theorem foldl_hit_renamed (name : Document ρ) (signals : List Signal) (c : Coverage ρ ν) :
    signals.foldl (fun c signal => c.hit signal Tally.once) (c.renamed name) =
      (signals.foldl (fun c signal => c.hit signal Tally.once) c).renamed name := by
  induction signals generalizing c with
  | nil => rfl
  | cons signal rest ih => exact ih (c.hit signal Tally.once)

private theorem matches_observe (name : Document ρ) (signals : List Signal) :
    Matches unseen (Renamed (ν := ν) name) Eq (observe signals) (observe signals) := by
  refine (matches_checkNames name _).bind fun _ _ _ => ?_
  refine .state_bind ?_
  rintro c _ rfl
  refine (Matches.update ?_).bind fun _ _ _ => ?_
  · rintro c _ rfl
    exact foldl_hit_renamed name _ c
  · exact Matches.bind (.noteIf _ rfl) fun _ _ _ => .pure rfl

private theorem matches_reset (name : Document ρ) :
    Matches unseen (Renamed (ν := ν) name) Eq Coverage.reset Coverage.reset := by
  refine (Matches.update ?_).bind fun _ _ _ => ?_
  · rintro c _ rfl
    rfl
  · exact .state_bind fun c d _ => .note rfl

end Coverage

namespace Campaign

/-- The campaign with another name of its tracker, and telling another seed. -/
def relabelled (name : Document ρ) (seed : Option Int) (c : Campaign ρ σ κ) : Campaign ρ σ κ :=
  { c with tracker := c.tracker.renamed name, seed }

/-- A campaign with a tracker that calls lead to, and the same one with other labels. -/
private def Relabelled (name : Document ρ) (seed : Option Int) (c d : Campaign ρ σ κ) : Prop :=
  c.tracker.Made ∧ d = c.relabelled name seed

/-- A computation that does the same under other labels, and leaves the tracker one that calls lead to. -/
private abbrev Overlooks {α : Type} (name : Document ρ) (seed : Option Int) (a : Action ρ (Campaign ρ σ κ) α) : Prop :=
  Matches unseen (Relabelled name seed) Eq a a

end Campaign

/-- Campaigns under other labels. -/
private def Likeness.labels [Quantity ρ] [Source ρ σ] (name : Document ρ) (seed : Option Int) : Likeness ρ σ where
  seen _ := none
  mutators := Eq
  guided := Eq
  uniform := Eq
  trackers t t' := t.Made ∧ t' = t.renamed name
  seeds _ s' := s' = seed
  shown := Eq
  guided_source same := ⟨same ▸ rfl,fun _ => same ▸ rfl⟩
  uniform_source same := ⟨same ▸ rfl,fun _ => same ▸ rfl⟩
  guided_last same := Option.rel_eq_iff.mpr (same ▸ rfl)
  mutates_guided data := by
    refine (Matches.same _).mono ?_
    rintro told _ rfl
    exact ⟨rfl,Option.rel_eq_iff.mpr rfl⟩
  mutates_uniform _ _ := .same _
  records same _ _ _ := same ▸ .same _
  succeeds same _ := same ▸ .same _
  observes signals := by
    rintro t _ ⟨made,rfl⟩
    obtain ⟨same,renamed,told⟩ := Coverage.matches_observe name signals t _ rfl
    exact ⟨same,⟨made.observe _,renamed⟩,told⟩
  clears := by
    rintro t _ ⟨made,rfl⟩
    obtain ⟨same,renamed,told⟩ := Coverage.matches_reset name t _ rfl
    exact ⟨same,⟨made.reset,renamed⟩,told⟩
  forgets := .same _
  zero := rfl
  shows_guided same trackers _ := same ▸ trackers.2 ▸ rfl
  shows_uniform _ trackers same _ := same ▸ trackers.2 ▸ rfl
  started _ _ _ _ := rfl
  progresses _ _ _ := rfl
  completed _ := rfl

namespace Campaign

open Likeness

variable [Quantity ρ] [Source ρ σ] {α : Type} {name : Document ρ} {seed : Option Int}

private theorem level_labels_iff {c d : Campaign ρ σ κ} : (labels name seed).Level c d ↔ Relabelled name seed c d := by
  constructor
  · intro level
    -- All that may differ is the tracker and the seed.
    have engine : c.engine = d.engine := level.engine.eq (fun _ _ => id) fun _ _ => id
    obtain ⟨made,tracker⟩ := level.tracker
    have told : d.seed = seed := level.seed
    have shown : c.totals.shown = d.totals.shown := level.totals.1
    have same := level.eq_with
    rw [← engine,tracker,told,← shown] at same
    exact ⟨made,same⟩
  · rintro ⟨made,rfl⟩
    exact ⟨.refl (fun _ _ => rfl) fun _ _ => rfl,rfl,rfl,⟨made,rfl⟩,rfl,rfl,rfl,rfl,rfl,rfl,rfl⟩

private theorem overlooks_iff {a : Action ρ (Campaign ρ σ κ) α} :
    Overlooks name seed a ↔ (labels name seed).Carries Eq a a := by
  have same : (labels name seed).Level (κ := κ) = Relabelled (ρ := ρ) (σ := σ) name seed :=
    funext₂ fun _ _ => propext level_labels_iff
  rw [Overlooks,Likeness.Carries,same]
  rfl

private theorem overlooks_watched : Overlooks (σ := σ) (κ := κ) name seed watched :=
  overlooks_iff.mpr (carries_watched.mono fun _ _ same => same.eq fun _ _ => id)

private theorem overlooks_run (count : Document ρ) : Overlooks (σ := σ) (κ := κ) name seed (run count) := by
  rw [run_eq_watched,map_eq_pure_bind]
  exact overlooks_iff.mpr ((carries_runWatched count).bind fun _ _ _ => .pure rfl)

/-- A call of a campaign. -/
inductive Call (ρ : Type) where
  | iterate
  | run (count : Document ρ)
  | reset

namespace Call

/-- Makes the call. An iteration tells all that it does. -/
def perform : Call ρ → Action ρ (Campaign ρ σ κ) (Option (Round ρ σ))
  | iterate => some <$> watched
  | run count => do
    Campaign.run count
    pure none
  | reset => do
    Campaign.reset
    pure none

/-- Makes some calls one after the other, whether they succeed or not. -/
def performAll : List (Call ρ) → Action ρ (Campaign ρ σ κ) (List (Except (Failure ρ) (Option (Round ρ σ))))
  | [] => pure []
  | call :: rest => do
    let told ← call.perform.attempt
    let more ← performAll rest
    pure (told :: more)

private theorem overlooks_perform (name : Document ρ) (seed : Option Int) (call : Call ρ) :
    Overlooks (σ := σ) (κ := κ) name seed call.perform := by
  cases call with
  | iterate =>
    rw [perform,map_eq_pure_bind]
    exact overlooks_watched.bind fun _ _ same => .pure (same ▸ rfl)
  | run count => exact (overlooks_run count).bind fun _ _ _ => .pure rfl
  | reset => exact (overlooks_iff.mpr carries_reset).bind fun _ _ _ => .pure rfl

/-- Under other labels a campaign does the same, call by call. -/
theorem overlooks_performAll (name : Document ρ) (seed : Option Int) (calls : List (Call ρ)) :
    Overlooks (σ := σ) (κ := κ) name seed (performAll calls) := by
  induction calls with
  | nil => exact .pure rfl
  | cons call rest ih =>
    refine (overlooks_perform name seed call).attempt.bind fun told _ same => ?_
    obtain rfl := same.eq
    refine ih.bind ?_
    rintro more _ rfl
    exact .pure rfl

end Call

/-- A campaign that calls lead to. It starts with totals of zero, and with a tracker that may have been used before.
    Between the calls all of its parts may be used from outside: the tracker by calls, the others in any way. -/
inductive Reachable : Campaign ρ σ κ → Prop where
  | start {c : Campaign ρ σ κ} : c.totals = .zero → c.tracker.Made → Reachable c
  | call {c : Campaign ρ σ κ} (call : Call ρ) : Reachable c → Reachable (call.perform c).state
  | outside {c c' : Campaign ρ σ κ} : Reachable c → c'.totals = c.totals → c'.tracker.Made → Reachable c'

private theorem Reachable.made {c : Campaign ρ σ κ} (reached : c.Reachable) : c.tracker.Made := by
  induction reached with
  | start _ made => exact made
  | @call c call _ made => exact (Call.overlooks_perform c.tracker.name c.seed call c c ⟨made,rfl⟩).state.1
  | outside _ _ made => exact made

end Campaign

section

variable [Quantity ρ]

omit [Quantity ρ] in
private theorem Uniform.returns_registerAll (mutators : List (Mutator ρ σ)) (u : Uniform ρ σ) :
    (registerAll (mutators.map some)).Returns u () { u with mutators := u.mutators ++ mutators } := by
  induction mutators generalizing u with
  | nil => exact Action.returns_pure.mpr ⟨rfl,by rw [List.append_nil]⟩
  | cons m rest ih =>
    have later := ih { u with mutators := u.mutators ++ [m] }
    rw [List.append_assoc] at later
    refine Action.returns_bind.mpr ⟨(),_,?_,later⟩
    exact Action.returns_update_bind.mpr (Action.returns_state_bind.mpr (Action.returns_note.mpr rfl))

private theorem Guided.returns_registerAll (mutators : List (Mutator ρ σ)) (g : Guided ρ σ) :
    (registerAll (mutators.map some)).Returns g () { g with ledger := g.ledger ++ mutators.map fun m => ⟨m,.zero⟩ } := by
  induction mutators generalizing g with
  | nil => exact Action.returns_pure.mpr ⟨rfl,by rw [List.map_nil,List.append_nil]⟩
  | cons m rest ih =>
    have later := ih { g with ledger := g.ledger.register m }
    rw [Ledger.register,List.append_assoc] at later
    refine Action.returns_bind.mpr ⟨(),_,?_,later⟩
    exact Action.returns_update_bind.mpr (Action.returns_state_bind.mpr (Action.returns_note.mpr rfl))

end

namespace Engine

variable [Quantity ρ]

/-- The engine with all statistics at zero, and without a mutator that was applied last. -/
def restarted : Engine ρ σ → Engine ρ σ
  | guided g => guided { g with ledger := g.ledger.reset, last := none }
  | uniform u => uniform u

variable [Source ρ σ]

/-- A new engine of the same kind, on the same source, with the same mutators and the same policy. -/
def rebuilt : Engine ρ σ → Except (Failure ρ) (Engine ρ σ)
  | guided g =>
    let built := Guided.create g.source (g.ledger.mutators.map some) g.policy
    built.result.map fun _ => guided built.state
  | uniform u =>
    let built : Trace ρ (Uniform ρ σ) Unit := Uniform.create u.source (u.mutators.map some)
    built.result.map fun _ => uniform built.state

private theorem rebuilt_eq {e : Engine ρ σ} (present : Source.absent ρ e.source = false) : e.rebuilt = .ok e.restarted := by
  cases e with
  | guided g =>
    have present : ¬ Source.absent ρ g.source = true := by rw [show Source.absent ρ g.source = false from present]; decide
    obtain ⟨events,built⟩ := Guided.returns_registerAll g.ledger.mutators ⟨g.source,g.policy,[],none⟩
    have fresh : (g.ledger.mutators.map fun m => (⟨m,.zero⟩ : Slot ρ σ)) = g.ledger.reset := List.map_map
    rw [rebuilt,Guided.create,if_neg present,built,List.nil_append,fresh]
    rfl
  | uniform u =>
    have present : ¬ Source.absent ρ u.source = true := by rw [show Source.absent ρ u.source = false from present]; decide
    obtain ⟨events,built⟩ := Uniform.returns_registerAll u.mutators ⟨u.source,[]⟩
    rw [rebuilt,Uniform.create,if_neg present,built]
    rfl

end Engine

namespace Campaign

variable [Quantity ρ] [Source ρ σ]

/-- A new campaign of the parts of another one: the same corpus, policy and sources, and the same target, with a new
    engine and a new tracker for the same names. -/
def rebuilt (name : Document ρ) (seed : Option Int) (c : Campaign ρ σ κ) : Except (Failure ρ) (Campaign ρ σ κ) := do
  let engine ← c.engine.rebuilt
  let built := Coverage.create name (c.tracker.counts.map Prod.fst)
  let _ ← built.result
  pure { c with engine, tracker := built.state, seed, totals := .zero }

omit [Source ρ σ] in
private theorem returns_reset (c : Campaign ρ σ κ) :
    (reset).Returns c () { c with engine := c.engine.restarted, tracker := c.tracker.cleared, totals := .zero } := by
  rcases c with ⟨engine,_,_,_,_,_,_,_,_,_⟩
  cases engine <;> exact ⟨_,rfl⟩

/-- The campaign with another target. -/
def withTarget {τ : Type} (executor : Bytes → Action ρ τ (Execution ρ)) (executorState : τ) (c : Campaign ρ σ κ) :
    Campaign ρ σ τ :=
  { engine := c.engine, executor, executorState, tracker := c.tracker, corpus := c.corpus, policy := c.policy
    limits := c.limits, ownSource := c.ownSource, seed := c.seed, totals := c.totals }

/-- After a reset, a campaign does whatever a new one of the same parts does, on every target and call by call, and both
    are the same campaign at every time but for the name of the tracker and the seed that they tell. -/
theorem reset_is_rebuilding {c : Campaign ρ σ κ} (reached : c.Reachable)
    (present : Source.absent ρ c.engine.source = false) (name : Document ρ) (seed : Option Int) :
    ∃ c' d, (reset).Returns c () c' ∧ c.rebuilt name seed = .ok d ∧
      ∀ (τ : Type) (executor : Bytes → Action ρ τ (Execution ρ)) (executorState : τ) (calls : List (Call ρ)),
        let continued := Call.performAll calls (c'.withTarget executor executorState)
        let new := Call.performAll calls (d.withTarget executor executorState)
        new.result = continued.result ∧ new.state = continued.state.relabelled name seed := by
  have made : c.tracker.cleared.Made := .reset reached.made
  have built := reached.made.proper.returns_create name
  let c' := { c with engine := c.engine.restarted, tracker := c.tracker.cleared, totals := .zero }
  refine ⟨c',c'.relabelled name seed,returns_reset c,?_,?_⟩
  · rw [rebuilt,Engine.rebuilt_eq present,built]
    rfl
  · intro τ executor executorState calls
    have ended := Call.overlooks_performAll name seed calls (c'.withTarget executor executorState) _ ⟨made,rfl⟩
    exact ⟨ended.result.eq,ended.state.2⟩

private theorem made_small : small.tracker.Made :=
  .create (show Coverage.create Coverage.standardName [] = ⟨.ok (),small.tracker,[]⟩ from rfl)

theorem reset_is_rebuilding_small : ∃ c' d,
    (reset).Returns (Call.iterate.perform small).state () c' ∧
    (Call.iterate.perform small).state.rebuilt (.text "other") none = .ok d ∧
    ∀ calls, (Call.performAll calls (d.withTarget small.executor 0)).result =
      (Call.performAll calls (c'.withTarget small.executor 0)).result := by
  have reached : (Call.iterate.perform small).state.Reachable := .call .iterate (.start rfl made_small)
  have present : Source.absent Rat (Call.iterate.perform small).state.engine.source = false := rfl
  obtain ⟨c',d,returned,built,same⟩ := reset_is_rebuilding reached present (.text "other") none
  exact ⟨c',d,returned,built,fun calls => (same Nat small.executor 0 calls).1⟩

end Campaign

end Fuzzing

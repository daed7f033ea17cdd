import Fuzzing.Campaign
import Fuzzing.Execution.Callable
import Fuzzing.Settings.Build

/-!
Campaigns as settings describe them: the built-in mutators on an engine of the kind that is
asked for, a target with the configured deadline, and one source of randomness for the engine
and the campaign.
-/
namespace Fuzzing

variable {ρ σ κ : Type} [Quantity ρ] [Source ρ σ]

/-- A guided engine with the six built-in mutators. -/
def Guided.standard (source : σ) (policy : SelectionPolicy ρ) (limits : MutationLimits) (firstHandle : Nat) :
    Trace ρ (Guided ρ σ) Unit :=
  Guided.create source ((Builtin.standardMutators limits.maxInsertGrowth firstHandle).map some) policy

/-- A uniform engine with the six built-in mutators. -/
def Uniform.standard (source : σ) (limits : MutationLimits) (firstHandle : Nat) : Trace ρ (Uniform ρ σ) Unit :=
  Uniform.create source ((Builtin.standardMutators limits.maxInsertGrowth firstHandle).map some)

/-- What a campaign is built from, apart from its settings. -/
structure Ground (κ : Type) where
  target : Option (Bytes → Behaviour)
  clock : Clock κ
  clockState : κ
  tracker : Coverage Float Nat
  corpus : Corpus Float

/-- An engine of the kind that the settings ask for, and the events of building it. -/
def Settings.engine [Source Float σ] (s : Settings Float) (source : σ) :
    Except (Failure Float) (Engine Float σ) × List (Event Float) :=
  if s.campaign.guided then
    match Guided.standard source s.selection s.mutation 0 with
    | ⟨.ok _,g,noted⟩ => (.ok (.guided g),noted)
    | ⟨.error e,_,noted⟩ => (.error e,noted)
  else
    match Uniform.standard source s.mutation 0 with
    | ⟨.ok _,u,noted⟩ => (.ok (.uniform u),noted)
    | ⟨.error e,_,noted⟩ => (.error e,noted)

/-- The campaign that the settings describe, on a source made from a seed. The engine comes first,
    then the target. -/
def Settings.session [Source Float σ] (s : Settings Float) (seed : Int) (source : σ) (ground : Ground κ) :
    Except (Failure Float) (Campaign Float σ κ) × List (Event Float) :=
  match s.engine source with
  | (.error e,noted) => (.error e,noted)
  | (.ok engine,noted) =>
    match Callable.create ground.target (.whole s.campaign.timeout) with
    | .error e => (.error e,noted)
    | .ok callable =>
      (.ok
        { engine, executor := callable.execute ground.clock, executorState := ground.clockState
          tracker := ground.tracker, corpus := ground.corpus, policy := s.campaign, limits := s.mutation
          ownSource := none, seed := some seed, totals := .zero },noted)

end Fuzzing

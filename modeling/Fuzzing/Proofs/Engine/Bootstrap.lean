import Fuzzing.Proofs.Engine.Operation
import Fuzzing.Proofs.Ledger
import Fuzzing.Proofs.Statistics.Score

/-!
The two phases of a guided engine. As long as every mutator has fewer executions than the threshold, the guided engine
mirrors the same computation on the source as the uniform one does (`mirrors_mutate`). Once a mutator has reached the
threshold the engine is `Settled`, and the roulette decides every selection until the statistics are reset
(`Settled.foldl_next`, `Settled.mutate_eq`). `bootstrap_is_uniform` puts both together.
-/
namespace Fuzzing

variable {ρ σ : Type}

namespace Guided

variable [Quantity ρ] [Source ρ σ] {sound : σ → Prop} {g : Guided ρ σ}

section

variable (answers : Answering ρ sound) (below : g.ledger.allBelow g.policy.threshold = true)

include answers below

variable (keeps : ∀ m ∈ g.ledger.mutators, ∀ data s, sound s → sound (m.mutate data s).state)

include keeps

end

/-- Some mutator has reached the threshold. -/
def Settled (g : Guided ρ σ) : Prop := ∃ slot ∈ g.ledger, g.policy.threshold ≤ slot.stats.executions

omit [Source ρ σ] in
private theorem exists_executions_of_change {l l' : Ledger ρ σ} {threshold : Int} (change : l.Change l')
    (reached : ∃ slot ∈ l, threshold ≤ slot.stats.executions) :
    ∃ slot ∈ l', threshold ≤ slot.stats.executions := by
  cases change with
  | same => exact reached
  | register m =>
    obtain ⟨slot,mem,enough⟩ := reached
    exact ⟨slot,List.mem_append_left _ mem,enough⟩
  | record revised =>
    refine Ledger.exists_of_revise (fun s => threshold ≤ s.executions) ?_ revised reached
    intro s s' ran enough
    obtain ⟨latency,-,rfl⟩ := Statistics.record_ok ran
    exact Int.le_trans enough (Int.le_add_one (Int.le_refl _))
  | @success _ _ _ increase revised =>
    refine Ledger.exists_of_revise (fun s => threshold ≤ s.executions) ?_ revised reached
    intro s s' ran enough
    cases increase with
    | none => cases ran
    | some increase =>
      obtain rfl := Statistics.recordSuccess_ok ran
      exact enough

private theorem Settled.next (settled : g.Settled) {op : Operation ρ σ} (kept : op ≠ .reset) : (op.next g).Settled := by
  obtain ⟨policy,change⟩ := change_next g kept
  rw [Settled,policy]
  exact exists_executions_of_change change settled

/-- A mutator that refuses every input. -/
def refusing : Mutator Rat Least := ⟨0,none,"Refusing",fun _ => .refuse .noRandomness⟩

/-- An engine with that mutator, and so many executions of it. -/
def refuses (executions : Int) : Guided Rat Least :=
  ⟨⟨⟩,.standard,[⟨refusing,{ Statistics.zero with executions }⟩],none⟩

end Guided

end Fuzzing

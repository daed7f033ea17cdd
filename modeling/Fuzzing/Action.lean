import Fuzzing.Document.Argument
import Fuzzing.Signal
import Fuzzing.Statistics

/-!
Computations that use a state, may fail, and note events. The state and the events noted
survive a failure: a draw of random numbers that has been made stays made. Sources of
randomness, engines, trackers and campaigns are all states of such computations.
-/
namespace Fuzzing

/-- How one execution of the target ended. -/
inductive Outcome where
  | success
  | crashed
  | timedOut
  deriving DecidableEq, Repr

def Outcome.text : Outcome → String
  | .success => "success"
  | .crashed => "crashed"
  | .timedOut => "timed_out"

/-- What one execution of the target did. -/
structure Execution (ρ : Type) where
  outcome : Outcome
  /-- The time it took, where it was measured. -/
  latency : Option ρ
  coverage : List Signal
  /-- What went wrong, mostly a text; null where nothing did. -/
  error : Document ρ

/-- Whether the target crashed or ran out of time. -/
def Execution.crashed {ρ : Type} (e : Execution ρ) : Bool := e.outcome != .success

def Outcome.all : List Outcome := [.success,.crashed,.timedOut]

/-- The result under the names that reports use. Its signals have to be of one kind. -/
def Execution.fields? (e : Execution Float) : Except (Failure Float) (Fields Float) := do
  let coverage ← Signal.sorted? e.coverage
  pure
    [("outcome",.text e.outcome.text),("latency_ms",.ofMeasure e.latency),
     ("coverage",.list (coverage.map Signal.document)),("error",e.error),("crashed",.bool e.crashed)]

/-- The importance of an event. -/
inductive Level where
  | debug
  | info
  | warning
  | error
  | critical
  deriving DecidableEq, Repr

/-- The two ways of choosing mutators. -/
inductive Strategy where
  | guided
  | uniform
  deriving DecidableEq, Repr

/-- The totals of a campaign as a report shows them. -/
structure Summary (ρ : Type) where
  executions : Int
  interestingInputs : Nat
  crashes : Nat
  corpusSize : Nat
  averageLatency : ρ
  coveragePercentage : ρ
  mutators : List (String × Statistics ρ)

/-- Something worth noting. -/
inductive Event (ρ : Type) where
  /-- A built-in mutator failed and left its input unmodified. -/
  | mutationFailed (mutator : String)
  /-- A mutator from outside failed. -/
  | mutatorRaised (mutator : String) (cause : Failure ρ)
  /-- A mutator from outside returned nothing. -/
  | mutatorReturnedNothing (mutator : String)
  | mutatorRegistered (strategy : Strategy) (mutator : String) (total : Nat)
  | mutatorCrashRecorded (mutator : String) (crashes : Int)
  | feedbackForUnknownMutator (mutator : String)
  | statisticsReset (mutators : Nat)
  | coverageDiscovered (tracker : Document ρ) (signals : Nat)
  | coverageMerged (tracker : Document ρ) (signals : Nat)
  | trackerReset (tracker : Document ρ)
  | executionTimedOut (timeout : Document ρ)
  | executionCrashed (error : String)
  | crashDetected (outcome : Outcome) (error : Document ρ) (size : Nat)
  | inputKept (signals corpusSize : Nat)
  | campaignStarted (iterations : Document ρ) (seed : Option Int) (guided : Bool) (corpusSize : Nat)
  | campaignProgress (executions : Int) (crashes corpusSize : Nat) (coveragePercentage : ρ)
  | campaignCompleted (summary : Summary ρ)
  | campaignReset

variable {ρ : Type}

/-- The totals under the names that reports use, except for the statistics of the mutators. -/
def Summary.totals (s : Summary ρ) : Fields ρ :=
  [("executions",.whole s.executions),("interesting_inputs",.whole s.interestingInputs),
   ("crashes",.whole s.crashes),("corpus_size",.whole s.corpusSize),
   ("average_latency_ms",.real s.averageLatency),("coverage_percentage",.real s.coveragePercentage)]

def Summary.fields (s : Summary ρ) : Fields ρ :=
  s.totals ++ [("mutator_statistics",.record (s.mutators.map fun m => (m.1,.record m.2.fields)))]

namespace Event

/-- The importance of an event: what the target or foreign code did wrong is a warning, the state
    of a campaign is information, the rest is detail. -/
def level : Event ρ → Level
  | mutatorRaised .. | mutatorReturnedNothing _ | feedbackForUnknownMutator _ | crashDetected .. => .warning
  | mutatorCrashRecorded .. | statisticsReset _ | trackerReset _ | campaignStarted .. | campaignProgress ..
  | campaignCompleted _ | campaignReset => .info
  | _ => .debug

def name : Event ρ → String
  | mutationFailed _ => "mutation_failed"
  | mutatorRaised .. => "mutator_raised"
  | mutatorReturnedNothing _ => "mutator_returned_none"
  | mutatorRegistered .. => "mutator_registered"
  | mutatorCrashRecorded .. => "mutator_crash_recorded"
  | feedbackForUnknownMutator _ => "feedback_for_unknown_mutator"
  | statisticsReset _ => "mutation_statistics_reset"
  | coverageDiscovered .. => "new_coverage_discovered"
  | coverageMerged .. => "coverage_merged"
  | trackerReset _ => "coverage_tracker_reset"
  | executionTimedOut _ => "execution_timeout"
  | executionCrashed _ => "execution_crashed"
  | crashDetected .. => "crash_detected"
  | inputKept .. => "interesting_input_added"
  | campaignStarted .. => "fuzzing_started"
  | campaignProgress .. => "fuzzing_progress"
  | campaignCompleted _ => "fuzzing_completed"
  | campaignReset => "fuzzing_loop_reset"

def source : Event ρ → String
  | mutationFailed _ | mutatorRaised .. | mutatorReturnedNothing _ => "io_fuzzer.core.mutation.base"
  | mutatorRegistered .uniform .. => "io_fuzzer.core.engine.mutation_engine"
  | mutatorRegistered .guided .. | mutatorCrashRecorded .. | feedbackForUnknownMutator _ | statisticsReset _ =>
    "io_fuzzer.core.engine.guided_mutation_engine"
  | coverageDiscovered .. | coverageMerged .. | trackerReset _ => "io_fuzzer.core.coverage_tracker"
  | executionTimedOut _ | executionCrashed _ => "io_fuzzer.core.execution"
  | crashDetected .. | inputKept .. | campaignStarted .. | campaignProgress .. | campaignCompleted _
  | campaignReset => "io_fuzzer.core.fuzzing_loop"

/-- The values that an event carries. Percentages are written through `round`. -/
def fields (round : ρ → ρ) : Event ρ → Fields ρ
  | mutationFailed mutator | mutatorReturnedNothing mutator | feedbackForUnknownMutator mutator =>
    [("mutator",.text mutator)]
  | mutatorRaised mutator cause =>
    [("mutator",.text mutator),("error_type",.text cause.label),("error",.text cause.message)]
  | mutatorRegistered _ mutator total => [("mutator",.text mutator),("total",.whole total)]
  | mutatorCrashRecorded mutator crashes => [("mutator",.text mutator),("crash_count",.whole crashes)]
  | statisticsReset mutators => [("mutators",.whole mutators)]
  | coverageDiscovered tracker signals => [("tracker",tracker),("new_signals",.whole signals)]
  | coverageMerged tracker signals => [("tracker",tracker),("merged_signals",.whole signals)]
  | trackerReset tracker => [("tracker",tracker)]
  | executionTimedOut timeout => [("timeout_ms",timeout)]
  | executionCrashed error => [("error",.text error)]
  | crashDetected outcome error size =>
    [("outcome",.text outcome.text),("error",error),("input_size",.whole size)]
  | inputKept signals corpusSize => [("new_signals",.whole signals),("corpus_size",.whole corpusSize)]
  | campaignStarted iterations seed guided corpusSize =>
    [("iterations",iterations),("seed",(seed.map Document.whole).getD .null),("guided",.bool guided),
     ("corpus_size",.whole corpusSize)]
  | campaignProgress executions crashes corpusSize coveragePercentage =>
    [("executions",.whole executions),("crashes",.whole crashes),("corpus_size",.whole corpusSize),
     ("coverage_percentage",.real (round coveragePercentage))]
  | campaignCompleted summary => summary.fields
  | campaignReset => []

end Event

/-- What a computation leaves behind. -/
structure Trace (ρ σ α : Type) where
  result : Except (Failure ρ) α
  state : σ
  events : List (Event ρ)

/-- A computation with states in `σ` and results in `α`. -/
def Action (ρ σ α : Type) := σ → Trace ρ σ α

namespace Action

variable {σ τ α β : Type}

/-- Runs the second computation on what the first leaves behind, unless that failed. -/
def bind (a : Action ρ σ α) (f : α → Action ρ σ β) : Action ρ σ β := fun s =>
  match a s with
  | ⟨.ok x,s,noted⟩ =>
    match f x s with
    | ⟨r,s,more⟩ => ⟨r,s,noted ++ more⟩
  | ⟨.error e,s,noted⟩ => ⟨.error e,s,noted⟩

instance : Monad (Action ρ σ) where
  pure x := fun s => ⟨.ok x,s,[]⟩
  bind := bind

def fail (e : Failure ρ) : Action ρ σ α := fun s => ⟨.error e,s,[]⟩

/-- Ends the computation because an argument is not accepted. -/
def refuse (why : Refusal ρ) : Action ρ σ α := fail (.refused why)

def note (e : Event ρ) : Action ρ σ Unit := fun s => ⟨.ok (),s,[e]⟩

def noteIf (c : Bool) (e : Event ρ) : Action ρ σ Unit := if c then note e else pure ()

def state : Action ρ σ σ := fun s => ⟨.ok s,s,[]⟩

def update (f : σ → σ) : Action ρ σ Unit := fun s => ⟨.ok (),f s,[]⟩

/-- A result that was found without the state. -/
def ofExcept : Except (Failure ρ) α → Action ρ σ α
  | .ok x => pure x
  | .error e => fail e

/-- A transition that notes nothing. -/
def ofStep (step : σ → Except (Failure ρ) α × σ) : Action ρ σ α := fun s =>
  match step s with
  | (r,s) => ⟨r,s,[]⟩

/-- Turns a failure into a result, so that the computation goes on. -/
def attempt (a : Action ρ σ α) : Action ρ σ (Except (Failure ρ) α) := fun s =>
  match a s with
  | ⟨r,s,noted⟩ => ⟨.ok r,s,noted⟩

/-- Runs a computation so many times. -/
def repeated : Nat → Action ρ σ α → Action ρ σ (List α)
  | 0, _ => pure []
  | n + 1, a => do
    let x ← a
    let rest ← repeated n a
    pure (x :: rest)

/-- Runs a computation on a part of a larger state. -/
def focus (get : τ → σ) (set : σ → τ → τ) (a : Action ρ σ α) : Action ρ τ α := fun t =>
  match a (get t) with
  | ⟨r,s,noted⟩ => ⟨r,set s t,noted⟩

@[simp] theorem ofExcept_ok (x : α) : (ofExcept (.ok x) : Action ρ σ α) = pure x := rfl

/-- What follows a finished computation runs on the state that it leaves. -/
theorem bind_apply_ok {a : Action ρ σ α} {s s' : σ} {x : α} {noted : List (Event ρ)}
    (h : a s = ⟨.ok x,s',noted⟩) (f : α → Action ρ σ β) :
    (a >>= f) s = ⟨(f x s').result,(f x s').state,noted ++ (f x s').events⟩ := by
  change bind a f s = _
  simp only [bind,h]

/-- Nothing follows a failure. -/
theorem bind_apply_error {a : Action ρ σ α} {s s' : σ} {e : Failure ρ} {noted : List (Event ρ)}
    (h : a s = ⟨.error e,s',noted⟩) (f : α → Action ρ σ β) : (a >>= f) s = ⟨.error e,s',noted⟩ := by
  change bind a f s = _
  simp only [bind,h]

/-- What looks at the state runs on it. -/
theorem state_bind_apply (f : σ → Action ρ σ α) (s : σ) : (state >>= f) s = f s s := by
  rw [bind_apply_ok (rfl : (state : Action ρ σ σ) s = ⟨.ok s,s,[]⟩)]
  rfl

@[ext] theorem ext {a b : Action ρ σ α} (h : ∀ s, a s = b s) : a = b := funext h

private theorem id_map_eq (a : Action ρ σ α) : id <$> a = a := by
  ext s
  change bind a (fun x s => ⟨.ok x,s,[]⟩) s = _
  unfold bind
  rcases a s with ⟨_ | _,_,_⟩ <;> simp

private theorem pure_bind_eq (x : α) (f : α → Action ρ σ β) : pure x >>= f = f x := by
  ext s
  change bind (fun s => ⟨.ok x,s,[]⟩) f s = _
  simp [bind]

private theorem bind_assoc_eq {γ : Type} (a : Action ρ σ α) (f : α → Action ρ σ β) (g : β → Action ρ σ γ) :
    a >>= f >>= g = a >>= fun x => f x >>= g := by
  ext s
  change bind (bind a f) g s = bind a (fun x => bind (f x) g) s
  unfold bind
  rcases a s with ⟨_ | x,s',n⟩
  · rfl
  · simp only
    rcases f x s' with ⟨_ | y,s'',m⟩
    · rfl
    · simp [List.append_assoc]

instance : LawfulMonad (Action ρ σ) := LawfulMonad.mk' _ id_map_eq pure_bind_eq bind_assoc_eq

end Action

end Fuzzing

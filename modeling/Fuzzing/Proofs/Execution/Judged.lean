import Fuzzing.Execution.Sample
import Fuzzing.Proofs.Randomness

/-!
How executions judge a target. Whatever a target does on an input, one of three outcomes is to tell it
(`Behaviour.Promised`). So it is, with two exceptions. A target that leaves its thread passes for one that returned nothing,
and what fails on the way through the signals of a target ends the execution, as a deadline does that cannot be waited for
(`execute_apply`, `execute_apply_unawaitable`).
-/
namespace Fuzzing

/-- What an execution is to tell of a target that is given some time. -/
def Behaviour.Promised (deadline : Float) (r : Execution Float) : Behaviour → Prop
  | hangs => r.outcome = .timedOut ∧ r.latency = some deadline ∧ r.coverage = []
  | returnsNothing => r.outcome = .success ∧ r.coverage = []
  | yields names none => r.outcome = .success ∧ r.coverage = names
  | fails .. | leaves | yields _ (some _) =>
    r.outcome = .crashed ∧ r.coverage = [] ∧ ∃ text, r.error = .text text ∧ text ≠ ""

namespace Callable

/-- What an execution that took some time does tell. -/
private def judged (c : Callable) (latency : Float) : Behaviour → Except (Failure Float) (Execution Float)
  | .hangs =>
    .ok ⟨.timedOut,some (milliseconds c.timeout),[],.text ("Execution exceeded " ++ c.timeout.plain ++ " ms")⟩
  | .fails kind message => .ok ⟨.crashed,some latency,[],.text (kind ++ ": " ++ message)⟩
  | .leaves | .returnsNothing => .ok ⟨.success,some latency,[],.null⟩
  | .yields names none => .ok ⟨.success,some latency,names,.null⟩
  | .yields _ (some failure) => .error failure

/-- What an execution notes. -/
private def remarks (c : Callable) : Behaviour → List (Event Float)
  | .hangs => [.executionTimedOut c.timeout]
  | .fails kind message => [.executionCrashed (kind ++ ": " ++ message)]
  | _ => []

section

variable {c : Callable} {latency : Float} {b : Behaviour}

private theorem judged_eq_error {e : Failure Float} : c.judged latency b = .error e ↔ ∃ names, b = .yields names (some e) := by
  cases b with
  | yields names failure => cases failure <;> simp [judged]
  | _ => simp [judged]

/-- Leaving the thread is told like returning nothing, and of signals that fail nothing is told. -/
private theorem judged_promised_iff :
    (∃ r, c.judged latency b = .ok r ∧ b.Promised (milliseconds c.timeout) r) ↔
      b ≠ .leaves ∧ ∀ names failure, b ≠ .yields names (some failure) := by
  cases b with
  | yields names failure => cases failure <;> simp [judged,Behaviour.Promised]
  | _ => simp [judged,Behaviour.Promised]

private theorem judged_outcome {r : Execution Float} (told : c.judged latency b = .ok r) :
    (r.outcome = .success ↔ b = .returnsNothing ∨ b = .leaves ∨ ∃ names, b = .yields names none) ∧
    (r.outcome = .timedOut ↔ b = .hangs) ∧ (r.outcome = .crashed ↔ ∃ kind message, b = .fails kind message) := by
  cases b with
  | yields names failure =>
    cases failure with
    | none =>
      cases told
      simp
    | some failure => cases told
  | _ =>
    cases told
    simp

end

variable {κ : Type} {c : Callable} {clock : Clock κ} {data : Bytes} {k k₁ k₂ : κ} {began ended : Float}

/-- Between two readings of the clock the target is judged. -/
theorem execute_apply (started : clock.start k = ⟨.ok began,k₁,[]⟩) (waits : awaitable c.timeout = .ok ())
    (stopped : clock.stop k₁ = ⟨.ok ended,k₂,[]⟩) :
    c.execute clock data k = ⟨c.judged (elapsed began ended) (c.target data),k₂,c.remarks (c.target data)⟩ := by
  rw [execute,await,Action.bind_apply_silent started,waits,Action.ofExcept_ok,pure_bind,
    Action.bind_apply_silent stopped]
  rcases c.target data with _ | _ | _ | _ | ⟨names,_ | failure⟩ <;> rfl

/-- Whatever the target does, the clock is not read again. -/
theorem execute_apply_unawaitable (started : clock.start k = ⟨.ok began,k₁,[]⟩) {e : Failure Float}
    (never : awaitable c.timeout = .error e) : c.execute clock data k = ⟨.error e,k₁,[]⟩ := by
  rw [execute,await,Action.bind_apply_silent started,never]
  rfl

/-- An execution returns unless the signals of the target fail or its deadline cannot be waited for, and these are the only
    failures that leave it. What it returns is what it is to tell unless the target left its thread: that is told like
    returning nothing. -/
theorem promise_kept_iff (c : Callable) (data : Bytes) (started : clock.start k = ⟨.ok began,k₁,[]⟩)
    (stopped : clock.stop k₁ = ⟨.ok ended,k₂,[]⟩) :
    ((∃ r, (c.execute clock data k).result = .ok r ∧ (c.target data).Promised (milliseconds c.timeout) r) ↔
      awaitable c.timeout = .ok () ∧ c.target data ≠ .leaves ∧ ∀ names failure, c.target data ≠ .yields names (some failure)) ∧
    (∀ e, (c.execute clock data k).result = .error e ↔
      awaitable c.timeout = .error e ∨ awaitable c.timeout = .ok () ∧ ∃ names, c.target data = .yields names (some e)) ∧
    (∀ r, (c.execute clock data k).result = .ok r →
      (r.outcome = .success ↔ c.target data = .returnsNothing ∨ c.target data = .leaves ∨
        ∃ names, c.target data = .yields names none) ∧
      (r.outcome = .timedOut ↔ c.target data = .hangs) ∧
      (r.outcome = .crashed ↔ ∃ kind message, c.target data = .fails kind message) ∧
      (c.target data = .leaves → r = ⟨.success,some (elapsed began ended),[],.null⟩)) := by
  cases waits : awaitable c.timeout with
  | error e =>
    rw [execute_apply_unawaitable started waits]
    simp [eq_comm]
  | ok =>
    rw [execute_apply started waits stopped]
    refine ⟨judged_promised_iff.trans (by simp),fun e => judged_eq_error.trans (by simp),fun r told => ?_⟩
    obtain ⟨success,timedOut,crashed⟩ := judged_outcome told
    refine ⟨success,timedOut,crashed,fun left => ?_⟩
    rw [left] at told
    exact (Except.ok.inj told).symm

/-- A target that leaves its thread where there is nothing to read, fails behind its first signal on a single byte, and
    otherwise tells inputs apart by their first byte. -/
def fickle : Callable where
  target
    | [] => .leaves
    | [_] => .yields ["one"] (some (.foreign "ValueError" "late"))
    | data => .ofInput (some data)
  timeout := standardTimeout

/-- An ordinary failure on two bytes is told as a crash. -/
theorem promise_kept_iff_fickle :
    (Tape.clock [some 0.5]).start .blank = ⟨.ok 1.0,.blank,[]⟩ ∧
    (Tape.clock [some 0.5]).stop .blank = ⟨.ok (1.0 + 0.5),.blank,[]⟩ ∧
    (∃ r, (fickle.execute (Tape.clock [some 0.5]) [0,7] .blank).result = .ok r ∧
      (Behaviour.fails "ValueError" "zero prefix").Promised (milliseconds standardTimeout) r) ∧
    (¬ ∃ r, (fickle.execute (Tape.clock [some 0.5]) [] .blank).result = .ok r ∧
      Behaviour.leaves.Promised (milliseconds standardTimeout) r) ∧
    (fickle.execute (Tape.clock [some 0.5]) [7] .blank).result = .error (.foreign "ValueError" "late") := by
  have started : (Tape.clock [some 0.5]).start .blank = ⟨.ok 1.0,.blank,[]⟩ := rfl
  have stopped : (Tape.clock [some 0.5]).stop .blank = ⟨.ok (1.0 + 0.5),.blank,[]⟩ := rfl
  have waits : awaitable fickle.timeout = .ok () := rfl
  have crash : fickle.target [0,7] = .fails "ValueError" "zero prefix" := rfl
  refine ⟨started,stopped,?_,?_,?_⟩
  · refine (promise_kept_iff fickle [0,7] started stopped).1.mpr ⟨waits,?_⟩
    rw [crash]
    exact ⟨nofun,nofun⟩
  · intro kept
    exact ((promise_kept_iff fickle [] started stopped).1.mp kept).2.1 rfl
  · exact ((promise_kept_iff fickle [7] started stopped).2.1 _).mpr (.inr ⟨waits,_,rfl⟩)

/-- Neither a target that leaves its thread is told as a crash, nor one whose signals fail: the first passes for a success, and
    of the second nothing is told at all. -/
theorem crash_untold :
    fickle.execute (Tape.clock [some 0.5]) [] .blank =
      ⟨.ok ⟨.success,some (elapsed 1.0 (1.0 + 0.5)),[],.null⟩,.blank,[]⟩ ∧
    (¬ ∃ r, (fickle.execute (Tape.clock [some 0.5]) [] .blank).result = .ok r ∧
      (fickle.target []).Promised (milliseconds fickle.timeout) r) ∧
    fickle.execute (Tape.clock [some 0.5]) [7] .blank = ⟨.error (.foreign "ValueError" "late"),.blank,[]⟩ ∧
    ¬ ∃ r, (fickle.execute (Tape.clock [some 0.5]) [7] .blank).result = .ok r ∧
      (fickle.target [7]).Promised (milliseconds fickle.timeout) r := by
  have left : fickle.execute (Tape.clock [some 0.5]) [] .blank =
    ⟨.ok ⟨.success,some (elapsed 1.0 (1.0 + 0.5)),[],.null⟩,.blank,[]⟩ := rfl
  have escaped : fickle.execute (Tape.clock [some 0.5]) [7] .blank =
    ⟨.error (.foreign "ValueError" "late"),.blank,[]⟩ := rfl
  refine ⟨left,?_,escaped,?_⟩
  · rintro ⟨r,told,crashed,-⟩
    rw [left] at told
    cases told
    cases crashed
  · rintro ⟨r,told,-⟩
    rw [escaped] at told
    cases told

end Callable

end Fuzzing

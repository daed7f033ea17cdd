import Fuzzing.Action

/-!
Running a target in place. A target is described by its behaviour on each input: whether it
comes back at all, and with what. Coming back with an ordinary failure is a crash, not coming
back before the deadline a timeout. Executors are watched by a tape, which counts executions and keeps their inputs.
-/
namespace Fuzzing

/-- What a target does on one input. -/
inductive Behaviour where
  /-- It does not come back before the deadline. -/
  | hangs
  /-- It fails. -/
  | fails (kind message : String)
  /-- It leaves its thread without failing and without a result. -/
  | leaves
  /-- It returns nothing. -/
  | returnsNothing
  /-- It returns signals one by one, and then ends, or fails on the way. -/
  | yields (signals : List Signal) (failure : Option (Failure Float))

/-- A clock on states in `κ` that is read before and after each run, in seconds. -/
structure Clock (κ : Type) where
  start : Action Float κ Float
  stop : Action Float κ Float

/-- A target with a deadline in milliseconds, which keeps whether it is a whole number. -/
structure Callable where
  target : Bytes → Behaviour
  timeout : Document Float

namespace Callable

/-- The deadline where none is given. -/
def standardTimeout : Document Float := .whole 5000

/-- A deadline as a number. A truth value counts as one or zero. -/
def milliseconds : Document Float → Float
  | .whole n => Quantity.ofInt n
  | .real x => x
  | .bool b => if b then 1.0 else 0.0
  | _ => 0

/-- Whether a deadline is not positive. -/
private def isNotPositive : Document Float → Except (Failure Float) Bool
  | .whole n => .ok (n ≤ 0)
  | .real x => .ok (x ≤ 0)
  | .bool b => .ok !b
  | d => .error (.notComparable "<=" d.form "int")

/-- A target that is to be run; it must be there, and its deadline positive. -/
def create (target : Option (Bytes → Behaviour)) (timeout : Document Float) :
    Except (Failure Float) Callable :=
  match target with
  | none => .error (.refused .noTarget)
  | some target => do
    if ← isNotPositive timeout then .error (.refused (.timeoutNotPositive timeout)) else .ok ⟨target,timeout⟩

/-- The nanoseconds that a clock can count, `2 ^ 63`. -/
private def furthest : Float := 9223372036854775808.0

/-- Whether a clock can count up to a deadline, in seconds. -/
private def countable (seconds : Float) : Except (Failure Float) Unit :=
  if seconds.isNaN then .error .deadlineUndefined
  else if seconds * 1000000000.0 < furthest then .ok ()
  else .error .deadlineTooFar

/-- Whether a deadline can be waited for. -/
def awaitable : Document Float → Except (Failure Float) Unit
  | .whole n => if Decimal.inRange n.natAbs 1 then countable (Quantity.ofInt n / 1000.0) else .error .integerTooLarge
  | d => countable (milliseconds d / 1000.0)

/-- The time between two readings of a clock in seconds, in milliseconds. -/
def elapsed (start stop : Float) : Float := (stop - start) * 1000.0

/-- Waits for a behaviour of the target, the clock read before and after. A deadline that cannot be waited
    for fails whatever the target does, and before the clock is read again. -/
def await {κ : Type} (c : Callable) (clock : Clock κ) (behaviour : Behaviour) : Action Float κ (Execution Float) := do
  let start ← clock.start
  let _ ← .ofExcept (awaitable c.timeout)
  let latency := elapsed start (← clock.stop)
  match behaviour with
  | .hangs => do
    .note (.executionTimedOut c.timeout)
    pure
      { outcome := .timedOut, latency := some (milliseconds c.timeout), coverage := []
        error := .text ("Execution exceeded " ++ c.timeout.plain ++ " ms") }
  | .fails kind message => do
    let error := kind ++ ": " ++ message
    .note (.executionCrashed error)
    pure { outcome := .crashed, latency := some latency, coverage := [], error := .text error }
  | .leaves | .returnsNothing => pure { outcome := .success, latency := some latency, coverage := [], error := .null }
  | .yields signals none => pure { outcome := .success, latency := some latency, coverage := signals, error := .null }
  | .yields _ (some failure) => .fail failure

/-- Runs the target on an input. -/
def execute {κ : Type} (c : Callable) (clock : Clock κ) (data : Bytes) : Action Float κ (Execution Float) :=
  c.await clock (c.target data)

end Callable

/-- What is kept about executions: how many there were, and their inputs, the latest first. -/
structure Tape where
  count : Nat
  inputs : List (Option Bytes)

namespace Tape

def blank : Tape := ⟨0,[]⟩

def seen (t : Tape) : List (Option Bytes) := t.inputs.reverse

/-- The tape with its inputs forgotten. -/
def forgotten (t : Tape) : Tape := { t with inputs := [] }

/-- The position of the entry that is next, where so many are taken in turn over and over. There has to be one. -/
def turn? (t : Tape) (length : Nat) : Except (Failure Float) Nat :=
  if length = 0 then .error (.byZero "integer modulo") else .ok (t.count % length)

variable {α : Type}

/-- Runs an input and keeps it. -/
def keeping (input : Option Bytes) (run : Action Float Tape α) : Action Float Tape α := do
  let result ← run.attempt
  .update fun t => ⟨t.count + 1,input :: t.inputs⟩
  .ofExcept result

/-- A clock that shows one before an execution and later by the next of some spans behind it. -/
def clock (spans : List (Option Float)) : Clock Tape :=
  { start := pure 1.0
    stop := do
      let turn ← .ofExcept ((← .state).turn? spans.length)
      match spans[turn]?.join with
      | some span => pure (1.0 + span)
      | none => .fail (.noOperation "+" (Document.real (1.0 : Float)).form (Document.null : Document Float).form) }

end Tape

end Fuzzing

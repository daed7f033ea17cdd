import Fuzzing.Execution.Callable

/-!
Targets and executions whose outcome follows from the input by a simple rule, or is prepared in advance. They
serve to try out campaigns.
-/
namespace Fuzzing

/-- A target that tells inputs apart by their length and first byte, and fails where that is zero. An input that
    is not there has no first byte. -/
def Behaviour.ofInput : Option Bytes → Behaviour
  | none => .fails "TypeError" "'NoneType' object is not subscriptable"
  | some [] => .yields ["empty","len:0"] none
  | some (b :: rest) =>
    if b = 0 then .fails "ValueError" "zero prefix"
    else .yields [.text ("b" ++ toString (b.toNat % 4)),.text ("len:" ++ toString (rest.length + 1))] none

/-- The failures that targets are made to fail with. -/
private def Behaviour.failures : List String :=
  ["ValueError","RuntimeError","ZeroDivisionError","InvalidArgumentError","SystemExit"]

private def Behaviour.lacks (name : Document Float) : Behaviour :=
  let e : Failure Float := .noEntry name.shown
  .fails e.label e.message

/-- A target that fails in the same way on every input. The failure is looked up, and then made of a message;
    one that is not known, or that there is no message for, is another failure. -/
private def Behaviour.ofFailure (kind message : Option (Document Float)) : Behaviour :=
  match kind, message with
  | none, _ => lacks (.text "type")
  | some (.text kind), message =>
    if !failures.contains kind then lacks (.text kind)
    else
      match message with
      | none => lacks (.text "message")
      | some message =>
        if kind = "SystemExit" then .leaves
        else if kind = "InvalidArgumentError" then
          .fails kind (Report.ofArgument message.plain none [] : Report Float).message
        else .fails kind message.plain
  | some kind, _ =>
    match Signal.ofDocument? kind with
    | .ok _ => lacks kind
    | .error e => .fails e.label e.message

/-- A target that returns the same value on every input, whose parts are its signals. -/
private def Behaviour.ofResult : Option (Document Float) → Behaviour
  | none => lacks (.text "signals")
  | some .null => .returnsNothing
  | some d =>
    match Signal.ofParts? d with
    | .ok signals => .yields signals none
    | .error e => .yields [] (some e)

/-- What a target does that a value describes. The value is looked at while the target runs, so that it fails where
    there is nothing to be found. -/
private def Behaviour.ofDescription (d : Document Float) (input : Option Bytes) : Behaviour :=
  match d.under? "kind" with
  | .error e => .fails e.label e.message
  | .ok (.text "signals") => .ofResult (d.field? "signals")
  | .ok (.text "raise") => .ofFailure (d.field? "type") (d.field? "message")
  | .ok (.text "block") => .hangs
  | .ok _ => .ofInput input

/-- The target that a value describes; null describes none. -/
def Behaviour.described : Document Float → Option (Option Bytes → Behaviour)
  | .null => none
  | d => some (ofDescription d)

namespace Execution

/-- A fast execution with the upper half of the first byte as its signal, or a slower one that crashes. -/
private def ofFirstByte (crashes : UInt8 → Bool) : Bytes → Execution Float
  | [] => ⟨.success,some 1.0,["empty"],.null⟩
  | b :: _ =>
    if crashes b then ⟨.crashed,some 2.0,[],.text "boom"⟩
    else ⟨.success,some 1.0,[.text ("first:" ++ toString (b.toNat / 16))],.null⟩

/-- An execution with signals of the length and of the sum of the bytes. The sum also decides on the outcome and
    the time it took. -/
private def ofSum (data : Bytes) : Execution Float :=
  let sum := data.foldl (fun n b => n + b.toNat) 0
  let coverage : List Signal :=
    [.text ("len:" ++ toString (data.length / 4)),.text ("sum:" ++ toString (sum % 17))]
  let latency : Option Float := some (Decimal.ofInt (sum % 50 : Nat) * 0.1)
  if sum % 11 = 0 then ⟨.crashed,latency,coverage,.text ("sum " ++ toString sum)⟩
  else if sum % 13 = 0 then ⟨.timedOut,latency,coverage,.null⟩
  else ⟨.success,latency,coverage,.null⟩

/-- An execution from the name of its outcome, the time it took, its signals and its error. -/
def prepared? (outcome latency coverage error : Document Float) : Except (Failure Float) (Execution Float) := do
  let outcome ← outcome.named? "ExecutionOutcome" Outcome.all Outcome.text
  let latency ← latency.measure?
  let coverage ← Signal.ofParts? coverage
  pure { outcome, latency, coverage, error }

/-- An execution from a row of four values. -/
private def ofRow? (row : Document Float) : Except (Failure Float) (Execution Float) := do
  let outcome ← (← row.part? 0).named? "ExecutionOutcome" Outcome.all Outcome.text
  let latency ← (← row.part? 1).measure?
  let coverage ← Signal.ofParts? (← row.part? 2)
  pure { outcome, latency, coverage, error := ← row.part? 3 }

/-- Executions as a record describes them: by the first byte of the input, in turn from prepared rows, or by the sum
    of the bytes of the input. -/
def described (d : Document Float) (input : Bytes) : Action Float Tape (Execution Float) := do
  match ← .ofExcept (d.under? "kind") with
  | .text "first" =>
    let crashes (b : UInt8) : Bool :=
      match d.field? "crash_byte" with
      | none => b == 255
      | some (.real x) => x == b.toNat.toFloat
      | some crash => crash.integer? == some (b.toNat : Int)
    pure (ofFirstByte crashes input)
  | .text "list" =>
    let tape ← Action.state
    .ofExcept do
      let rows ← d.under? "results"
      ofRow? (← rows.part? (← tape.turn? (← rows.length?)))
  | _ => pure (ofSum input)

end Execution

end Fuzzing

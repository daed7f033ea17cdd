import Fuzzing.Document.Argument
import Fuzzing.Signal
import Fuzzing.Statistics

/-!
Counters that come from outside. The counts may be of any form, the mean latency and the latency that it is
compared with may be missing; what does not serve is refused where it is used, and only there.
`score?_counters` says that counters of a mutator whose shares are in range score as the mutator does.
-/
namespace Fuzzing

/-- The counters that a score is made of. -/
structure Counters where
  executions : Document Float
  discoveries : Document Float
  crashes : Document Float
  averageLatency : Option Float

namespace Counters

def names : List String := (Statistics.zero : Statistics Float).fields.map (·.1)

/-- What takes named counters, in complaints. -/
private def makerText : String := "MutatorStatistics.__init__"

/-- Refuses the first name that no counter has. -/
private def ensureNames (given : List (Signal × Document Float)) : Except (Failure Float) Unit :=
  let unknown : List Signal := (given.map (·.1)).filter fun key => !names.any fun name => key == .text name
  if given.any fun e => !(e.1 matches .text _) then .error .notANamedArgument
  else
    match unknown with
    | [] => .ok ()
    | key :: _ =>
      let name := key.document.plain
      .error (if name = "self" then .reservedName makerText name else .unknownArgument makerText name)

/-- Counters from a table. A counter that is not given is zero; a sum of increases has to be a number. -/
def ofDocument? (d : Document Float) : Except (Failure Float) Counters := do
  let given := Table.ofEntries (← Signal.table? d)
  let value (name : String) : Document Float := (Table.get? (Signal.text name) given).getD (.whole 0)
  let averageLatency ← (value "average_latency_ms").measure?
  let _ ← (value "total_coverage_increase").measure?
  ensureNames given
  pure
    { executions := value "total_executions", discoveries := value "new_coverage_count"
      crashes := value "crash_count", averageLatency }

def share? (c : Counters) (count : Document Float) : Except (Failure Float) Float :=
  if c.executions.isZero then .ok 0 else count.over? c.executions

def coverageRate? (c : Counters) : Except (Failure Float) Float := c.share? c.discoveries

def crashRate? (c : Counters) : Except (Failure Float) Float := c.share? c.crashes

/-- How fast a mutator's output runs, relative to a latency. -/
def speed? (c : Counters) : Option Float → Except (Failure Float) Float
  | none => .error (.uncomparable ">")
  | some slowest =>
    if 0 < slowest then
      match c.averageLatency with
      | some latency => .ok (1.0 - latency / slowest)
      | none => .error (.noOperation "/" "NoneType" "float")
    else .ok 1.0

def score? (c : Counters) (slowest : Option Float) (policy : SelectionPolicy Float) : Except (Failure Float) Float :=
  if c.executions.isZero then .ok 1.0
  else do
    let speed ← c.speed? slowest
    let coverageRate ← c.coverageRate?
    let crashRate ← c.crashRate?
    pure (Quantity.larger policy.floor
      (policy.coverageWeight * coverageRate + policy.crashWeight * crashRate + policy.speedWeight * speed))

end Counters

/-- The counters of a mutator as they would be given from outside. -/
def Statistics.counters (s : Statistics Float) : Counters :=
  ⟨.whole s.executions,.whole s.discoveries,.whole s.crashes,some s.averageLatency⟩

namespace Counters

theorem share?_counters (s : Statistics Float) (count : Int)
    (fits : Decimal.inRange count.natAbs s.executions.natAbs = true) :
    s.counters.share? (.whole count) = .ok (s.share count) := by
  by_cases fresh : s.executions = 0
  · simp [share?,Statistics.counters,Document.isZero,Statistics.share,fresh]
  · simp [share?,Statistics.counters,Document.isZero,Statistics.share,fresh,Document.over?,Document.integer?,fits,
      Quantity.ratio]

/-- Counters of a mutator whose shares are in range score as the mutator does. -/
theorem score?_counters (s : Statistics Float) (slowest : Float) (policy : SelectionPolicy Float)
    (discoveries : Decimal.inRange s.discoveries.natAbs s.executions.natAbs = true)
    (crashes : Decimal.inRange s.crashes.natAbs s.executions.natAbs = true) :
    s.counters.score? (some slowest) policy = .ok (s.score slowest policy) := by
  have coverageRate : s.counters.coverageRate? = .ok s.coverageRate := share?_counters s _ discoveries
  have crashRate : s.counters.crashRate? = .ok s.crashRate := share?_counters s _ crashes
  have speed : s.counters.speed? (some slowest) = .ok (s.speed slowest) := by
    by_cases slow : 0 < slowest <;> simp [speed?,Statistics.speed,Statistics.counters,slow]
  unfold score? Statistics.score
  by_cases fresh : s.executions = 0
  · simp [Statistics.counters,Document.isZero,fresh]
  · rw [coverageRate,crashRate,speed]
    simp [Statistics.counters,Document.isZero,fresh,bind,Except.bind,pure,Except.pure]

end Counters

end Fuzzing

import Fuzzing.Campaign

/-!
The pace of a campaign from readings that come from outside: how many executions there were, which may be of any
form, how long they took together, and when the campaign started, all of which may be missing.
-/
namespace Fuzzing

/-- What a pace is made of. -/
structure Pace where
  executions : Document Float
  totalLatency : Option Float
  start : Option Float
  now : Option Float

namespace Pace

/-- Readings from named values, all of which have to be there. -/
def ofFields? (given : Fields Float) : Except (Failure Float) Pace := do
  let start ← (← Document.entry? "start" given).measure?
  let executions ← Document.entry? "executions" given
  let totalLatency ← (← Document.entry? "total_latency_ms" given).measure?
  let now ← (← Document.entry? "now" given).measure?
  pure { executions, totalLatency, start, now }

private def averageLatency? (p : Pace) : Except (Failure Float) Float :=
  if p.executions.isZero then .ok 0 else (Document.ofMeasure p.totalLatency).over? p.executions

/-- Executions per second, zero where no time has passed. -/
private def rate? (p : Pace) : Except (Failure Float) Float := do
  let elapsed ← (Document.ofMeasure p.now).minus? (Document.ofMeasure p.start)
  if 0 < elapsed then p.executions.over? (.real elapsed) else pure 0

/-- The totals of a campaign at this pace, under the names that reports use. -/
private def totals? (p : Pace) : Except (Failure Float) (Fields Float) := do
  let summary : Summary Float := { (Totals.zero : Totals Float).summary with averageLatency := ← p.averageLatency? }
  pure (Table.put "executions" p.executions summary.fields)

/-- The pace under the names that reports use. The rate is found first. -/
def fields? (p : Pace) : Except (Failure Float) (Fields Float) := do
  let rate ← p.rate?
  pure [("average",.real (← p.averageLatency?)),("rate",.real rate),("dict",.record (← p.totals?))]

end Pace

end Fuzzing

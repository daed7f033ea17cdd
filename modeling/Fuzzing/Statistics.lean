import Fuzzing.Failure

/-!
The running counters of one mutator, and the score that turns them into a weight for
selection. Only counters are stored: the mean latency is updated with every execution, and
scores are computed when they are asked for.
-/
namespace Fuzzing

variable {ρ : Type} [Quantity ρ]

/-- What is known about the effect of one mutator. -/
structure Statistics (ρ : Type) where
  executions : Int
  discoveries : Int
  crashes : Int
  averageLatency : ρ
  successes : Int
  coverageGain : ρ
  deriving BEq

namespace Statistics

def zero : Statistics ρ := ⟨0,0,0,0,0,0⟩

instance : Inhabited (Statistics ρ) := ⟨zero⟩

/-- Counts one execution of the mutator's output and moves the mean latency. A latency has to be there. -/
def record (s : Statistics ρ) (discovered crashed : Bool) : Option ρ → Except (Failure ρ) (Statistics ρ)
  | none => .error (.uncomparable "<")
  | some latency =>
    if latency < 0 then .error (.refused (.negativeLatency latency))
    else
      let n := s.executions + 1
      .ok { s with
        executions := n
        discoveries := s.discoveries + if discovered then 1 else 0
        crashes := s.crashes + if crashed then 1 else 0
        averageLatency := (s.averageLatency * Quantity.ofInt (n - 1) + latency) / Quantity.ofInt n }

/-- Counts a success that the caller confirms. An increase has to be there. -/
def recordSuccess (s : Statistics ρ) : Option ρ → Except (Failure ρ) (Statistics ρ)
  | none => .error (.uncomparable "<")
  | some increase =>
    if increase < 0 then .error (.refused (.negativeIncrease increase))
    else .ok { s with successes := s.successes + 1, coverageGain := s.coverageGain + increase }

def share (s : Statistics ρ) (count : Int) : ρ :=
  if s.executions = 0 then 0 else Quantity.ratio count s.executions

def coverageRate (s : Statistics ρ) : ρ := s.share s.discoveries

def crashRate (s : Statistics ρ) : ρ := s.share s.crashes

def fields (s : Statistics ρ) : Fields ρ :=
  [("total_executions",.whole s.executions),("new_coverage_count",.whole s.discoveries),
   ("crash_count",.whole s.crashes),("average_latency_ms",.real s.averageLatency),
   ("successful_mutation_count",.whole s.successes),("total_coverage_increase",.real s.coverageGain)]

end Statistics

/-- How much each yield counts, the least score, and the executions every mutator needs before
    scores decide. -/
structure SelectionPolicy (ρ : Type) where
  threshold : Int
  coverageWeight : ρ
  crashWeight : ρ
  speedWeight : ρ
  floor : ρ

/-- Ten executions first; then coverage counts most and speed least. -/
def SelectionPolicy.standard : SelectionPolicy ρ := ⟨10,0.6,0.3,0.1,0.1⟩

/-- How fast a mutator's output runs, relative to the slowest mutator. -/
def Statistics.speed (s : Statistics ρ) (slowest : ρ) : ρ :=
  if 0 < slowest then 1.0 - s.averageLatency / slowest else 1.0

/-- The weight of a mutator in selection: its weighted yields, but at least the floor of the
    policy. A mutator that never ran scores one. -/
def Statistics.score (s : Statistics ρ) (slowest : ρ) (policy : SelectionPolicy ρ) : ρ :=
  if s.executions = 0 then 1.0
  else
    Quantity.larger policy.floor
      (policy.coverageWeight * s.coverageRate + policy.crashWeight * s.crashRate
        + policy.speedWeight * s.speed slowest)

end Fuzzing

import Mathlib.Algebra.Order.Field.Basic
import Mathlib.Algebra.Order.Ring.Rat
import Mathlib.Data.Rat.Cast.Order
import Mathlib.Tactic.Linarith
import Mathlib.Tactic.NormNum
import Fuzzing.Proofs.Quantity
import Fuzzing.Statistics

/-!
What the counters of a mutator tell after it was credited with some executions, and the range of its score in exact
arithmetic. Counters of executions are `Coherent`: no more of them discovered signals or crashed than there were, and the
mean latency is not negative. Under an accepted policy the score of coherent counters lies between the floor and the
larger of one and the sum of the weights (`floor_le_score`, `Coherent.score_le_cap`).
-/
namespace Fuzzing

variable {ρ : Type} [Quantity ρ]

/-- What an execution counts for: the number of its new signals, whether it crashed, and the time that it took. -/
structure Credit (ρ : Type) where
  fresh : Nat
  crashed : Bool
  latency : ρ

/-- Whether new signals were discovered. -/
def Credit.discovers {ρ : Type} (credit : Credit ρ) : Bool := credit.fresh != 0

namespace Statistics

/-- The statistics with one more execution. -/
def recorded (s : Statistics ρ) (discovered crashed : Bool) (latency : ρ) : Statistics ρ :=
  { s with
    executions := s.executions + 1
    discoveries := s.discoveries + if discovered then 1 else 0
    crashes := s.crashes + if crashed then 1 else 0
    averageLatency := (s.averageLatency * Quantity.ofInt (s.executions + 1 - 1) + latency)
      / Quantity.ofInt (s.executions + 1) }

/-- The statistics with one more success. -/
def succeeded (s : Statistics ρ) (increase : ρ) : Statistics ρ :=
  { s with successes := s.successes + 1, coverageGain := s.coverageGain + increase }

theorem record_ok {s s' : Statistics ρ} {discovered crashed : Bool} {latency : Option ρ}
    (ran : s.record discovered crashed latency = .ok s') :
    ∃ measured, latency = some measured ∧ s' = s.recorded discovered crashed measured := by
  cases latency with
  | none => cases ran
  | some measured =>
    rw [record] at ran
    split at ran
    · cases ran
    · cases ran
      exact ⟨measured,rfl,rfl⟩

private theorem not_negative_of_record {s s' : Statistics ρ} {discovered crashed : Bool} {latency : ρ}
    (ran : s.record discovered crashed (some latency) = .ok s') : ¬ latency < 0 := by
  intro negative
  rw [record,if_pos negative] at ran
  cases ran

theorem recordSuccess_ok {s s' : Statistics ρ} {increase : ρ} (ran : s.recordSuccess (some increase) = .ok s') :
    s' = s.succeeded increase := by
  rw [recordSuccess] at ran
  split at ran
  · cases ran
  · cases ran
    rfl

/-- The statistics after an execution that counts for a mutator. A discovery is a success. -/
def credited (s : Statistics ρ) (credit : Credit ρ) : Statistics ρ :=
  if credit.discovers then
    (s.recorded credit.discovers credit.crashed credit.latency).succeeded (Quantity.ofInt credit.fresh)
  else s.recorded credit.discovers credit.crashed credit.latency

@[simp] private theorem executions_credited (s : Statistics ρ) (credit : Credit ρ) :
    (s.credited credit).executions = s.executions + 1 := by
  unfold credited
  split <;> rfl

@[simp] theorem discoveries_credited (s : Statistics ρ) (credit : Credit ρ) :
    (s.credited credit).discoveries = s.discoveries + if credit.discovers then 1 else 0 := by
  unfold credited
  by_cases discovers : credit.discovers = true
  · rw [if_pos discovers]
    rfl
  · rw [if_neg discovers]
    rfl

@[simp] theorem crashes_credited (s : Statistics ρ) (credit : Credit ρ) :
    (s.credited credit).crashes = s.crashes + if credit.crashed then 1 else 0 := by
  unfold credited
  split <;> rfl

@[simp] theorem successes_credited (s : Statistics ρ) (credit : Credit ρ) :
    (s.credited credit).successes = s.successes + if credit.discovers then 1 else 0 := by
  unfold credited
  split
  · rfl
  · exact (Int.add_zero _).symm

@[simp] private theorem coverageGain_credited (s : Statistics ρ) (credit : Credit ρ) :
    (s.credited credit).coverageGain =
      if credit.discovers then s.coverageGain + Quantity.ofInt credit.fresh else s.coverageGain := by
  unfold credited
  split <;> rfl

@[simp] private theorem averageLatency_credited (s : Statistics ρ) (credit : Credit ρ) :
    (s.credited credit).averageLatency =
      (s.averageLatency * Quantity.ofInt s.executions + credit.latency) / Quantity.ofInt (s.executions + 1) := by
  have before : s.executions + 1 - 1 = s.executions := Int.add_sub_cancel ..
  unfold credited
  split <;> simp only [succeeded,recorded,before]

variable (s : Statistics ρ) (credits : List (Credit ρ))

theorem executions_foldl_credited : (credits.foldl credited s).executions = s.executions + credits.length := by
  induction credits generalizing s with
  | nil => exact (Int.add_zero _).symm
  | cons credit rest ih =>
    rw [List.foldl_cons,ih,executions_credited,List.length_cons]
    omega

/-- A counter that takes in one mark per execution counts the executions with the mark. -/
theorem foldl_credited_count {counter : Statistics ρ → Int} {mark : Credit ρ → Bool}
    (step : ∀ s credit, counter (credited s credit) = counter s + if mark credit then 1 else 0) :
    counter (credits.foldl credited s) = counter s + credits.countP mark := by
  induction credits generalizing s with
  | nil => exact (Int.add_zero _).symm
  | cons credit rest ih =>
    rw [List.foldl_cons,ih,step,List.countP_cons]
    by_cases marked : mark credit = true
    · rw [if_pos marked,if_pos marked]
      omega
    · rw [if_neg marked,if_neg marked]
      omega

theorem coverageGain_foldl_credited :
    (credits.foldl credited s).coverageGain =
      (credits.filter Credit.discovers).foldl (fun sum credit => sum + Quantity.ofInt credit.fresh)
        s.coverageGain := by
  induction credits generalizing s with
  | nil => rfl
  | cons credit rest ih =>
    rw [List.foldl_cons,ih,coverageGain_credited]
    cases discovers : credit.discovers with
    | false => rw [List.filter_cons_of_neg (by rw [discovers]; exact Bool.false_ne_true)]; rfl
    | true => rw [List.filter_cons_of_pos discovers]; rfl

variable {value : ρ → Rat}

theorem exact_coverageGain (exact : Quantity.Exact value) :
    value (credits.foldl credited s).coverageGain =
      value s.coverageGain + (credits.map fun credit => (credit.fresh : Rat)).sum := by
  induction credits generalizing s with
  | nil => exact (Rat.add_zero _).symm
  | cons credit rest ih =>
    rw [List.foldl_cons,ih,coverageGain_credited,List.map_cons,List.sum_cons,← Rat.add_assoc]
    congr 1
    by_cases discovers : credit.discovers = true
    · rw [if_pos discovers,exact.add,exact.ofInt]
      rfl
    · have nothing : credit.fresh = 0 := by simpa [Credit.discovers] using discovers
      rw [if_neg discovers,nothing]
      exact (Rat.add_zero _).symm

private theorem exact_latency (exact : Quantity.Exact value) (counted : 0 ≤ s.executions) :
    value (credits.foldl credited s).averageLatency * ((credits.foldl credited s).executions : Rat) =
      value s.averageLatency * (s.executions : Rat) + (credits.map fun credit => value credit.latency).sum := by
  induction credits generalizing s with
  | nil => exact (Rat.add_zero _).symm
  | cons credit rest ih =>
    have positive : ((s.executions + 1 : Int) : Rat) ≠ 0 := by
      rw [ne_eq,Rat.intCast_eq_zero_iff]
      omega
    rw [List.foldl_cons,ih _ (by rw [executions_credited]; omega),averageLatency_credited,executions_credited,exact.div,
      exact.add,exact.mul,exact.ofInt,exact.ofInt,Rat.div_mul_cancel positive,List.map_cons,List.sum_cons,
      Rat.add_assoc]

theorem exact_averageLatency (exact : Quantity.Exact value) :
    value (credits.foldl credited zero).averageLatency = mean (credits.map fun credit => value credit.latency) := by
  cases credits with
  | nil => exact exact.zero
  | cons credit rest =>
    have product := exact_latency zero (credit :: rest) exact (Int.le_refl 0)
    have many : (((credit :: rest).length : Nat) : Rat) ≠ 0 := by
      rw [ne_eq,Rat.natCast_eq_zero_iff]
      exact Nat.succ_ne_zero _
    have none : value (zero : Statistics ρ).averageLatency * ((zero : Statistics ρ).executions : Rat) = 0 :=
      Rat.mul_zero _
    have executions : (((credit :: rest).foldl credited zero).executions : Rat) = ((credit :: rest).length : Nat) := by
      rw [executions_foldl_credited]
      exact congrArg Int.cast (Int.zero_add _)
    rw [none,Rat.zero_add,executions] at product
    rw [mean,List.length_map,← product,if_neg (by simp),Rat.mul_div_cancel many]

end Statistics

/-- A policy within the limits of the settings. -/
structure SelectionPolicy.Accepted (p : SelectionPolicy Rat) : Prop where
  threshold : 1 ≤ p.threshold
  coverage : 0 ≤ p.coverageWeight ∧ p.coverageWeight ≤ 1
  crash : 0 ≤ p.crashWeight ∧ p.crashWeight ≤ 1
  speed : 0 ≤ p.speedWeight ∧ p.speedWeight ≤ 1
  floor : 0 < p.floor ∧ p.floor ≤ 1

/-- The most that a mutator scores. -/
def SelectionPolicy.cap (p : SelectionPolicy Rat) : Rat := max 1 (p.coverageWeight + p.crashWeight + p.speedWeight)

namespace Quantity

theorem larger_rat (a b : Rat) : larger a b = max a b := by
  rw [larger]
  split
  next less => exact (max_eq_right less.le).symm
  next more => exact (max_eq_left (not_lt.mp more)).symm

private theorem le_foldl_larger (xs : List Rat) (start : Rat) :
    start ≤ xs.foldl larger start ∧ ∀ x ∈ xs, x ≤ xs.foldl larger start := by
  induction xs generalizing start with
  | nil => exact ⟨le_refl start,fun x mem => absurd mem List.not_mem_nil⟩
  | cons y rest ih =>
    obtain ⟨above,all⟩ := ih (larger start y)
    rw [larger_rat] at above all
    rw [List.foldl_cons,larger_rat]
    refine ⟨(le_max_left start y).trans above,?_⟩
    intro x mem
    obtain rfl | later := List.mem_cons.mp mem
    · exact (le_max_right start x).trans above
    · exact all x later

/-- No entry is larger than the largest one. -/
theorem le_largest {xs : List Rat} {x : Rat} (mem : x ∈ xs) : x ≤ largest xs := by
  cases xs with
  | nil => exact absurd mem List.not_mem_nil
  | cons y rest =>
    obtain ⟨above,all⟩ := le_foldl_larger rest y
    obtain rfl | later := List.mem_cons.mp mem
    · exact above
    · exact all x later

end Quantity

namespace Statistics

/-- Counters that executions can lead to. -/
structure Coherent (s : Statistics Rat) : Prop where
  discoveries : 0 ≤ s.discoveries ∧ s.discoveries ≤ s.executions
  crashes : 0 ≤ s.crashes ∧ s.crashes ≤ s.executions
  latency : 0 ≤ s.averageLatency

theorem coherent_zero : (zero : Statistics Rat).Coherent where
  discoveries := ⟨Int.le_refl 0,Int.le_refl 0⟩
  crashes := ⟨Int.le_refl 0,Int.le_refl 0⟩
  latency := le_refl 0

private theorem counted_le {count executions : Int} (mark : Bool) (counted : 0 ≤ count ∧ count ≤ executions) :
    0 ≤ (count + if mark then 1 else 0) ∧ (count + if mark then 1 else 0) ≤ executions + 1 := by
  split <;> omega

namespace Coherent

variable {s s' : Statistics Rat}

theorem executions_nonneg (coherent : s.Coherent) : 0 ≤ s.executions :=
  coherent.discoveries.1.trans coherent.discoveries.2

theorem recorded (coherent : s.Coherent) (discovered crashed : Bool) {latency : Rat} (measured : 0 ≤ latency) :
    (s.recorded discovered crashed latency).Coherent where
  discoveries := counted_le discovered coherent.discoveries
  crashes := counted_le crashed coherent.crashes
  latency := by
    have before : (0 : Rat) ≤ ((s.executions + 1 - 1 : Int) : Rat) := by
      rw [Int.add_sub_cancel]
      exact Int.cast_nonneg coherent.executions_nonneg
    have after : (0 : Rat) ≤ ((s.executions + 1 : Int) : Rat) :=
      Int.cast_nonneg (Int.le_add_one coherent.executions_nonneg)
    exact div_nonneg (add_nonneg (mul_nonneg coherent.latency before) measured) after

theorem of_record {discovered crashed : Bool} {latency : Option Rat} (coherent : s.Coherent)
    (ran : s.record discovered crashed latency = .ok s') : s'.Coherent := by
  obtain ⟨measured,rfl,rfl⟩ := record_ok ran
  exact coherent.recorded discovered crashed (not_lt.mp (not_negative_of_record ran))

theorem of_recordSuccess {increase : Option Rat} (coherent : s.Coherent)
    (ran : s.recordSuccess increase = .ok s') : s'.Coherent := by
  cases increase with
  | none => cases ran
  | some increase =>
    obtain rfl := recordSuccess_ok ran
    exact ⟨coherent.discoveries,coherent.crashes,coherent.latency⟩

end Coherent

variable {s : Statistics Rat}

/-- A counter that is not above the number of executions is a share of them. -/
theorem share_mem {count : Int} (counted : 0 ≤ count ∧ count ≤ s.executions) :
    0 ≤ s.share count ∧ s.share count ≤ 1 := by
  rw [share]
  split
  next => exact ⟨le_refl 0,zero_le_one⟩
  next some =>
    have positive : (0 : Rat) < (s.executions : Rat) := by
      rw [Int.cast_pos]
      omega
    have least : (0 : Rat) ≤ (count : Rat) := Int.cast_nonneg counted.1
    have most : (count : Rat) ≤ (s.executions : Rat) := Int.cast_le.mpr counted.2
    exact ⟨div_nonneg least positive.le,(div_le_one positive).mpr most⟩

private theorem Coherent.speed_mem {slowest : Rat} (coherent : s.Coherent) (slow : s.averageLatency ≤ slowest) :
    0 ≤ s.speed slowest ∧ s.speed slowest ≤ 1 := by
  rw [speed]
  split
  next positive =>
    have least : 0 ≤ s.averageLatency / slowest := div_nonneg coherent.latency positive.le
    have most : s.averageLatency / slowest ≤ 1 := (div_le_one positive).mpr slow
    constructor <;> linarith
  next => constructor <;> norm_num

variable {policy : SelectionPolicy Rat}

/-- No score is below the floor. -/
theorem floor_le_score (accepted : policy.Accepted) (slowest : Rat) : policy.floor ≤ s.score slowest policy := by
  rw [score]
  split
  next =>
    have most := accepted.floor.2
    linarith
  next =>
    rw [Quantity.larger_rat]
    exact le_max_left ..

/-- No score of coherent counters is above the larger of one and the sum of the weights. -/
theorem Coherent.score_le_cap {slowest : Rat} (coherent : s.Coherent) (accepted : policy.Accepted)
    (slow : s.averageLatency ≤ slowest) : s.score slowest policy ≤ policy.cap := by
  have one : (1 : Rat) ≤ policy.cap := le_max_left ..
  rw [score]
  split
  next => linarith
  next =>
    have coverage := mul_le_of_le_one_right accepted.coverage.1 (share_mem coherent.discoveries).2
    have crash := mul_le_of_le_one_right accepted.crash.1 (share_mem coherent.crashes).2
    have speed := mul_le_of_le_one_right accepted.speed.1 (coherent.speed_mem slow).2
    have all : policy.coverageWeight + policy.crashWeight + policy.speedWeight ≤ policy.cap := le_max_right ..
    rw [Quantity.larger_rat]
    refine max_le (accepted.floor.2.trans one) ?_
    exact (add_le_add (add_le_add coverage crash) speed).trans all

end Statistics

end Fuzzing

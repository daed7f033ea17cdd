import Mathlib.Algebra.BigOperators.Group.List.Basic
import Mathlib.Algebra.Order.BigOperators.Group.List
import Mathlib.Algebra.Order.Ring.Rat
import Mathlib.Data.List.DropRight
import Fuzzing.Action
import Fuzzing.Proofs.Statistics.Score

/-!
Statistics as an account of the calls that made them. After any calls, some of them refused, the counters tell of those
since the last reset that were accepted (`Faithful`): how many there were of each kind, the mean of the latencies, which is
kept up without them, and the sum of the increases. Calls of the two kinds do not interfere, and the mean does not depend on
the order of the executions (`counters_faithful`).
-/
namespace Fuzzing

private theorem mean_mul_length (xs : List Rat) : mean xs * xs.length = xs.sum := by
  cases xs with
  | nil => simp [mean]
  | cons x rest =>
    have some : (((x :: rest).length : Nat) : Rat) ≠ 0 := Nat.cast_ne_zero.mpr (by simp)
    rw [mean,if_neg (by simp)]
    exact div_mul_cancel₀ _ some

private theorem mean_concat (xs : List Rat) (x : Rat) : mean (xs ++ [x]) = (mean xs * xs.length + x) / (xs.length + 1) := by
  rw [mean_mul_length,mean,if_neg (by simp)]
  simp

private theorem mean_eq_of_perm {xs ys : List Rat} (same : xs.Perm ys) : mean xs = mean ys := by
  rw [mean,mean,same.sum_eq,same.length_eq]
  simp only [List.isEmpty_iff_length_eq_zero,same.length_eq]

private theorem le_mean {xs : List Rat} {least : Rat} (some : xs ≠ []) (all : ∀ x ∈ xs, least ≤ x) : least ≤ mean xs := by
  have positive : (0 : Rat) < xs.length := Nat.cast_pos.mpr (List.length_pos_iff.mpr some)
  have total := List.card_nsmul_le_sum xs least all
  rw [mean,if_neg (by simpa using some),le_div_iff₀ positive]
  simpa [mul_comm] using total

private theorem mean_le {xs : List Rat} {most : Rat} (some : xs ≠ []) (all : ∀ x ∈ xs, x ≤ most) : mean xs ≤ most := by
  have positive : (0 : Rat) < xs.length := Nat.cast_pos.mpr (List.length_pos_iff.mpr some)
  have total := List.sum_le_card_nsmul xs most all
  rw [mean,if_neg (by simpa using some),div_le_iff₀ positive]
  simpa [mul_comm] using total

namespace Statistics

/-- A call that changes statistics. -/
inductive Call where
  | execution (discovered crashed : Bool) (latency : Option Rat)
  | success (increase : Option Rat)
  | reset

/-- What an execution counts for that was accepted. -/
structure Sample where
  discovered : Bool
  crashed : Bool
  latency : Rat

namespace Call

def change : Call → Statistics Rat → Except (Failure Rat) (Statistics Rat)
  | .execution discovered crashed latency, s => s.record discovered crashed latency
  | .success increase, s => s.recordSuccess increase
  | .reset, _ => .ok .zero

/-- Puts what a call makes of statistics in their place. -/
def perform (call : Call) : Action Rat (Statistics Rat) Unit := do
  let s ← Action.state
  let s' ← Action.ofExcept (call.change s)
  Action.update fun _ => s'

/-- A number is needed, which is not negative. -/
def accepted : Call → Bool
  | .execution _ _ latency => latency.any (0 ≤ ·)
  | .success increase => increase.any (0 ≤ ·)
  | .reset => true

def isReset : Call → Bool
  | .reset => true
  | _ => false

def sample? : Call → Option Sample
  | .execution discovered crashed latency => latency.map fun latency => ⟨discovered,crashed,latency⟩
  | _ => none

def increase? : Call → Option Rat
  | .success increase => increase
  | _ => none

end Call

/-- The statistics after some calls on new ones. -/
def after (calls : List Call) : Statistics Rat := calls.foldl (fun s call => (call.perform s).state) .zero

/-- The calls since the last reset that were accepted. -/
def counted (calls : List Call) : List Call := (calls.rtakeWhile fun call => !call.isReset).filter Call.accepted

def samples (calls : List Call) : List Sample := (counted calls).filterMap Call.sample?

def latencies (calls : List Call) : List Rat := (samples calls).map (·.latency)

def increases (calls : List Call) : List Rat := (counted calls).filterMap Call.increase?

variable {s s' : Statistics Rat} {call : Call}

namespace Call

theorem perform_ok (changed : call.change s = .ok s') : call.perform s = ⟨.ok (),s',[]⟩ := by
  rw [perform,Action.state_bind_apply,changed]
  rfl

private theorem perform_error {e : Failure Rat} (refused : call.change s = .error e) : call.perform s = ⟨.error e,s,[]⟩ := by
  rw [perform,Action.state_bind_apply,refused]
  rfl

private theorem change_execution_ok {latency : Rat} (measured : ¬ latency < 0) (discovered crashed : Bool) (s : Statistics Rat) :
    (execution discovered crashed (some latency)).change s = .ok (s.recorded discovered crashed latency) := by
  rw [change,record,if_neg measured]
  rfl

private theorem change_execution_negative {latency : Rat} (negative : latency < 0) (discovered crashed : Bool)
    (s : Statistics Rat) : (execution discovered crashed (some latency)).change s =
      .error (.refused (.negativeLatency latency)) := by
  rw [change,record,if_pos negative]

private theorem change_success_ok {increase : Rat} (positive : ¬ increase < 0) (s : Statistics Rat) :
    (success (some increase)).change s = .ok (s.succeeded increase) := by
  rw [change,recordSuccess,if_neg positive]
  rfl

private theorem change_success_negative {increase : Rat} (negative : increase < 0) (s : Statistics Rat) :
    (success (some increase)).change s = .error (.refused (.negativeIncrease increase)) := by
  rw [change,recordSuccess,if_pos negative]

/-- All that a call can do, whatever statistics it meets: it sets them back, it adds an execution or an increase, or it is
    refused and changes nothing. -/
theorem perform_cases (call : Call) :
    (call = .reset ∧ ∀ s, call.perform s = ⟨.ok (),.zero,[]⟩) ∨
    (∃ discovered crashed latency, 0 ≤ latency ∧ call = .execution discovered crashed (some latency) ∧
      ∀ s, call.perform s = ⟨.ok (),s.recorded discovered crashed latency,[]⟩) ∨
    (∃ increase, 0 ≤ increase ∧ call = .success (some increase) ∧
      ∀ s, call.perform s = ⟨.ok (),s.succeeded increase,[]⟩) ∨
    (call.accepted = false ∧ call.isReset = false ∧ ∃ e, ∀ s, call.perform s = ⟨.error e,s,[]⟩) := by
  cases call with
  | reset => exact .inl ⟨rfl,fun _ => perform_ok rfl⟩
  | execution discovered crashed latency =>
    cases latency with
    | none => exact .inr (.inr (.inr ⟨rfl,rfl,_,fun _ => perform_error rfl⟩))
    | some latency =>
      by_cases negative : latency < 0
      · refine .inr (.inr (.inr ⟨by simpa [accepted] using negative,rfl,.refused (.negativeLatency latency),fun s => ?_⟩))
        exact perform_error (change_execution_negative negative discovered crashed s)
      · refine .inr (.inl ⟨discovered,crashed,latency,not_lt.mp negative,rfl,fun s => ?_⟩)
        exact perform_ok (change_execution_ok negative discovered crashed s)
  | success increase =>
    cases increase with
    | none => exact .inr (.inr (.inr ⟨rfl,rfl,_,fun _ => perform_error rfl⟩))
    | some increase =>
      by_cases negative : increase < 0
      · refine .inr (.inr (.inr ⟨by simpa [accepted] using negative,rfl,.refused (.negativeIncrease increase),fun s => ?_⟩))
        exact perform_error (change_success_negative negative s)
      · refine .inr (.inr (.inl ⟨increase,not_lt.mp negative,rfl,fun s => ?_⟩))
        exact perform_ok (change_success_ok negative s)

private theorem result_perform (call : Call) (s s' : Statistics Rat) : (call.perform s).result = (call.perform s').result := by
  obtain ⟨-,ran⟩ | ⟨_,_,_,-,-,ran⟩ | ⟨_,-,-,ran⟩ | ⟨-,-,_,ran⟩ := call.perform_cases
  all_goals rw [ran,ran]

end Call

/-- The counters tell of executions and increases. -/
structure Faithful (samples : List Sample) (increases : List Rat) (s : Statistics Rat) : Prop where
  executions : s.executions = samples.length
  discoveries : s.discoveries = samples.countP (·.discovered)
  crashes : s.crashes = samples.countP (·.crashed)
  latency : s.averageLatency = mean (samples.map (·.latency))
  successes : s.successes = increases.length
  gain : s.coverageGain = increases.sum

namespace Faithful

variable {samples : List Sample} {increases : List Rat}

private theorem zero : Faithful [] [] .zero := ⟨rfl,rfl,rfl,rfl,rfl,rfl⟩

private theorem recorded (faithful : Faithful samples increases s) (discovered crashed : Bool) (latency : Rat) :
    Faithful (samples ++ [⟨discovered,crashed,latency⟩]) increases (s.recorded discovered crashed latency) where
  executions := by simp [Statistics.recorded,faithful.executions]
  discoveries := by simp [Statistics.recorded,faithful.discoveries]
  crashes := by simp [Statistics.recorded,faithful.crashes]
  latency := by
    -- The old mean is weighted by the count before this execution, which is as many as there are samples.
    rw [List.map_append,List.map_singleton,mean_concat,List.length_map,← faithful.latency]
    simp [Statistics.recorded,faithful.executions,Quantity.ofInt]
  successes := faithful.successes
  gain := faithful.gain

private theorem succeeded (faithful : Faithful samples increases s) (increase : Rat) :
    Faithful samples (increases ++ [increase]) (s.succeeded increase) where
  executions := faithful.executions
  discoveries := faithful.discoveries
  crashes := faithful.crashes
  latency := faithful.latency
  successes := by simp [Statistics.succeeded,faithful.successes]
  gain := by simp [Statistics.succeeded,faithful.gain]

end Faithful

/-- The bounds of what the counters tell: no more executions have a mark than there are, the mean lies between the least and
    the greatest latency, and the rates are shares. -/
structure Bounded (latencies : List Rat) (s : Statistics Rat) : Prop where
  discoveries : s.discoveries ≤ s.executions
  crashes : s.crashes ≤ s.executions
  least : ∀ least, latencies.min? = some least → least ≤ s.averageLatency
  most : ∀ most, latencies.max? = some most → s.averageLatency ≤ most
  coverageRate : 0 ≤ s.coverageRate ∧ s.coverageRate ≤ 1
  crashRate : 0 ≤ s.crashRate ∧ s.crashRate ≤ 1

private theorem Faithful.bounded {samples : List Sample} {increases : List Rat} (faithful : Faithful samples increases s) :
    Bounded (samples.map (·.latency)) s := by
  have counted (mark : Sample → Bool) : (0 : Int) ≤ samples.countP mark ∧ (samples.countP mark : Int) ≤ s.executions := by
    have most := List.countP_le_length (p := mark) (l := samples)
    rw [faithful.executions]
    omega
  have discoveries := counted (·.discovered)
  have crashes := counted (·.crashed)
  rw [← faithful.discoveries] at discoveries
  rw [← faithful.crashes] at crashes
  refine ⟨discoveries.2,crashes.2,?_,?_,share_mem discoveries,share_mem crashes⟩
  · intro least found
    obtain ⟨listed,all⟩ := List.min?_eq_some_iff.mp found
    rw [faithful.latency]
    exact le_mean (List.ne_nil_of_mem listed) all
  · intro most found
    obtain ⟨listed,all⟩ := List.max?_eq_some_iff.mp found
    rw [faithful.latency]
    exact mean_le (List.ne_nil_of_mem listed) all

section

variable (calls : List Call)

private theorem after_concat (call : Call) : after (calls ++ [call]) = (call.perform (after calls)).state := by
  rw [after,List.foldl_append]
  rfl

private theorem counted_concat_reset : counted (calls ++ [.reset]) = [] := by
  rw [counted,List.rtakeWhile_concat_neg _ _ _ (by decide),List.filter_nil]

private theorem counted_concat_accepted {call : Call} (other : call.isReset = false) (accepted : call.accepted = true) :
    counted (calls ++ [call]) = counted calls ++ [call] := by
  rw [counted,List.rtakeWhile_concat_pos _ _ _ (by rw [other]; rfl),List.filter_append]
  simp [counted,accepted]

private theorem counted_concat_refused {call : Call} (other : call.isReset = false) (refused : call.accepted = false) :
    counted (calls ++ [call]) = counted calls := by
  rw [counted,List.rtakeWhile_concat_pos _ _ _ (by rw [other]; rfl),List.filter_append]
  simp [counted,refused]

private theorem faithful_after : Faithful (samples calls) (increases calls) (after calls) := by
  -- The last call of all decides: it ends the account so far, adds to it, or leaves it as it is.
  induction calls using List.reverseRecOn with
  | nil => exact .zero
  | append_singleton calls call ih =>
    rw [after_concat]
    obtain ⟨rfl,ran⟩ | ⟨discovered,crashed,latency,measured,rfl,ran⟩ | ⟨increase,positive,rfl,ran⟩ |
      ⟨refused,other,e,ran⟩ := call.perform_cases
    · rw [ran,samples,increases,counted_concat_reset]
      exact .zero
    · rw [ran,samples,increases,counted_concat_accepted calls rfl (by simpa [Call.accepted] using measured)]
      simpa [samples,increases,List.filterMap_cons,Call.sample?,Call.increase?] using ih.recorded discovered crashed latency
    · rw [ran,samples,increases,counted_concat_accepted calls rfl (by simpa [Call.accepted] using positive)]
      simpa [samples,increases,List.filterMap_cons,Call.sample?,Call.increase?] using ih.succeeded increase
    · rw [ran,samples,increases,counted_concat_refused calls other refused]
      exact ih

end

/-- Two calls leave the same statistics in either order, and neither decides what becomes of the other one. -/
structure Commute (first second : Call) (s : Statistics Rat) : Prop where
  state : (second.perform (first.perform s).state).state = (first.perform (second.perform s).state).state
  ahead : (first.perform s).result = (first.perform (second.perform s).state).result
  behind : (second.perform s).result = (second.perform (first.perform s).state).result

private theorem commute_execution_success (discovered crashed : Bool) (latency increase : Option Rat) (s : Statistics Rat) :
    Commute (.execution discovered crashed latency) (.success increase) s where
  ahead := Call.result_perform ..
  behind := Call.result_perform ..
  state := by
    obtain ⟨other,-⟩ | ⟨_,_,_,-,-,ran⟩ | ⟨_,-,other,-⟩ | ⟨-,-,_,ran⟩ :=
      (Call.execution discovered crashed latency).perform_cases
    · cases other
    · obtain ⟨other,-⟩ | ⟨_,_,_,-,other,-⟩ | ⟨_,-,-,gains⟩ | ⟨-,-,_,gains⟩ := (Call.success increase).perform_cases
      · cases other
      · cases other
      · -- Each of the two changes has counters of its own.
        simp only [ran,gains]
        rfl
      · simp only [gains]
    · cases other
    · simp only [ran]

/-- After any calls on new statistics the counters tell of those since the last reset that were accepted, within their
    bounds. The mean latency does not depend on the order of the executions. A call is accepted on all statistics or on
    none; where it is not, as with a negative latency or increase, the statistics stay as they are. Executions and
    successes may change places. -/
theorem counters_faithful :
    (∀ calls : List Call, Faithful (samples calls) (increases calls) (after calls) ∧
      Bounded (latencies calls) (after calls)) ∧
    (∀ calls others : List Call, (latencies calls).Perm (latencies others) →
      (after calls).averageLatency = (after others).averageLatency) ∧
    (∀ (call : Call) (s : Statistics Rat), (call.accepted = true ∧ ∃ s', call.perform s = ⟨.ok (),s',[]⟩) ∨
      (call.accepted = false ∧ ∃ e, call.perform s = ⟨.error e,s,[]⟩)) ∧
    (∀ (discovered crashed : Bool) (x : Rat) (s : Statistics Rat), x < 0 →
      (Call.execution discovered crashed (some x)).perform s = ⟨.error (.refused (.negativeLatency x)),s,[]⟩ ∧
      (Call.success (some x)).perform s = ⟨.error (.refused (.negativeIncrease x)),s,[]⟩) ∧
    (∀ (discovered crashed : Bool) (latency increase : Option Rat) (s : Statistics Rat),
      Commute (.execution discovered crashed latency) (.success increase) s) := by
  refine ⟨fun calls => ⟨faithful_after calls,(faithful_after calls).bounded⟩,fun calls others same => ?_,
    fun call s => ?_,fun discovered crashed x s negative => ⟨?_,?_⟩,commute_execution_success⟩
  · rw [(faithful_after calls).latency,(faithful_after others).latency]
    exact mean_eq_of_perm same
  · obtain ⟨rfl,ran⟩ | ⟨_,_,latency,measured,rfl,ran⟩ | ⟨increase,positive,rfl,ran⟩ | ⟨refused,-,e,ran⟩ :=
      call.perform_cases
    · exact .inl ⟨rfl,_,ran s⟩
    · exact .inl ⟨by simpa [Call.accepted] using measured,_,ran s⟩
    · exact .inl ⟨by simpa [Call.accepted] using positive,_,ran s⟩
    · exact .inr ⟨refused,e,ran s⟩
  · exact Call.perform_error (Call.change_execution_negative negative discovered crashed s)
  · exact Call.perform_error (Call.change_success_negative negative s)

/-- Executions before a reset, and one of a negative latency, count for nothing, and the others may change places. -/
theorem counters_faithful_mixed :
    let calls : List Call := [.execution true true (some 9),.reset,.execution true false (some 2),
      .execution false false (some (-1)),.success (some 3),.execution false true (some 4)]
    let others : List Call := [.execution false true (some 4),.success none,.execution true false (some 2)]
    latencies calls = [2,4] ∧ increases calls = [3] ∧ latencies others = [4,2] ∧
    Faithful (samples calls) (increases calls) (after calls) ∧ (after calls).averageLatency = 3 ∧
    (after calls).averageLatency = (after others).averageLatency ∧
    (-1 : Rat) < 0 ∧ (Call.execution false false (some (-1))).perform (after others) =
      ⟨.error (.refused (.negativeLatency (-1))),after others,[]⟩ := by
  intro calls others
  have first : latencies calls = [2,4] := by decide
  have second : latencies others = [4,2] := by decide
  obtain ⟨told,ordered,-,negative,-⟩ := counters_faithful
  have same : (latencies calls).Perm (latencies others) := by
    rw [first,second]
    exact .swap ..
  have average : (after calls).averageLatency = mean (latencies calls) := (told calls).1.latency
  refine ⟨first,by decide,second,(told calls).1,?_,ordered calls others same,by decide,
    (negative false false (-1) (after others) (by decide)).1⟩
  rw [average,first]
  norm_num [mean]

end Statistics

end Fuzzing

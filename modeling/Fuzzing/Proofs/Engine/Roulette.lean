import Mathlib.Algebra.Order.BigOperators.Group.List
import Mathlib.Algebra.Order.Field.Basic
import Mathlib.Algebra.Order.Ring.Rat
import Mathlib.Data.Rat.Cast.Order
import Mathlib.Tactic.Linarith
import Fuzzing.Proofs.Engine.Operation
import Fuzzing.Proofs.Ledger
import Fuzzing.Proofs.Statistics.History

/-!
The roulette in exact arithmetic. The running sums of positive weights divide the line up to their sum into bands, and
the search among the sums finds the band of a draw (`bandOf_eq_iff`, `exists_inBand`). In an engine that calls lead to,
every mutator has coherent counters, so that its score is a weight between the floor and the cap, and each slot is selected
by the fractions in its band (`select_proportional`). More discoveries, more crashes and a lower latency never lower a
score (`score_mono`).
-/
namespace Fuzzing

namespace Quantity

private theorem runningSums_eq_map (weights : List Rat) (start : Rat) :
    runningSums start weights = (List.range weights.length).map fun i => start + (weights.take (i + 1)).sum := by
  induction weights generalizing start with
  | nil => rfl
  | cons weight rest ih =>
    rw [runningSums,ih,List.length_cons,List.range_succ_eq_map,List.map_cons,List.map_map]
    congr 1
    · rw [List.take_succ_cons,List.take_zero,List.sum_singleton]
    · refine List.map_congr_left fun i _ => ?_
      rw [Function.comp_apply,List.take_succ_cons,List.sum_cons,add_assoc]

private theorem getLastD_runningSums (weights : List Rat) (start : Rat) :
    (runningSums start weights).getLastD start = start + weights.sum := by
  induction weights generalizing start with
  | nil => exact (add_zero start).symm
  | cons weight rest ih =>
    rw [runningSums,List.getLastD_cons,ih,List.sum_cons,add_assoc]

private theorem le_of_mem_runningSums {weights : List Rat} (positive : ∀ weight ∈ weights, 0 < weight) {start sum : Rat}
    (mem : sum ∈ runningSums start weights) : start ≤ sum := by
  induction weights generalizing start with
  | nil => exact absurd mem List.not_mem_nil
  | cons weight rest ih =>
    obtain ⟨first,later⟩ := List.forall_mem_cons.mp positive
    obtain rfl | among := List.mem_cons.mp mem
    · exact (lt_add_of_pos_right start first).le
    · exact (lt_add_of_pos_right start first).le.trans (ih later among)

end Quantity

/-- A draw falls into the band of a position: it reaches the sum of the weights in front of the position, and stays
    below the sum that has the weight there as well. -/
def InBand (weights : List Rat) (i : Nat) (draw : Rat) : Prop :=
  (weights.take i).sum ≤ draw ∧ draw < (weights.take (i + 1)).sum

section

variable {weights : List Rat} {draw : Rat}

private theorem sum_take_nonneg (positive : ∀ weight ∈ weights, 0 < weight) (i : Nat) : 0 ≤ (weights.take i).sum :=
  List.sum_nonneg fun weight mem => (positive weight (List.mem_of_mem_take mem)).le

private theorem bandOf_eq_countP (positive : ∀ weight ∈ weights, 0 < weight) (start : Rat) :
    bandOf draw (Quantity.runningSums start weights) =
      (Quantity.runningSums start weights).countP fun sum => decide (sum ≤ draw) := by
  induction weights generalizing start with
  | nil => rfl
  | cons weight rest ih =>
    obtain ⟨_,later⟩ := List.forall_mem_cons.mp positive
    rw [Quantity.runningSums,bandOf,List.countP_cons]
    split
    next below =>
      have none : (Quantity.runningSums (start + weight) rest).countP (fun sum => decide (sum ≤ draw)) = 0 := by
        refine List.countP_eq_zero.mpr fun sum mem reached => ?_
        have above := Quantity.le_of_mem_runningSums later mem
        exact absurd (of_decide_eq_true reached) (not_le.mpr (lt_of_lt_of_le below above))
      rw [none,if_neg]
      simpa using below
    next reached =>
      rw [ih later,if_pos]
      simpa using reached

/-- The search finds a position just where the draw falls into its band. -/
theorem bandOf_eq_iff (positive : ∀ weight ∈ weights, 0 < weight) {start : Rat} (least : start ≤ draw) {i : Nat}
    (inside : i < weights.length) :
    bandOf draw (Quantity.runningSums start weights) = i ↔ InBand weights i (draw - start) := by
  -- The sums of the rest start past the first weight, and so does the draw within them.
  induction weights generalizing start i with
  | nil => exact absurd inside (Nat.not_lt_zero i)
  | cons weight rest ih =>
    obtain ⟨_,later⟩ := List.forall_mem_cons.mp positive
    rw [Quantity.runningSums,bandOf,InBand]
    cases i with
    | zero =>
      rw [List.take_zero,List.sum_nil,List.take_succ_cons,List.take_zero,List.sum_singleton]
      split
      next below => exact ⟨fun _ => ⟨sub_nonneg.mpr least,by linarith⟩,fun _ => rfl⟩
      next reached => exact ⟨fun found => by omega,fun band => absurd (by linarith [band.2]) reached⟩
    | succ i =>
      rw [List.take_succ_cons,List.take_succ_cons,List.sum_cons,List.sum_cons]
      split
      next below =>
        have above := sum_take_nonneg later i
        exact ⟨fun found => by omega,fun band => by linarith [band.1]⟩
      next reached =>
        have step := ih later (not_lt.mp reached) (Nat.lt_of_succ_lt_succ inside)
        rw [Nat.add_right_cancel_iff,step,InBand]
        constructor
        · rintro ⟨low,high⟩
          exact ⟨by linarith,by linarith⟩
        · rintro ⟨low,high⟩
          exact ⟨by linarith,by linarith⟩

private theorem bandOf_eq_length_iff (positive : ∀ weight ∈ weights, 0 < weight) (filled : weights ≠ []) (start : Rat) :
    bandOf draw (Quantity.runningSums start weights) = weights.length ↔ start + weights.sum ≤ draw := by
  induction weights generalizing start with
  | nil => exact absurd rfl filled
  | cons weight rest ih =>
    obtain ⟨_,later⟩ := List.forall_mem_cons.mp positive
    have above : 0 ≤ rest.sum := List.sum_nonneg fun x mem => (later x mem).le
    rw [Quantity.runningSums,bandOf,List.length_cons,List.sum_cons]
    split
    next below => exact ⟨fun found => by omega,fun all => by linarith⟩
    next reached =>
      cases rest with
      | nil => exact ⟨fun _ => by simpa using reached,fun _ => rfl⟩
      | cons second tail => rw [Nat.add_right_cancel_iff,ih later (List.cons_ne_nil _ _),add_assoc]

private theorem bandOf_le_length (draw : Rat) (sums : List Rat) : bandOf draw sums ≤ sums.length := by
  induction sums with
  | nil => exact Nat.le_refl 0
  | cons sum rest ih =>
    rw [bandOf,List.length_cons]
    split <;> omega

private theorem inside_of_inBand {i : Nat} (band : InBand weights i draw) : i < weights.length := by
  by_contra outside
  obtain ⟨low,high⟩ := band
  rw [List.take_of_length_le (by omega)] at low high
  exact absurd low (not_le.mpr high)

/-- A draw below the sum of all weights falls into one band, and the search finds it. -/
theorem exists_inBand (positive : ∀ weight ∈ weights, 0 < weight) (least : 0 ≤ draw) (below : draw < weights.sum) :
    ∃ i < weights.length, bandOf draw (Quantity.runningSums 0 weights) = i ∧ ∀ j, InBand weights j draw ↔ j = i := by
  have filled : weights ≠ [] := by
    rintro rfl
    exact absurd least (not_le.mpr below)
  have found {j : Nat} (inside : j < weights.length) := bandOf_eq_iff positive least inside
  rw [sub_zero] at found
  have inside : bandOf draw (Quantity.runningSums 0 weights) < weights.length := by
    have most := bandOf_le_length draw (Quantity.runningSums 0 weights)
    rw [Quantity.runningSums_eq_map,List.length_map,List.length_range,← Quantity.runningSums_eq_map] at most
    refine lt_of_le_of_ne most fun outside => ?_
    have reached := (bandOf_eq_length_iff positive filled 0).mp outside
    rw [zero_add] at reached
    exact absurd reached (not_le.mpr below)
  refine ⟨_,inside,rfl,fun j => ?_⟩
  constructor
  · intro band
    exact ((found (inside_of_inBand band)).mpr band).symm
  · rintro rfl
    exact (found inside).mp rfl

private theorem inBand_mul_iff (whole : 0 < weights.sum) (i : Nat) (r : Rat) :
    InBand weights i (r * weights.sum) ↔
      (weights.take i).sum / weights.sum ≤ r ∧ r < (weights.take (i + 1)).sum / weights.sum := by
  rw [InBand,div_le_iff₀ whole,lt_div_iff₀ whole]

/-- Where no weight is below a floor or above a cap, no share of the whole is below the floor's share of the caps. -/
private theorem share_ge {floor cap weight : Rat} (least : 0 < floor)
    (range : ∀ weight ∈ weights, floor ≤ weight ∧ weight ≤ cap) (mem : weight ∈ weights) :
    floor / (weights.length * cap) ≤ weight / weights.sum := by
  have nonneg : ∀ other ∈ weights, 0 ≤ other := fun other among => (least.trans_le (range other among).1).le
  have part : weight ≤ weights.sum := List.single_le_sum nonneg weight mem
  have enough : floor ≤ weight := (range weight mem).1
  have most : weights.sum ≤ weights.length * cap := by
    have bound := List.sum_le_card_nsmul weights cap fun other among => (range other among).2
    rwa [nsmul_eq_mul] at bound
  exact div_le_div₀ (least.le.trans enough) enough (least.trans_le (enough.trans part)) most

end

variable {σ : Type}

namespace Ledger

/-- All counters are coherent. -/
private def Coherent (l : Ledger Rat σ) : Prop := ∀ slot ∈ l, slot.stats.Coherent

private theorem Coherent.change {l l' : Ledger Rat σ} (change : l.Change l') (coherent : l.Coherent) : l'.Coherent := by
  cases change with
  | same => exact coherent
  | register m =>
    refine List.forall_mem_append.mpr ⟨coherent,?_⟩
    rintro _ (_ | ⟨_,⟨⟩⟩)
    exact Statistics.coherent_zero
  | record revised => exact forall_of_revise _ (fun _ _ ran before => before.of_record ran) revised coherent
  | success revised => exact forall_of_revise _ (fun _ _ ran before => before.of_recordSuccess ran) revised coherent

private theorem coherent_reset (l : Ledger Rat σ) : l.reset.Coherent := by
  intro slot mem
  obtain ⟨_,_,rfl⟩ := List.mem_map.mp mem
  exact Statistics.coherent_zero

private theorem Coherent.score_mem {l : Ledger Rat σ} {policy : SelectionPolicy Rat} (coherent : l.Coherent)
    (accepted : policy.Accepted) {weight : Rat} (mem : weight ∈ l.scores policy) :
    policy.floor ≤ weight ∧ weight ≤ policy.cap := by
  obtain ⟨slot,there,rfl⟩ := List.mem_map.mp mem
  have slow : slot.stats.averageLatency ≤ l.slowest := Quantity.le_largest (List.mem_map_of_mem there)
  exact ⟨Statistics.floor_le_score accepted _,(coherent slot there).score_le_cap accepted slow⟩

end Ledger

private theorem Guided.Reachable.coherent [Source Rat σ] {g : Guided Rat σ} (reached : g.Reachable) : g.ledger.Coherent :=
  reached.ledger (fun _ mem => absurd mem List.not_mem_nil) (fun change before => before.change change)
    fun _ => Ledger.coherent_reset _

namespace Guided

private theorem roulette_apply {ρ : Type} [Quantity ρ] [Source ρ σ] {g : Guided ρ σ} {fallback : Mutator ρ σ} {r : ρ}
    {source : σ} (last : g.ledger.mutators.getLast? = some fallback) (present : Source.absent ρ g.source = false)
    (given : Source.fraction g.source = (.ok r,source)) :
    roulette g = ⟨.ok (g.spin fallback r),{ g with source },[]⟩ := by
  have drawn : onSource Draw.fraction g = ⟨.ok r,{ g with source },[]⟩ := by
    simp only [onSource,Action.focus,Draw.fraction,Draw.ask,present,Action.ofStep,given,Bool.false_eq_true,if_false]
  rw [roulette,Action.state_bind_apply,last]
  exact Action.bind_apply_ok drawn fun fraction => pure (g.spin fallback fraction)

private theorem spin_eq (g : Guided Rat σ) (fallback : Mutator Rat σ) (r : Rat) :
    g.spin fallback r = (g.ledger.mutators[bandOf (r * (g.ledger.scores g.policy).sum)
      (Quantity.runningSums 0 (g.ledger.scores g.policy))]?).getD fallback := by
  have last := Quantity.getLastD_runningSums (g.ledger.scores g.policy) 0
  rw [zero_add] at last
  rw [spin,← last]

variable [Source Rat σ] {g : Guided Rat σ}

/-- Once a mutator has reached the threshold, the search among the running sums decides, and the last slot where it
    finds nothing. -/
private theorem select_eq_search (settled : ∃ slot ∈ g.ledger, g.policy.threshold ≤ slot.stats.executions)
    (present : Source.absent Rat g.source = false) {r : Rat} {source : σ}
    (given : Source.fraction g.source = (.ok r,source)) :
    ∃ last, g.ledger.getLast? = some last ∧
      select g = ⟨.ok ((g.ledger.mutators[bandOf (r * (g.ledger.scores g.policy).sum)
        (Quantity.runningSums 0 (g.ledger.scores g.policy))]?).getD last.mutator),{ g with source },[]⟩ := by
  have filled : g.ledger ≠ [] := by
    obtain ⟨slot,mem,_⟩ := settled
    exact List.ne_nil_of_mem mem
  have last := List.getLast?_eq_some_getLast filled
  refine ⟨_,last,?_⟩
  rw [select_eq_roulette (Ledger.allBelow_eq_false.mpr settled),← spin_eq]
  refine roulette_apply ?_ present given
  rw [Ledger.mutators,List.getLast?_map,last]
  rfl

/-- Selection is proportional to the scores. Once a mutator has reached the threshold, a fraction of the whole from zero
    to below one selects the one slot in whose band it falls, and nothing but the fraction is drawn; the last slot is
    fallen back to for a fraction that is not below one only. The fractions that select a slot form an interval as wide
    as the share of its score in the sum of all scores, and that is not less than a fixed share, whatever happened. -/
theorem select_proportional (reached : g.Reachable) (accepted : g.policy.Accepted) :
    let weights := g.ledger.scores g.policy
    let sums := Quantity.runningSums 0 weights
    (sums = (List.range g.ledger.length).map (fun i => (weights.take (i + 1)).sum) ∧
      ∀ draw, bandOf draw sums = sums.countP fun sum => decide (sum ≤ draw)) ∧
    ((∃ slot ∈ g.ledger, g.policy.threshold ≤ slot.stats.executions) → Source.absent Rat g.source = false →
      ∀ (r : Rat) (source : σ), Source.fraction g.source = (.ok r,source) →
        (0 ≤ r → r < 1 → ∃ i slot, g.ledger[i]? = some slot ∧ (∀ j, InBand weights j (r * weights.sum) ↔ j = i) ∧
          select g = ⟨.ok slot.mutator,{ g with source },[]⟩) ∧
        (bandOf (r * weights.sum) sums = g.ledger.length ↔ 1 ≤ r) ∧
        (1 ≤ r → ∃ slot, g.ledger.getLast? = some slot ∧ select g = ⟨.ok slot.mutator,{ g with source },[]⟩)) ∧
    ∀ i slot, g.ledger[i]? = some slot →
      let low := (weights.take i).sum / weights.sum
      let high := (weights.take (i + 1)).sum / weights.sum
      let share := slot.stats.score g.ledger.slowest g.policy / weights.sum
      (∀ r, InBand weights i (r * weights.sum) ↔ low ≤ r ∧ r < high) ∧ 0 ≤ low ∧ high ≤ 1 ∧ high - low = share ∧
      g.policy.floor / (g.ledger.length *
        max 1 (g.policy.coverageWeight + g.policy.crashWeight + g.policy.speedWeight)) ≤ share := by
  intro weights sums
  have range : ∀ weight ∈ weights, g.policy.floor ≤ weight ∧ weight ≤ g.policy.cap :=
    fun weight mem => reached.coherent.score_mem accepted mem
  have positive : ∀ weight ∈ weights, 0 < weight :=
    fun weight mem => accepted.floor.1.trans_le (range weight mem).1
  have slots : weights.length = g.ledger.length := List.length_map _
  refine ⟨⟨?_,fun draw => bandOf_eq_countP positive 0⟩,?_,?_⟩
  · rw [← slots]
    simpa only [zero_add] using Quantity.runningSums_eq_map weights 0
  · intro settled present r source given
    obtain ⟨last,there,selected⟩ := select_eq_search settled present given
    have filled : weights ≠ [] := List.ne_nil_of_length_pos (slots ▸ List.length_pos_of_mem settled.choose_spec.1)
    have whole : 0 < weights.sum := List.sum_pos weights positive filled
    have beyond : bandOf (r * weights.sum) sums = g.ledger.length ↔ 1 ≤ r := by
      rw [← slots,bandOf_eq_length_iff positive filled 0,zero_add,le_mul_iff_one_le_left whole]
    refine ⟨?_,beyond,?_⟩
    · intro least below
      obtain ⟨i,inside,found,unique⟩ :=
        exists_inBand positive (mul_nonneg least whole.le) (mul_lt_of_lt_one_left whole below)
      have slot := List.getElem?_eq_getElem (slots ▸ inside)
      refine ⟨i,_,slot,unique,?_⟩
      rw [selected,found,Ledger.mutators,List.getElem?_map,slot]
      rfl
    · intro past
      refine ⟨last,there,?_⟩
      rw [selected,beyond.mpr past,Ledger.mutators,List.getElem?_map,List.getElem?_eq_none (Nat.le_refl _)]
      rfl
  · intro i slot there low high share
    have weight : weights[i]? = some (slot.stats.score g.ledger.slowest g.policy) := by
      show (g.ledger.map _)[i]? = _
      rw [List.getElem?_map,there]
      rfl
    have mem := List.mem_of_getElem? weight
    have whole : 0 < weights.sum := List.sum_pos weights positive (List.ne_nil_of_mem mem)
    obtain ⟨inside,here⟩ := List.getElem?_eq_some_iff.mp weight
    refine ⟨inBand_mul_iff whole i,div_nonneg (sum_take_nonneg positive i) whole.le,?_,?_,?_⟩
    · exact (div_le_one whole).mpr ((List.take_sublist _ _).sum_le_sum fun other among => (positive other among).le)
    · rw [← sub_div,List.sum_take_succ weights i inside,here,add_sub_cancel_left]
    · rw [← slots]
      exact share_ge accepted.floor.1 range mem

/-- A source that always gives the same fraction. -/
structure Steady where
  fraction : Rat

instance : Source Rat Steady where
  absent _ := false
  between low high s := (if high < low then .error .emptyRange else .ok (.whole low),s)
  fraction s := (.ok s.fraction,s)
  bytes size s := (.ok (List.replicate size 0),s)

/-- A mutator that leaves every input as it is. -/
def plain (handle : Nat) : Mutator Rat Steady := ⟨handle,none,"Plain",fun data => pure (some data)⟩

/-- A policy that counts coverage most, from the first execution on. -/
def eager : SelectionPolicy Rat := ⟨1,3/5,3/10,1/10,1/10⟩

/-- Two mutators, the first of which was executed once, and discovered something. -/
def edge : Guided Rat Steady := ⟨⟨3/8⟩,eager,[⟨plain 0,⟨1,1,0,2,0,0⟩⟩,⟨plain 1,.zero⟩],none⟩

/-- Of two mutators whose scores are as three to five, a fraction at the edge between their bands selects the second
    one. -/
theorem select_proportional_edge :
    edge.Reachable ∧ edge.policy.Accepted ∧ edge.ledger.scores edge.policy = [3/5,1] ∧
      select edge = ⟨.ok (plain 1),edge,[]⟩ ∧
      edge.policy.floor / (edge.ledger.length * max 1 (edge.policy.coverageWeight + edge.policy.crashWeight +
        edge.policy.speedWeight)) ≤ Statistics.score ⟨1,1,0,2,0,0⟩ edge.ledger.slowest edge.policy / [3/5,1].sum := by
  have accepted : edge.policy.Accepted := by
    constructor <;> norm_num [edge,eager]
  have made : (create ⟨3/8⟩ [some (plain 0),some (plain 1)] eager : Trace Rat (Guided Rat Steady) Unit) =
    ⟨.ok (),⟨⟨3/8⟩,eager,[⟨plain 0,.zero⟩,⟨plain 1,.zero⟩],none⟩,
      [.mutatorRegistered .guided "Plain" 1,.mutatorRegistered .guided "Plain" 2]⟩ := rfl
  have fed : edge = (Operation.feedback (some (plain 0)) true false (some 2)).next
      ⟨⟨3/8⟩,eager,[⟨plain 0,.zero⟩,⟨plain 1,.zero⟩],none⟩ := by
    with_unfolding_all rfl
  have reached : edge.Reachable := by
    rw [fed]
    exact (Reachable.create made).next _
  have scores : edge.ledger.scores edge.policy = [3/5,1] := by
    with_unfolding_all rfl
  obtain ⟨-,selecting,shares⟩ := select_proportional reached accepted
  rw [scores] at selecting shares
  refine ⟨reached,accepted,scores,?_,?_⟩
  · obtain ⟨inside,-,-⟩ := selecting ⟨_,List.mem_cons_self,Int.le_refl 1⟩ rfl (3/8) ⟨3/8⟩ rfl
    obtain ⟨i,slot,there,unique,selected⟩ := inside (by norm_num) (by norm_num)
    obtain rfl : 1 = i := (unique 1).mp (by norm_num [InBand])
    cases there
    exact selected
  · obtain ⟨-,-,-,-,least⟩ := shares 0 _ rfl
    exact least

end Guided

namespace Statistics

variable {s t : Statistics Rat} {policy : SelectionPolicy Rat}

private theorem share_mono (same : s.executions = t.executions) (some : 0 < s.executions) {count more : Int}
    (le : count ≤ more) : s.share count ≤ t.share more := by
  have positive : (0 : Rat) < (s.executions : Rat) := Int.cast_pos.mpr some
  rw [share,share,← same,if_neg some.ne',if_neg some.ne']
  exact div_le_div_of_nonneg_right (Int.cast_le.mpr le) positive.le

private theorem speed_anti (slower : t.averageLatency ≤ s.averageLatency) (slowest : Rat) : s.speed slowest ≤ t.speed slowest := by
  rw [speed,speed]
  split
  next positive => exact sub_le_sub_left (div_le_div_of_nonneg_right slower positive.le) _
  next => exact le_refl _

theorem score_mono (accepted : policy.Accepted) (same : s.executions = t.executions) (some : 0 < s.executions)
    (discoveries : s.discoveries ≤ t.discoveries) (crashes : s.crashes ≤ t.crashes)
    (slower : t.averageLatency ≤ s.averageLatency) (slowest : Rat) :
    s.score slowest policy ≤ t.score slowest policy := by
  have coverage := mul_le_mul_of_nonneg_left (share_mono same some discoveries) accepted.coverage.1
  have crash := mul_le_mul_of_nonneg_left (share_mono same some crashes) accepted.crash.1
  have speed := mul_le_mul_of_nonneg_left (speed_anti slower slowest) accepted.speed.1
  rw [score,score,← same,if_neg some.ne',if_neg some.ne',Quantity.larger_rat,Quantity.larger_rat]
  exact max_le_max (le_refl _) (add_le_add (add_le_add coverage crash) speed)

private theorem Coherent.perform (coherent : s.Coherent) (call : Call) : (call.perform s).state.Coherent := by
  obtain ⟨-,ran⟩ | ⟨discovered,crashed,latency,measured,-,ran⟩ | ⟨increase,-,-,ran⟩ | ⟨-,-,e,ran⟩ := call.perform_cases
  · rw [ran]
    exact coherent_zero
  · rw [ran]
    exact coherent.recorded discovered crashed measured
  · rw [ran]
    exact ⟨coherent.discoveries,coherent.crashes,coherent.latency⟩
  · rw [ran]
    exact coherent

end Statistics

private theorem SelectionPolicy.accepted_standard : (standard : SelectionPolicy Rat).Accepted := by
  constructor <;> norm_num [standard]

namespace Ledger

/-- A call on a store: a mutator is registered, the counters of a slot, which are handed out with every registration and
    look-up, are called, or all counters are set back. -/
inductive Call (σ : Type) where
  | register (m : Option (Mutator Rat σ))
  | count (slot : Nat) (call : Statistics.Call)
  | reset

/-- The store after a call. What is refused leaves it as it is. -/
def Call.next (l : Ledger Rat σ) : Call σ → Ledger Rat σ
  | register none => l
  | register (some m) => l.register m
  | count i call => l.modify i fun slot => { slot with stats := (call.perform slot.stats).state }
  | reset => l.reset

/-- The store after some calls on an empty one. -/
def called (calls : List (Call σ)) : Ledger Rat σ := calls.foldl Call.next []

private theorem called_concat (calls : List (Call σ)) (call : Call σ) : called (calls ++ [call]) = call.next (called calls) := by
  rw [called,List.foldl_append]
  rfl

private theorem Coherent.next {l : Ledger Rat σ} (coherent : l.Coherent) (call : Call σ) : (call.next l).Coherent := by
  cases call with
  | register m =>
    cases m with
    | none => exact coherent
    | some m => exact coherent.change (.register m l)
  | count i call =>
    change ∀ slot ∈ l.modify i _, slot.stats.Coherent
    intro slot mem
    obtain ⟨k,inside,rfl⟩ := List.mem_iff_getElem.mp mem
    rw [List.getElem_modify]
    split
    · exact (coherent _ (List.getElem_mem _)).perform call
    · exact coherent _ (List.getElem_mem _)
  | reset => exact coherent_reset l

private theorem coherent_called (calls : List (Call σ)) : (called calls).Coherent := by
  induction calls using List.reverseRecOn with
  | nil => exact fun _ mem => absurd mem List.not_mem_nil
  | append_singleton calls call ih =>
    rw [called_concat]
    exact ih.next call

/-- A store that calls lead to. -/
def Reachable (l : Ledger Rat σ) : Prop := ∃ calls, l = called calls

private theorem Reachable.coherent {l : Ledger Rat σ} (reached : l.Reachable) : l.Coherent := by
  obtain ⟨calls,rfl⟩ := reached
  exact coherent_called calls

private theorem Reachable.next {l : Ledger Rat σ} (reached : l.Reachable) (call : Call σ) : (call.next l).Reachable := by
  obtain ⟨calls,rfl⟩ := reached
  exact ⟨calls ++ [call],(called_concat calls call).symm⟩

private theorem Reachable.revise {l l' : Ledger Rat σ} (reached : l.Reachable) {handle : Nat} (call : Statistics.Call)
    (revised : l.revise handle call.change = .ok l') : l'.Reachable := by
  obtain ⟨i,modified⟩ := exists_modify_of_revise revised
  have counted : l' = Call.next l (.count i call) := by
    refine modified (fun s => (call.perform s).state) fun s s' changed => ?_
    rw [Statistics.Call.perform_ok changed]
  rw [counted]
  exact reached.next _

private theorem Reachable.change {l l' : Ledger Rat σ} (change : l.Change l') (reached : l.Reachable) : l'.Reachable := by
  cases change with
  | same => exact reached
  | register m => exact reached.next (.register (some m))
  | @record _ _ handle discovered crashed latency revised =>
    exact reached.revise (.execution discovered crashed latency) revised
  | @success _ _ handle increase revised => exact reached.revise (.success increase) revised

end Ledger

private theorem Guided.Reachable.store [Source Rat σ] {g : Guided Rat σ} (reached : g.Reachable) : g.ledger.Reachable :=
  reached.ledger ⟨[],rfl⟩ Ledger.Reachable.change fun before => before.next .reset

namespace Ledger

/-- Of two mutators that were executed as often, the second one discovered signals and crashed at least as often, and runs
    at least as fast. -/
structure NoWorse (one other : Statistics Rat) : Prop where
  executions : one.executions = other.executions
  discoveries : one.discoveries ≤ other.discoveries
  crashes : one.crashes ≤ other.crashes
  latency : other.averageLatency ≤ one.averageLatency

private theorem Coherent.score_le {policy : SelectionPolicy Rat} (accepted : policy.Accepted) {one other : Statistics Rat}
    (coherent : one.Coherent) (better : NoWorse one other) (slowest : Rat) :
    one.score slowest policy ≤ other.score slowest policy := by
  by_cases fresh : one.executions = 0
  · -- Mutators that were never executed all score one.
    rw [Statistics.score,Statistics.score,if_pos fresh,if_pos (better.executions ▸ fresh)]
  · have some : 0 < one.executions := by
      have counted := coherent.executions_nonneg
      omega
    exact Statistics.score_mono accepted better.executions some better.discoveries better.crashes better.latency slowest

/-- In a store that calls lead to, be it by itself or in an engine, every score lies between the floor and the larger of one
    and the sum of the weights. More discoveries, more crashes and a lower latency lower no score, whatever latency it is
    measured by; so of two mutators in the store that were executed as often, one that is no worse has no smaller weight. -/
theorem scores_bounded_monotone [Source Rat σ] {policy : SelectionPolicy Rat} (accepted : policy.Accepted) :
    (∀ l : Ledger Rat σ, l.Reachable →
      (∀ slot ∈ l, policy.floor ≤ slot.stats.score l.slowest policy ∧
        slot.stats.score l.slowest policy ≤ max 1 (policy.coverageWeight + policy.crashWeight + policy.speedWeight)) ∧
      ∀ (i j : Nat) (one other : Slot Rat σ), l[i]? = some one → l[j]? = some other → NoWorse one.stats other.stats →
        ∃ weight more, (l.scores policy)[i]? = some weight ∧ (l.scores policy)[j]? = some more ∧ weight ≤ more) ∧
    (∀ (slowest : Rat) (one other : Statistics Rat), 0 < one.executions → NoWorse one other →
      one.score slowest policy ≤ other.score slowest policy) ∧
    (∀ g : Guided Rat σ, g.Reachable → g.ledger.Reachable) := by
  refine ⟨fun l reached => ⟨fun slot mem => ?_,fun i j one other first second better => ?_⟩,?_,fun g => Guided.Reachable.store⟩
  · exact reached.coherent.score_mem accepted (List.mem_map_of_mem mem)
  · refine ⟨one.stats.score l.slowest policy,other.stats.score l.slowest policy,?_,?_,?_⟩
    · rw [scores,List.getElem?_map,first,Option.map_some]
    · rw [scores,List.getElem?_map,second,Option.map_some]
    · exact Coherent.score_le accepted (reached.coherent one (List.mem_of_getElem? first)) better l.slowest
  · intro slowest one other some better
    exact Statistics.score_mono accepted better.executions some better.discoveries better.crashes better.latency slowest

/-- The slower of two mutators discovered nothing and keeps the floor; a latency below zero is refused and counts for
    nothing. Without a largest latency both have full speed. -/
theorem scores_bounded_monotone_floor :
    let one : Statistics Rat := ⟨1,0,0,4,0,0⟩
    let other : Statistics Rat := ⟨1,1,0,2,0,0⟩
    let l : Ledger Rat Guided.Steady := [⟨Guided.plain 0,other⟩,⟨Guided.plain 1,one⟩]
    (SelectionPolicy.standard : SelectionPolicy Rat).Accepted ∧ l.Reachable ∧ l.scores .standard = [13/20,1/10] ∧
    (∀ slot ∈ l, 1/10 ≤ slot.stats.score l.slowest .standard ∧ slot.stats.score l.slowest .standard ≤ 1) ∧
    NoWorse one other ∧
    (∃ weight more, (l.scores .standard)[1]? = some weight ∧ (l.scores .standard)[0]? = some more ∧ weight ≤ more) ∧
    0 < one.executions ∧ one.score 0 .standard ≤ other.score 0 .standard := by
  intro one other l
  have accepted := SelectionPolicy.accepted_standard
  have reached : l.Reachable := by
    refine ⟨[.register (some (Guided.plain 0)),.register none,.register (some (Guided.plain 1)),
      .count 0 (.execution true false (some 2)),.count 1 (.execution false false (some 4)),
      .count 1 (.execution false true (some (-1)))],?_⟩
    with_unfolding_all rfl
  have scores : l.scores .standard = [13/20,1/10] := by
    norm_num [l,one,other,scores,slowest,Quantity.largest,Quantity.larger,Statistics.score,Statistics.speed,
      Statistics.coverageRate,Statistics.crashRate,Statistics.share,Quantity.ratio,SelectionPolicy.standard]
  have better : NoWorse one other := ⟨rfl,by decide,by decide,by decide⟩
  have floor : (SelectionPolicy.standard : SelectionPolicy Rat).floor = 1/10 := by norm_num [SelectionPolicy.standard]
  have cap : max 1 ((SelectionPolicy.standard : SelectionPolicy Rat).coverageWeight +
      SelectionPolicy.standard.crashWeight + SelectionPolicy.standard.speedWeight) = 1 := by
    norm_num [SelectionPolicy.standard]
  have all := scores_bounded_monotone (σ := Guided.Steady) accepted
  have bounded := (all.1 l reached).1
  rw [floor,cap] at bounded
  exact ⟨accepted,reached,scores,bounded,better,(all.1 l reached).2 1 0 _ _ rfl rfl better,by decide,
    all.2.1 0 one other (by decide) better⟩

end Ledger

end Fuzzing

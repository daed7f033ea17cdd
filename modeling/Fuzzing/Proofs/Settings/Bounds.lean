import Fuzzing.Proofs.Quantity
import Fuzzing.Proofs.Settings.Accepted
import Fuzzing.Statistics.Counters

/-!
The bounds of numbers in accepted settings, as comparisons of doubles. A number is accepted only if it compares as
within its bounds, so what is no number never is (`numberWithin_eq_ok_iff`, `numberAbove_eq_ok_iff`); standard values
are within theirs. So every section that is built is within its bounds, and under its selection policy no score is
below the floor, whatever the counters are (`built_within_bounds`). Counters whose rates leave the range of doubles
have no score (`score?_counters_cases`); those of executions never do (`ratesFit_of_le`).
-/
namespace Fuzzing

/-- The bounds of a selection policy: every mutator keeps a weight above zero. -/
structure SelectionPolicy.Within (p : SelectionPolicy Float) : Prop where
  threshold : 1 ≤ p.threshold
  coverage : 0.0 ≤ p.coverageWeight ∧ p.coverageWeight ≤ 1.0
  crash : 0.0 ≤ p.crashWeight ∧ p.crashWeight ≤ 1.0
  speed : 0.0 ≤ p.speedWeight ∧ p.speedWeight ≤ 1.0
  floor : 0.0 < p.floor ∧ p.floor ≤ 1.0

/-- The bounds of a campaign with those of its chance. -/
structure CampaignPolicy.Within (p : CampaignPolicy Float) : Prop extends p.Accepted where
  chance : 0.0 ≤ p.corpusProbability ∧ p.corpusProbability ≤ 1.0

namespace Settings

open Reading

theorem numberWithin_eq_ok_iff {least most x y : Float} :
    numberWithin least most x = .ok y ↔ x = y ∧ least ≤ x ∧ x ≤ most := by
  unfold numberWithin
  split
  next below =>
    split
    next above => simp [above,below]
    next notAbove => simp [notAbove]
  next notBelow => simp [notBelow]

theorem numberAbove_eq_ok_iff {bound most x y : Float} :
    numberAbove bound most x = .ok y ↔ x = y ∧ bound < x ∧ x ≤ most := by
  unfold numberAbove
  split
  next below =>
    split
    next above => simp [above,below]
    next notAbove => simp [notAbove]
  next notBelow => simp [notBelow]

private theorem gives_share {given : Fields Float} {name : String} {standard : Float}
    (holds : 0.0 ≤ standard ∧ standard ≤ 1.0) :
    (field given name asShare standard).Gives fun x => 0.0 ≤ x ∧ x ≤ 1.0 := by
  refine gives_field holds fun d x passed => ?_
  obtain ⟨y,within⟩ := bounded_ok passed
  obtain ⟨rfl,inside⟩ := numberWithin_eq_ok_iff.mp within
  exact inside

private theorem gives_readSelection (given : Fields Float) : (readSelection given).Gives SelectionPolicy.Within := by
  have floored : (field given "min_score" (bounded asNumber (numberAbove 0.0 1.0))
      (SelectionPolicy.standard : SelectionPolicy Float).floor).Gives fun x => 0.0 < x ∧ x ≤ 1.0 := by
    refine gives_field (by decide) fun d x passed => ?_
    obtain ⟨y,above⟩ := bounded_ok passed
    obtain ⟨rfl,inside⟩ := numberAbove_eq_ok_iff.mp above
    exact inside
  refine gives_seq (gives_seq (gives_seq (gives_seq (gives_map (gives_atLeast (by decide)) ?_)
    (gives_share (by decide))) (gives_share (by decide))) (gives_share (by decide))) floored
  intro threshold least coverage covered crash crashed speed sped floor floored
  exact ⟨least,covered,crashed,sped,floored⟩

private theorem gives_readCampaign_chance (given : Fields Float) :
    (readCampaign given).Gives fun p => 0.0 ≤ p.corpusProbability ∧ p.corpusProbability ≤ 1.0 := by
  refine gives_seq (gives_seq (gives_seq (gives_seq (gives_seq (gives_seq (gives_map gives_true ?_) gives_true)
    (gives_share (by decide))) gives_true) gives_true) gives_true) gives_true
  intro iterations _ seed _ share chance timeout _ interval _ size _ guided _
  exact chance

private theorem gives_readCampaign_within (given : Fields Float) : (readCampaign given).Gives CampaignPolicy.Within :=
  fun p read => { gives_readCampaign given p read with chance := gives_readCampaign_chance given p read }

end Settings

/-- Both rates of a mutator are doubles: it never ran, or neither quotient leaves their range. -/
def Statistics.RatesFit (s : Statistics Float) : Prop :=
  s.executions = 0 ∨ Decimal.inRange s.discoveries.natAbs s.executions.natAbs = true ∧
    Decimal.inRange s.crashes.natAbs s.executions.natAbs = true

/-- A mutator with at most one discovery and one crash for each execution has rates in the range of doubles. -/
theorem Statistics.ratesFit_of_le {s : Statistics Float} (discoveries : s.discoveries.natAbs ≤ s.executions.natAbs)
    (crashes : s.crashes.natAbs ≤ s.executions.natAbs) : s.RatesFit :=
  .inr ⟨Decimal.inRange_of_le discoveries,Decimal.inRange_of_le crashes⟩

namespace Counters

private theorem share?_of_not_inRange {s : Statistics Float} {count : Int} (ran : s.executions ≠ 0)
    (beyond : Decimal.inRange count.natAbs s.executions.natAbs ≠ true) :
    s.counters.share? (.whole count) = .error .quotientTooLarge := by
  simp [share?,Statistics.counters,Document.isZero,Document.over?,Document.integer?,ran,beyond]

private theorem speed?_counters (s : Statistics Float) (slowest : Float) :
    s.counters.speed? (some slowest) = .ok (s.speed slowest) := by
  by_cases slow : 0 < slowest <;> simp [speed?,Statistics.speed,Statistics.counters,slow]

/-- The counters of a mutator score as the mutator does if its rates are doubles, and are refused otherwise. -/
theorem score?_counters_cases (s : Statistics Float) (slowest : Float) (policy : SelectionPolicy Float) :
    (s.RatesFit → s.counters.score? (some slowest) policy = .ok (s.score slowest policy)) ∧
      (¬ s.RatesFit → s.counters.score? (some slowest) policy = .error .quotientTooLarge) := by
  constructor
  · rintro (fresh | ⟨discoveries,crashes⟩)
    · simp [score?,Statistics.score,Statistics.counters,Document.isZero,fresh]
    · exact score?_counters s slowest policy discoveries crashes
  · intro beyond
    have ran : s.executions ≠ 0 := fun fresh => beyond (.inl fresh)
    have started : s.counters.executions.isZero = false := by simp [Statistics.counters,Document.isZero,ran]
    rw [score?,started,speed?_counters]
    by_cases discoveries : Decimal.inRange s.discoveries.natAbs s.executions.natAbs = true
    · have crashes := fun fits => beyond (.inr ⟨discoveries,fits⟩)
      have rate : s.counters.coverageRate? = .ok (s.share s.discoveries) := share?_counters s _ discoveries
      have none : s.counters.crashRate? = .error .quotientTooLarge := share?_of_not_inRange ran crashes
      rw [rate,none]
      rfl
    · have none : s.counters.coverageRate? = .error .quotientTooLarge := share?_of_not_inRange ran discoveries
      rw [none]
      rfl

end Counters

namespace SelectionPolicy.Within

variable {p : SelectionPolicy Float}

private theorem floor_le_larger (within : p.Within) (yields : Float) : p.floor ≤ Quantity.larger p.floor yields :=
  Quantity.le_larger (Quantity.le_self_of_lt within.floor.1) yields

private theorem floor_le_score (within : p.Within) (s : Statistics Float) (slowest : Float) : p.floor ≤ s.score slowest p := by
  rw [Statistics.score]
  split
  next => exact within.floor.2
  next => exact within.floor_le_larger _

private theorem floor_le_of_score? (within : p.Within) {c : Counters} {slowest : Option Float} {x : Float}
    (scored : c.score? slowest p = .ok x) : p.floor ≤ x := by
  rw [Counters.score?] at scored
  split at scored
  next =>
    cases scored
    exact within.floor.2
  next =>
    obtain ⟨speed,-,scored⟩ := Settings.exists_of_bind_ok scored
    obtain ⟨coverageRate,-,scored⟩ := Settings.exists_of_bind_ok scored
    obtain ⟨crashRate,-,scored⟩ := Settings.exists_of_bind_ok scored
    cases scored
    exact within.floor_le_larger _

end SelectionPolicy.Within

namespace Settings

/-- Whatever the environment and the keywords, a section that is built is within its bounds, and so is every section of
    all settings that are built. Under a selection policy within its bounds, the floor is above zero, and no score is
    below it: not that of a mutator, which its counters have exactly if its rates are doubles, as they are where each
    execution counts for one discovery and one crash at most; nor one of counters of any form. -/
theorem built_within_bounds (env : Environment) (keywords : Fields Float) :
    (∀ p, Chapter.selection.build env keywords = .accepted p → p.Within) ∧
    (∀ l, Chapter.mutation.build env keywords = .accepted l → l.Accepted) ∧
    (∀ p, Chapter.campaign.build env keywords = .accepted p → p.Within) ∧
    (∀ s, build env keywords = .ok s → s.selection.Within ∧ s.mutation.Accepted ∧ s.campaign.Within) ∧
    ∀ p : SelectionPolicy Float, p.Within → 0.0 < p.floor ∧
      (∀ (s : Statistics Float) (slowest : Float), p.floor ≤ s.score slowest p ∧
        (s.RatesFit → s.counters.score? (some slowest) p = .ok (s.score slowest p)) ∧
        (¬ s.RatesFit → s.counters.score? (some slowest) p = .error .quotientTooLarge) ∧
        (s.discoveries.natAbs ≤ s.executions.natAbs → s.crashes.natAbs ≤ s.executions.natAbs → s.RatesFit)) ∧
      ∀ (c : Counters) (slowest : Option Float) (x : Float), c.score? slowest p = .ok x → p.floor ≤ x := by
  refine ⟨Chapter.gives_build gives_readSelection env keywords,gives_build_mutation env keywords,
    Chapter.gives_build gives_readCampaign_within env keywords,fun s => ?_,fun p within => ⟨within.floor.1,?_,?_⟩⟩
  · exact of_build fun given => gives_readAll env given gives_readSelection gives_readMutation gives_readCampaign_within
  · intro s slowest
    obtain ⟨fits,leaves⟩ := Counters.score?_counters_cases s slowest p
    exact ⟨within.floor_le_score s slowest,fits,leaves,Statistics.ratesFit_of_le⟩
  · exact fun c slowest x => within.floor_le_of_score?

/-- A floor that is given as a text, and a mutator whose mean latency is no number. -/
theorem built_within_bounds_text : ∃ s, build [] [("selection",.record [("min_score",.text "0.25")])] = .ok s ∧
    s.selection.Within ∧ s.mutation.Accepted ∧ s.campaign.Within ∧ 0.0 < s.selection.floor ∧
    (⟨4,3,0,0.0 / 0.0,0,0⟩ : Statistics Float).counters.score? (some 1.0) s.selection =
      .ok ((⟨4,3,0,0.0 / 0.0,0,0⟩ : Statistics Float).score 1.0 s.selection) ∧
    s.selection.floor ≤ (⟨4,3,0,0.0 / 0.0,0,0⟩ : Statistics Float).score 1.0 s.selection := by
  obtain ⟨-,-,-,sections,scores⟩ := built_within_bounds [] [("selection",.record [("min_score",.text "0.25")])]
  have reads : (build [] [("selection",.record [("min_score",.text "0.25")])]).isOk = true := by decide +kernel
  cases built : build [] [("selection",.record [("min_score",.text "0.25")])] with
  | error why =>
    rw [built] at reads
    cases reads
  | ok s =>
    obtain ⟨selection,mutation,campaign⟩ := sections s built
    obtain ⟨positive,floored,-⟩ := scores s.selection selection
    obtain ⟨above,scored,-,counted⟩ := floored ⟨4,3,0,0.0 / 0.0,0,0⟩ 1.0
    exact ⟨s,rfl,selection,mutation,campaign,positive,scored (counted (by decide) (by decide)),above⟩

/-- Under the policy that is built from nothing, a mutator that is said to have made `10 ^ 400` discoveries in one
    execution has no score. And a text for what is no number is refused for a share, although what it is read to
    compares neither as above one nor as below zero. -/
theorem discoveries_beyond_doubles :
    (∃ p, Chapter.selection.build [] [] = .accepted p ∧ ∀ slowest,
      (⟨1,(10 ^ (400 : Nat) : Nat),0,0,0,0⟩ : Statistics Float).counters.score? (some slowest) p =
        .error .quotientTooLarge) ∧
    ∃ x, asNumber (.text "nan") = .ok x ∧ ¬ 1.0 < x ∧ ¬ x < 0.0 ∧ asShare (.text "nan") = .error .tooLarge := by
  constructor
  · refine ⟨_,rfl,fun slowest => (Counters.score?_counters_cases _ slowest _).2 ?_⟩
    rintro (fresh | ⟨fits,-⟩)
    · exact absurd fresh (by decide)
    · exact absurd fits (by decide +kernel)
  · have whole : Text.isWhole "nan" = true := by decide +kernel
    obtain ⟨x,read,notAbove,notBelow,notWithin⟩ :
        ∃ x, numberOfText "nan" = .ok x ∧ ¬ 1.0 < x ∧ ¬ x < 0.0 ∧ ¬ x ≤ 1.0 := ⟨_,rfl,by decide +kernel⟩
    have number : asNumber (.text "nan") = .ok x := by rw [asNumber,ofWhole,if_pos whole,read]
    refine ⟨x,number,notAbove,notBelow,?_⟩
    rw [asShare,bounded,number]
    exact if_neg notWithin

end Settings

end Fuzzing

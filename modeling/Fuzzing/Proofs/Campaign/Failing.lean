import Fuzzing.Proofs.Campaign.Step
import Fuzzing.Proofs.Coverage.Names
import Fuzzing.Proofs.Coverage.Reachable
import Fuzzing.Proofs.Ledger

/-!
Iterations that fail. To make and to execute an input accounts for nothing, whether it succeeds or not
(`mirrors_nextInput`, `mirrors_execute`), and a result with a signal that has no name is refused before anything is
counted (`fails_observe`). Behind that, an iteration fails at one of two places, and there the tracker and the totals
have taken the result in already (`Rejected`, `fails_settle`): where its time was not measured, and where a guided
engine is told that the time is negative. Neither keeps an input or changes statistics (`failed_iteration_accounts`).
-/
namespace Fuzzing

variable {ρ σ κ α : Type}

section

variable [Quantity ρ]

private theorem Statistics.record_error {s : Statistics ρ} {discovered crashed : Bool} {latency : ρ} {e : Failure ρ}
    (failed : s.record discovered crashed (some latency) = .error e) :
    latency < 0 ∧ e = .refused (.negativeLatency latency) := by
  rw [record] at failed
  split at failed
  next negative =>
    cases failed
    exact ⟨negative,rfl⟩
  · cases failed

private theorem Statistics.recordSuccess_error {s : Statistics ρ} {increase : ρ} {e : Failure ρ}
    (failed : s.recordSuccess (some increase) = .error e) : increase < 0 := by
  rw [recordSuccess] at failed
  split at failed
  next negative => exact negative
  · cases failed

omit [Quantity ρ] in
private theorem Ledger.exists_of_revise_error {l : Ledger ρ σ} {handle : Nat} {e : Failure ρ}
    {change : Statistics ρ → Except (Failure ρ) (Statistics ρ)} (failed : l.revise handle change = .error e) :
    ∃ slot ∈ l, change slot.stats = .error e := by
  induction l with
  | nil => cases failed
  | cons slot rest ih =>
    rw [revise] at failed
    split at failed
    · split at failed
      · cases failed
      next e' refused =>
        cases failed
        exact ⟨slot,List.mem_cons_self,refused⟩
    · split at failed
      · cases failed
      next e' refused =>
        cases failed
        obtain ⟨other,mem,there⟩ := ih refused
        exact ⟨other,List.mem_cons_of_mem _ mem,there⟩

end

namespace Guided

variable [Quantity ρ] {g g' : Guided ρ σ} {m : Mutator ρ σ} {e : Failure ρ}

omit [Quantity ρ] in
private theorem fails_credit {change : Statistics ρ → Except (Failure ρ) (Statistics ρ)}
    (failed : (credit (some m) change).Fails g e g') : g' = g ∧ ∃ slot ∈ g.ledger, change slot.stats = .error e := by
  have crediting := Action.fails_state_bind.mp failed
  split at crediting
  · obtain noted | ⟨_,g₁,_,last⟩ := Action.fails_bind.mp crediting
    · exact absurd noted Action.not_fails_note
    · exact absurd last Action.not_fails_pure
  · obtain refused | ⟨ledger,g₁,_,updating⟩ := Action.fails_bind.mp crediting
    · obtain ⟨refused,rfl⟩ := Action.fails_ofExcept.mp refused
      exact ⟨rfl,Ledger.exists_of_revise_error refused⟩
    · exact absurd (Action.fails_update_bind.mp updating) Action.not_fails_pure

private theorem fails_recordFeedback {discovered crashed : Bool} {latency : ρ}
    (failed : (recordFeedback (some m) discovered crashed (some latency)).Fails g e g') :
    g' = g ∧ latency < 0 ∧ e = .refused (.negativeLatency latency) := by
  obtain crediting | ⟨credited,g₁,_,noting⟩ := Action.fails_bind.mp failed
  · obtain ⟨same,slot,_,refused⟩ := fails_credit crediting
    exact ⟨same,Statistics.record_error refused⟩
  · cases credited with
    | none => exact absurd noting Action.not_fails_pure
    | some _ => exact absurd noting Action.not_fails_noteIf

private theorem fails_recordSuccess {increase : ρ} (failed : (recordSuccess (some m) (some increase)).Fails g e g') :
    increase < 0 := by
  obtain crediting | ⟨_,g₁,_,last⟩ := Action.fails_bind.mp failed
  · obtain ⟨-,slot,_,refused⟩ := fails_credit crediting
    exact Statistics.recordSuccess_error refused
  · exact absurd last Action.not_fails_pure

end Guided

namespace Coverage

variable {ν : Type} [Tally ν] {t t' : Coverage ρ ν} {e : Failure ρ}

/-- A result that is refused leaves the tracker as it is. -/
theorem fails_observe {signals : List Signal} (failed : (observe signals).Fails t e t') : t' = t := by
  obtain checking | ⟨_,t₁,_,looking⟩ := Action.fails_bind.mp failed
  · exact (fails_checkNames checking).2.2
  · have noting := Action.fails_update_bind.mp (Action.fails_state_bind.mp looking)
    obtain noted | ⟨_,t₂,_,last⟩ := Action.fails_bind.mp noting
    · exact absurd noted Action.not_fails_noteIf
    · exact absurd last Action.not_fails_pure

end Coverage

/-- The ledger of an engine, if it has one. -/
def Engine.ledger? : Engine ρ σ → Option (Ledger ρ σ)
  | guided g => some g.ledger
  | uniform _ => none

namespace Campaign

/-- The tracker, the corpus, the totals and the statistics of the engine are as they were. -/
structure Unaccounted (c c' : Campaign ρ σ κ) : Prop extends Untouched c c' where
  ledger : c'.engine.ledger? = c.engine.ledger?

private theorem Unaccounted.refl (c : Campaign ρ σ κ) : Unaccounted c c := ⟨⟨rfl,rfl,rfl⟩,rfl⟩

private theorem Unaccounted.withSource {c c' : Campaign ρ σ κ} (same : Unaccounted c c') (s : σ) :
    Unaccounted c (c'.withSource s) where
  toUntouched := same.toUntouched.trans (untouched_withSource s c')
  ledger := by
    rw [← same.ledger]
    unfold Campaign.withSource
    split
    · rfl
    · cases c'.engine <;> rfl

private theorem Unaccounted.withEngine {c c' : Campaign ρ σ κ} (same : Unaccounted c c') {engine : Engine ρ σ}
    (ledger : engine.ledger? = c.engine.ledger?) : Unaccounted c { c' with engine } :=
  ⟨⟨same.tracker,same.corpus,same.totals⟩,ledger⟩

section

variable (c : Campaign ρ σ κ)

private theorem mirrors_onSource (a : Action ρ σ α) : Action.Mirrors (Unaccounted c) id (onSource a) (onSource a) :=
  .focused (fun _ same s => same.withSource s) a

theorem mirrors_execute (data : Bytes) : Action.Mirrors (Unaccounted c) id (execute data) (execute data) := by
  refine .state_bind fun c' _ => ?_
  exact .focused (fun _ same k => ⟨⟨same.tracker,same.corpus,same.totals⟩,same.ledger⟩) _

variable [Quantity ρ] [Source ρ σ]

private theorem mirrors_mutateSeed (seed : Bytes) : Action.Mirrors (Unaccounted c) id (mutateSeed seed) (mutateSeed seed) := by
  refine .state_bind fun c₁ same => ?_
  rcases kind : c₁.engine with g | u
  · simp only [id_eq,kind]
    refine fun c₂ same₂ => ⟨rfl,same₂.withEngine ?_⟩
    have alike := (Guided.mirrors_mutateBy (Guided.mirrors_select g) (some seed) .null g (.refl g)).2
    rw [Guided.mutateBy_select] at alike
    have ledger : c.engine.ledger? = some g.ledger := by
      rw [← same.ledger,kind]
      rfl
    exact (congrArg some alike.2).trans ledger.symm
  · simp only [id_eq,kind]
    have none : c.engine.ledger? = none := by
      rw [← same.ledger,kind]
      rfl
    refine (mirrors_onSource c _).bind fun count _ _ _ _ => .state_bind fun c₂ _ => ?_
    exact fun c₃ same₃ => ⟨rfl,same₃.withEngine none.symm⟩

/-- To make an input accounts for nothing, whether it succeeds or not. -/
theorem mirrors_nextInput : Action.Mirrors (Unaccounted c) id nextInput nextInput := by
  have draws : Action.Mirrors (Unaccounted c) id drawsSeed drawsSeed := by
    refine .state_bind fun c₁ _ => ?_
    simp only [id_eq]
    split
    · exact .pure false
    · exact (mirrors_onSource c _).bind fun _ _ _ _ _ => .pure _
  refine draws.bind fun drawn _ _ _ _ => ?_
  split
  · refine .state_bind fun c₁ _ => ?_
    refine (mirrors_onSource c _).bind fun seed _ _ _ _ => ?_
    exact (mirrors_mutateSeed c seed).bind fun _ _ _ _ _ => .pure _
  · refine Action.Mirrors.bind (.state_bind fun c₁ _ => ?_) fun _ _ _ _ _ => .pure _
    exact (mirrors_onSource c _).bind fun _ _ _ _ _ => mirrors_onSource c _

end

section

variable [Quantity ρ] {c c' : Campaign ρ σ κ} {data : Bytes} {result : Execution ρ} {fresh : List Signal} {e : Failure ρ}

private theorem fails_countResult (failed : (countResult result).Fails c e c') :
    result.latency = none ∧ e = .noOperation "+=" "float" "NoneType" ∧ c' = countExecution c := by
  have adding := Action.fails_update_bind.mp failed
  split at adding
  · obtain ⟨events,ran⟩ := adding
    cases ran
  next unmeasured => exact ⟨unmeasured,Action.fails_fail.mp adding⟩

private theorem not_fails_keepCrash : ¬ (keepCrash data result).Fails c e c' := by
  intro failed
  have keeping := Action.fails_state_bind.mp failed
  split at keeping
  · exact Action.not_fails_pure keeping
  · exact Action.not_fails_note (Action.fails_update_bind.mp keeping)

omit [Quantity ρ] in
private theorem not_fails_keepInput {fresh : Nat} : ¬ (keepInput data fresh).Fails c e c' := by
  intro failed
  have keeping := Action.fails_state_bind.mp failed
  split at keeping
  · exact Action.not_fails_pure keeping
  · have noting := Action.fails_state_bind.mp (Action.fails_update_bind.mp keeping)
    exact Action.not_fails_note noting

/-- A result that a campaign has taken into its tracker and then fails on. It has been counted as far as it could be:
    its time was not measured, or it is negative and was told to the engine. -/
inductive Rejected (c : Campaign ρ σ κ) (mutated : Bool) (result : Execution ρ) :
    Failure ρ → Campaign ρ σ κ → Prop where
  | unmeasured : result.latency = none →
    Rejected c mutated result (.noOperation "+=" "float" "NoneType") (countExecution c)
  | negative {latency : ρ} {g : Guided ρ σ} {m : Mutator ρ σ} : result.latency = some latency → latency < 0 →
    mutated = true → c.engine = .guided g → g.last = some m →
    Rejected c mutated result (.refused (.negativeLatency latency)) (addLatency latency (countExecution c))

private theorem Rejected.frame {mutated : Bool} (rejected : Rejected c mutated result e c') :
    c'.tracker = c.tracker ∧ c'.corpus = c.corpus ∧ c'.engine = c.engine := by
  cases rejected <;> exact ⟨rfl,rfl,rfl⟩

variable (natural : ∀ n : Nat, ¬ (Quantity.ofInt n : ρ) < 0)

include natural

private theorem fails_giveFeedback {latency : ρ} (measured : result.latency = some latency) {fresh : Nat}
    (failed : (giveFeedback result fresh).Fails c e c') :
    c' = c ∧ latency < 0 ∧ e = .refused (.negativeLatency latency) ∧
      ∃ g m, c.engine = .guided g ∧ g.last = some m := by
  have giving := Action.fails_state_bind.mp failed
  split at giving
  · exact absurd giving Action.not_fails_pure
  next g kind =>
    split at giving
    · exact absurd giving Action.not_fails_pure
    next m last =>
      obtain ⟨g',feeding,rfl⟩ := Action.fails_focus.mp giving
      obtain recording | ⟨_,g₁,_,confirming⟩ := Action.fails_bind.mp feeding
      · rw [measured] at recording
        obtain ⟨rfl,negative,refused⟩ := Guided.fails_recordFeedback recording
        refine ⟨?_,negative,refused,g',m,kind,last⟩
        rw [← kind]
      · split at confirming
        · exact absurd (Guided.fails_recordSuccess confirming) (natural fresh)
        · exact absurd confirming Action.not_fails_pure

theorem fails_settle {mutated : Bool} (failed : (settle data mutated result fresh).Fails c e c') :
    Rejected c mutated result e c' := by
  obtain counting | ⟨_,c₁,counted,crediting⟩ := Action.fails_bind.mp failed
  · obtain ⟨unmeasured,rfl,rfl⟩ := fails_countResult counting
    exact .unmeasured unmeasured
  · obtain ⟨latency,measured,rfl⟩ := returns_countResult counted
    obtain feeding | ⟨_,c₂,_,offering⟩ := Action.fails_bind.mp crediting
    · split at feeding
      next mutated =>
        obtain ⟨rfl,negative,rfl,g,m,kind,last⟩ := fails_giveFeedback natural measured feeding
        exact .negative measured negative mutated kind last
      · exact absurd feeding Action.not_fails_pure
    · obtain crash | ⟨_,c₃,_,input⟩ := Action.fails_bind.mp offering
      · split at crash
        · exact absurd crash not_fails_keepCrash
        · exact absurd crash Action.not_fails_pure
      · split at input
        · exact absurd input Action.not_fails_pure
        · exact absurd input not_fails_keepInput

variable [Source ρ σ]

/-- An iteration fails before anything is accounted for, or on a result that the tracker has taken in. -/
private theorem fails_iterate (failed : (iterate).Fails c e c') : Unaccounted c c' ∨
    ∃ data mutated result c₁ c₂, (nextInput).Returns c (data,mutated) c₁ ∧ (execute data).Returns c₁ result c₂ ∧
      Unaccounted c c₂ ∧ (∀ signal ∈ result.coverage, signal.isNamed = true) ∧
      Rejected { c₂ with tracker := c₂.tracker.observed result.coverage } mutated result e c' := by
  have made := (mirrors_nextInput c c (.refl c)).2
  obtain making | ⟨⟨data,mutated⟩,c₁,returned,executing⟩ := Action.fails_bind.mp failed
  · exact .inl (making.state_eq ▸ made)
  have executed := (mirrors_execute c data c₁ (returned.state_eq ▸ made)).2
  obtain raising | ⟨result,c₂,answered,accounting⟩ := Action.fails_bind.mp executing
  · exact .inl (raising.state_eq ▸ executed)
  have spared : Unaccounted c c₂ := answered.state_eq ▸ executed
  rw [account_eq_settle] at accounting
  obtain settling | ⟨_,c₃,_,last⟩ := Action.fails_bind.mp accounting
  · obtain observing | ⟨fresh,c₃,observed,settling⟩ := Action.fails_bind.mp settling
    · obtain ⟨t,refused,rfl⟩ := Action.fails_focus.mp observing
      rw [Coverage.fails_observe refused]
      exact .inl spared
    · obtain ⟨t,ran,rfl⟩ := Action.returns_focus.mp observed
      obtain ⟨named,rfl⟩ := Coverage.observed_of_returns ran
      exact .inr ⟨data,mutated,result,c₁,c₂,returned,answered,spared,named,fails_settle natural settling⟩
  · exact absurd last Action.not_fails_pure

/-- An iteration that fails keeps no input and changes no statistics. It accounts for nothing at all, unless the target
    has returned a result with named signals only, which the tracker took in before it was rejected. -/
theorem failed_iteration_accounts (failed : (iterate c).result = .error e) :
    (iterate c).state.corpus = c.corpus ∧ (iterate c).state.engine.ledger? = c.engine.ledger? ∧
    (Unaccounted c (iterate c).state ∨
      ∃ data mutated result c₁ c₂, (nextInput).Returns c (data,mutated) c₁ ∧ (execute data).Returns c₁ result c₂ ∧
        Unaccounted c c₂ ∧ (∀ signal ∈ result.coverage, signal.isNamed = true) ∧
        Rejected { c₂ with tracker := c₂.tracker.observed result.coverage } mutated result e (iterate c).state) := by
  have cases := fails_iterate natural (Action.fails_of_result failed)
  refine ⟨?_,?_,cases⟩
  · obtain spared | ⟨_,_,_,_,c₂,_,_,spared,_,rejected⟩ := cases
    · exact spared.corpus
    · exact rejected.frame.2.1.trans spared.corpus
  · obtain spared | ⟨_,_,_,_,c₂,_,_,spared,_,rejected⟩ := cases
    · exact spared.ledger
    · exact (congrArg Engine.ledger? rejected.frame.2.2).trans spared.ledger

end

/-- The small campaign with a seed, with a mutator that doubles it, and with a target that reaches a new signal in less
    than no time. -/
def hasty : Campaign Rat Least Nat :=
  { small with
    engine := .guided ⟨⟨⟩,.standard,[⟨⟨0,none,"Doubling",fun data => pure (some (data ++ data))⟩,.zero⟩],none⟩
    executor := fun _ => pure ⟨.success,some (-1),["seen"],.null⟩
    corpus := Corpus.empty.add [0] }

theorem natural_rat (n : Nat) : ¬ (Quantity.ofInt n : Rat) < 0 :=
  Rat.not_lt.mpr (Rat.intCast_nonneg.mpr (Int.natCast_nonneg n))

theorem failed_iteration_accounts_hasty :
    (iterate hasty).result = .error (.refused (.negativeLatency (-1))) ∧
    (iterate hasty).state.corpus = hasty.corpus ∧
    (iterate hasty).state.engine.ledger? = hasty.engine.ledger? := by
  have failed : (iterate hasty).result = .error (.refused (.negativeLatency (-1))) := rfl
  obtain ⟨corpus,ledger,-⟩ := failed_iteration_accounts natural_rat failed
  exact ⟨failed,corpus,ledger⟩

/-- The iteration fails and does not keep its input, but it is counted, and its signal is covered from now on. -/
theorem failed_iteration_covers_signal :
    (nextInput hasty).result = .ok ([0,0],true) ∧
    (iterate hasty).result = .error (.refused (.negativeLatency (-1))) ∧
    (iterate hasty).state.corpus.entries = [[0]] ∧
    hasty.tracker.count "seen" = 0 ∧ (iterate hasty).state.tracker.count "seen" = 1 ∧
    hasty.totals.executions = 0 ∧ (iterate hasty).state.totals.executions = 1 :=
  ⟨rfl,rfl,rfl,rfl,rfl,rfl,rfl⟩

end Campaign

end Fuzzing

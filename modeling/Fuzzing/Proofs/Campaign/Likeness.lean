import Mathlib.Data.List.Forall2
import Fuzzing.Proofs.Campaign.Step

/-!
Campaigns that do the same. A `Likeness` tells in which parts two campaigns may differ: in their mutators, engines and
trackers, in the seeds that they tell, in the totals that only reports bring up to date, and in what they note. It comes
with what the engines and trackers have to keep of it. Then the campaigns keep their level with each other through every
part of an iteration (`carries_watched`), and through whole runs (`carries_runWatched`).
-/
namespace Fuzzing

open Fuzzing.Action (Matches)

variable {ρ σ κ : Type}

/-- The totals that only reports bring up to date. -/
structure Shown (ρ : Type) where
  corpusSize : Nat
  coveragePercentage : ρ
  mutators : List (String × Statistics ρ)

namespace Totals

def shown (t : Totals ρ) : Shown ρ := ⟨t.corpusSize,t.coveragePercentage,t.mutators⟩

def showing (v : Shown ρ) (t : Totals ρ) : Totals ρ :=
  { t with corpusSize := v.corpusSize, coveragePercentage := v.coveragePercentage, mutators := v.mutators }

/-- Totals that differ in nothing but what they show, and in that as far as they may. -/
def Level (may : Shown ρ → Shown ρ → Prop) (t t' : Totals ρ) : Prop := may t.shown t'.shown ∧ t' = t.showing t'.shown

/-- A change that has nothing to do with what totals show. -/
private theorem Level.change {may : Shown ρ → Shown ρ → Prop} {t t' : Totals ρ} (level : Level may t t')
    {f : Totals ρ → Totals ρ} (keeps : ∀ t, (f t).shown = t.shown) (moves : ∀ v t, f (showing v t) = showing v (f t)) :
    Level may (f t) (f t') := by
  obtain ⟨shows,same⟩ := level
  refine ⟨by rwa [keeps,keeps],?_⟩
  rw [keeps,← moves,← same]

end Totals

theorem Option.rel_eq_iff {α : Type} {o o' : Option α} : Option.Rel Eq o o' ↔ o = o' := by
  constructor
  · rintro (same | _)
    · exact congrArg some same
    · rfl
  · rintro rfl
    cases o with
    | none => exact .none
    | some x => exact .some rfl

/-- In what two campaigns may differ without doing anything else. -/
structure Likeness (ρ σ : Type) [Quantity ρ] [Source ρ σ] where
  /-- What is seen of an event. -/
  seen : Event ρ → Option (Event ρ)
  mutators : Mutator ρ σ → Mutator ρ σ → Prop
  guided : Guided ρ σ → Guided ρ σ → Prop
  uniform : Uniform ρ σ → Uniform ρ σ → Prop
  trackers : Coverage ρ Nat → Coverage ρ Nat → Prop
  seeds : Option Int → Option Int → Prop
  shown : Shown ρ → Shown ρ → Prop
  -- Engines use the same source, and remember mutators that are alike.
  guided_source {g g' : Guided ρ σ} : guided g g' →
    g'.source = g.source ∧ ∀ s, guided { g with source := s } { g' with source := s }
  uniform_source {u u' : Uniform ρ σ} : uniform u u' →
    u'.source = u.source ∧ ∀ s, uniform { u with source := s } { u' with source := s }
  guided_last {g g' : Guided ρ σ} : guided g g' → Option.Rel mutators g.last g'.last
  -- Engines mutate in the same way, and take feedback in the same way.
  mutates_guided (data : Bytes) : Matches seen guided
    (fun told told' => told'.1 = told.1 ∧ Option.Rel mutators told.2 told'.2) (Guided.mutateOnce data)
    (Guided.mutateOnce data)
  mutates_uniform (data : Bytes) (count : Document ρ) :
    Matches seen uniform Eq (Uniform.mutate (some data) count) (Uniform.mutate (some data) count)
  records {m m' : Mutator ρ σ} : mutators m m' → ∀ discovered crashed latency, Matches seen guided Eq
    (Guided.recordFeedback (some m) discovered crashed latency) (Guided.recordFeedback (some m') discovered crashed latency)
  succeeds {m m' : Mutator ρ σ} : mutators m m' → ∀ increase,
    Matches seen guided Eq (Guided.recordSuccess (some m) increase) (Guided.recordSuccess (some m') increase)
  -- Trackers find the same signals new.
  observes (signals : List Signal) :
    Matches seen trackers Eq (Coverage.observe signals) (Coverage.observe signals)
  -- Resets leave them alike.
  clears : Matches seen trackers Eq Coverage.reset Coverage.reset
  forgets : Matches seen guided Eq Guided.resetStatistics Guided.resetStatistics
  zero : shown (Totals.shown .zero) (Totals.shown .zero)
  -- Reports show what may be shown.
  shows_guided {g g' : Guided ρ σ} {t t' : Coverage ρ Nat} : guided g g' → trackers t t' → ∀ n,
    shown ⟨n,t.percentage,g.ledger.snapshot⟩ ⟨n,t'.percentage,g'.ledger.snapshot⟩
  shows_uniform {u u' : Uniform ρ σ} {t t' : Coverage ρ Nat} {v v' : Shown ρ} : uniform u u' → trackers t t' →
    shown v v' → ∀ n, shown ⟨n,t.percentage,v.mutators⟩ ⟨n,t'.percentage,v'.mutators⟩
  started {s s' : Option Int} : seeds s s' → ∀ total kind n,
    seen (.campaignStarted total s' kind n) = seen (.campaignStarted total s kind n)
  progresses {v v' : Shown ρ} : shown v v' → ∀ executions crashes,
    seen (.campaignProgress executions crashes v'.corpusSize v'.coveragePercentage) =
      seen (.campaignProgress executions crashes v.corpusSize v.coveragePercentage)
  completed {t t' : Totals ρ} : t.Level shown t' →
    seen (.campaignCompleted t'.summary) = seen (.campaignCompleted t.summary)

namespace Likeness

open Campaign

variable [Quantity ρ] [Source ρ σ] (L : Likeness ρ σ)

/-- Two engines of one kind that are alike. -/
inductive Engines : Engine ρ σ → Engine ρ σ → Prop where
  | guided {g g' : Guided ρ σ} : L.guided g g' → Engines (.guided g) (.guided g')
  | uniform {u u' : Uniform ρ σ} : L.uniform u u' → Engines (.uniform u) (.uniform u')

/-- Two campaigns that are alike. -/
structure Level (c d : Campaign ρ σ κ) : Prop where
  engine : L.Engines c.engine d.engine
  executor : d.executor = c.executor
  executorState : d.executorState = c.executorState
  tracker : L.trackers c.tracker d.tracker
  corpus : d.corpus = c.corpus
  policy : d.policy = c.policy
  limits : d.limits = c.limits
  ownSource : d.ownSource = c.ownSource
  seed : L.seeds c.seed d.seed
  totals : c.totals.Level L.shown d.totals

/-- Two rounds that are alike. -/
structure Rounds (r r' : Round ρ σ) : Prop where
  data : r'.data = r.data
  mutated : r'.mutated = r.mutated
  selected : Option.Rel L.mutators r.selected r'.selected
  result : r'.result = r.result
  fresh : r'.fresh = r.fresh

/-- Two computations on campaigns that do the same where these are alike. -/
abbrev Carries {α β : Type} (res : α → β → Prop) (a : Action ρ (Campaign ρ σ κ) α) (b : Action ρ (Campaign ρ σ κ) β) :
    Prop := Matches L.seen L.Level res a b

variable {L} {α β : Type} {res : α → β → Prop}

private theorem Engines.source {e e' : Engine ρ σ} (engines : L.Engines e e') :
    e'.source = e.source ∧ ∀ s, L.Engines (e.withSource s) (e'.withSource s) := by
  cases engines with
  | guided alike => exact ⟨(L.guided_source alike).1,fun s => .guided ((L.guided_source alike).2 s)⟩
  | uniform alike => exact ⟨(L.uniform_source alike).1,fun s => .uniform ((L.uniform_source alike).2 s)⟩

theorem Engines.refl {e : Engine ρ σ} (guided : ∀ g, e = .guided g → L.guided g g)
    (uniform : ∀ u, e = .uniform u → L.uniform u u) : L.Engines e e := by
  cases e with
  | guided g => exact .guided (guided g rfl)
  | uniform u => exact .uniform (uniform u rfl)

theorem Engines.eq {e e' : Engine ρ σ} (engines : L.Engines e e') (guided : ∀ g g', L.guided g g' → g = g')
    (uniform : ∀ u u', L.uniform u u' → u = u') : e = e' := by
  cases engines with
  | guided alike => rw [guided _ _ alike]
  | uniform alike => rw [uniform _ _ alike]

private theorem Engines.isGuided {e e' : Engine ρ σ} (engines : L.Engines e e') : e'.isGuided = e.isGuided := by
  cases engines <;> rfl

theorem Rounds.eq {r r' : Round ρ σ} (alike : L.Rounds r r') (mutators : ∀ m m', L.mutators m m' → m = m') : r = r' := by
  obtain ⟨data,mutated,selected,result,fresh⟩ := alike
  have selected : r.selected = r'.selected := by
    generalize r.selected = m at selected ⊢
    generalize r'.selected = m' at selected ⊢
    cases selected with
    | none => rfl
    | some same => exact congrArg some (mutators _ _ same)
  rcases r with ⟨_,_,_,_,_⟩
  rcases r' with ⟨_,_,_,_,_⟩
  simp_all only

section

variable {c d : Campaign ρ σ κ}

private theorem Level.source (level : L.Level c d) : d.source = c.source := by
  rw [Campaign.source,Campaign.source,level.ownSource,level.engine.source.1]

private theorem Level.withSource (level : L.Level c d) (s : σ) : L.Level (c.withSource s) (d.withSource s) := by
  rcases c with ⟨_,_,_,_,_,_,_,own,_,_⟩
  rcases d with ⟨_,_,_,_,_,_,_,own',_,_⟩
  obtain rfl : own' = own := level.ownSource
  cases own' with
  | none => exact { level with engine := level.engine.source.2 s }
  | some _ => exact { level with ownSource := rfl }

/-- All of the parts in which campaigns that are alike may differ. -/
theorem Level.eq_with (level : L.Level c d) : d =
    { c with engine := d.engine, tracker := d.tracker, seed := d.seed, totals := c.totals.showing d.totals.shown } := by
  obtain ⟨-,executor,executorState,-,corpus,policy,limits,ownSource,-,-,same⟩ := level
  rw [← executor,← executorState,← corpus,← policy,← limits,← ownSource,← same]

private theorem Level.count (level : L.Level c d) {f : Totals ρ → Totals ρ} (keeps : ∀ t, (f t).shown = t.shown)
    (moves : ∀ v t, f (Totals.showing v t) = Totals.showing v (f t)) :
    L.Level { c with totals := f c.totals } { d with totals := f d.totals } :=
  { level with totals := level.totals.change keeps moves }

/-- Other totals to show. -/
theorem Level.showing (level : L.Level c d) {v v' : Shown ρ} (shows : L.shown v v') :
    L.Level { c with totals := c.totals.showing v } { d with totals := d.totals.showing v' } := by
  have same : d.totals.showing v' = (c.totals.showing d.totals.shown).showing v' := congrArg _ level.totals.2
  exact { level with totals := ⟨shows,same⟩ }

end

private theorem carries_onSource (a : Action ρ σ α) : L.Carries (κ := κ) Eq (onSource a) (onSource a) := by
  refine .focus (.same a) (fun c d level => level.source.symm) ?_
  rintro c d level s _ rfl
  exact level.withSource s

private theorem carries_onGuided {g g' : Guided ρ σ} (alike : L.guided g g') {a : Action ρ (Guided ρ σ) α}
    {b : Action ρ (Guided ρ σ) β} (inside : Matches L.seen L.guided res a b) :
    L.Carries (κ := κ) res (onGuided g a) (onGuided g' b) :=
  .focus inside (fun _ _ _ => alike) fun _ _ level _ _ ended => { level with engine := .guided ended }

private theorem carries_onUniform {u u' : Uniform ρ σ} (alike : L.uniform u u') {a : Action ρ (Uniform ρ σ) α}
    {b : Action ρ (Uniform ρ σ) β} (inside : Matches L.seen L.uniform res a b) :
    L.Carries (κ := κ) res (onUniform u a) (onUniform u' b) :=
  .focus inside (fun _ _ _ => alike) fun _ _ level _ _ ended => { level with engine := .uniform ended }

private theorem carries_onTracker {a b : Action ρ (Coverage ρ Nat) α} (inside : Matches L.seen L.trackers Eq a b) :
    L.Carries (κ := κ) Eq (onTracker a) (onTracker b) :=
  .focus inside (fun _ _ level => level.tracker) fun _ _ level _ _ ended => { level with tracker := ended }

private theorem carries_execute (data : Bytes) : L.Carries (κ := κ) Eq (execute data) (execute data) := by
  refine .state_bind fun c d level => ?_
  rw [level.executor]
  refine .focus (.same (c.executor data)) (fun c d level => level.executorState.symm) ?_
  rintro c d level k _ rfl
  exact { level with executorState := rfl }

private theorem carries_mutateSeed (data : Bytes) : L.Carries (κ := κ) Eq (mutateSeed data) (mutateSeed data) := by
  refine .state_bind ?_
  rintro ⟨e,_,_,_,_,_,limits,_,_,_⟩ ⟨e',_,_,_,_,_,limits',_,_,_⟩ level
  obtain rfl : limits' = limits := level.limits
  have engines : L.Engines e e' := level.engine
  cases engines with
  | guided alike =>
    simp only [Guided.mutate_eq_mutateOnce,map_eq_pure_bind]
    exact carries_onGuided alike ((L.mutates_guided data).bind fun _ _ told => .pure told.1.symm)
  | uniform alike =>
    refine (carries_onSource _).bind ?_
    rintro count _ rfl
    refine .state_bind fun c d level => ?_
    rw [level.engine.source.1]
    exact carries_onUniform ((L.uniform_source alike).2 _) (L.mutates_uniform data _)

private theorem carries_mutateWatched (data : Bytes) :
    L.Carries (κ := κ) (fun told told' => told'.1 = told.1 ∧ Option.Rel L.mutators told.2 told'.2) (mutateWatched data)
      (mutateWatched data) := by
  refine .state_bind ?_
  rintro ⟨e,_,_,_,_,_,_,_,_,_⟩ ⟨e',_,_,_,_,_,_,_,_,_⟩ level
  have engines : L.Engines e e' := level.engine
  cases engines with
  | guided alike => exact carries_onGuided alike (L.mutates_guided data)
  | uniform _ => exact (carries_mutateSeed data).bind fun _ _ same => .pure ⟨same.symm,.none⟩

private theorem carries_drawsSeed : L.Carries (κ := κ) Eq drawsSeed drawsSeed := by
  refine .state_bind fun c d level => ?_
  rw [level.corpus,level.policy]
  refine .ite (.pure rfl) ((carries_onSource _).bind ?_)
  rintro fraction _ rfl
  exact .pure rfl

private theorem carries_freshInput : L.Carries (κ := κ) Eq freshInput freshInput := by
  refine .state_bind fun c d level => ?_
  rw [level.policy]
  refine (carries_onSource _).bind ?_
  rintro size _ rfl
  exact carries_onSource _

private theorem carries_nextWatched : L.Carries (κ := κ)
    (fun told told' => told'.1 = told.1 ∧ told'.2.1 = told.2.1 ∧ Option.Rel L.mutators told.2.2 told'.2.2)
    nextWatched nextWatched := by
  refine carries_drawsSeed.bind ?_
  rintro draws _ rfl
  refine .ite (.state_bind fun c d level => ?_) (carries_freshInput.bind ?_)
  · rw [level.corpus]
    refine (carries_onSource _).bind ?_
    rintro seed _ rfl
    refine (carries_mutateWatched seed).bind ?_
    rintro ⟨data,selected⟩ ⟨_,selected'⟩ ⟨rfl,mutators⟩
    exact .pure ⟨rfl,rfl,mutators⟩
  · rintro data _ rfl
    exact .pure ⟨rfl,rfl,.none⟩

private theorem carries_giveFeedback (result : Execution ρ) (fresh : Nat) :
    L.Carries (κ := κ) Eq (giveFeedback result fresh) (giveFeedback result fresh) := by
  refine .state_bind ?_
  rintro ⟨e,_,_,_,_,_,_,_,_,_⟩ ⟨e',_,_,_,_,_,_,_,_,_⟩ level
  have engines : L.Engines e e' := level.engine
  cases engines with
  | uniform _ => exact .pure rfl
  | @guided g g' alike =>
    have last := L.guided_last alike
    rcases g with ⟨_,_,_,last₁⟩
    rcases g' with ⟨_,_,_,last₂⟩
    cases last with
    | none => exact .pure rfl
    | some mutators =>
      refine carries_onGuided alike ((L.records mutators _ _ _).bind fun _ _ _ => ?_)
      exact .ite (L.succeeds mutators _) (.pure rfl)

private theorem carries_keepCrash (data : Bytes) (result : Execution ρ) :
    L.Carries (κ := κ) Eq (keepCrash data result) (keepCrash data result) := by
  refine .state_bind fun c d level => ?_
  rw [level.corpus]
  refine .ite (.pure rfl) (.bind (.update fun c d level => ?_) fun _ _ _ => .note rfl)
  have counted := level.count (f := fun t => { t with crashes := t.crashes + 1 }) (fun _ => rfl) fun _ _ => rfl
  have kept : d.corpus.addCrash data (crashError result.error) = c.corpus.addCrash data (crashError result.error) := by
    rw [level.corpus]
  exact { counted with corpus := kept }

private theorem carries_keepInput (data : Bytes) (fresh : Nat) :
    L.Carries (κ := κ) Eq (keepInput data fresh) (keepInput data fresh) := by
  refine .state_bind fun c d level => ?_
  rw [level.corpus]
  refine .ite (.pure rfl) (.bind (.update fun c d level => ?_) fun _ _ _ => .state_bind fun c d level => ?_)
  · have counted := level.count (f := fun t => { t with interestingInputs := t.interestingInputs + 1 }) (fun _ => rfl)
      fun _ _ => rfl
    have kept : d.corpus.add data = c.corpus.add data := by rw [level.corpus]
    exact { counted with corpus := kept }
  · rw [level.corpus]
    exact .note rfl

private theorem carries_countResult (result : Execution ρ) :
    L.Carries (κ := κ) Eq (countResult result) (countResult result) := by
  refine .bind (.update fun c d level => ?_) fun _ _ _ => ?_
  · exact level.count (f := fun t => { t with executions := t.executions + 1 }) (fun _ => rfl) fun _ _ => rfl
  cases result.latency with
  | none => exact .fail _
  | some latency =>
    refine .update fun c d level => ?_
    exact level.count (f := fun t => { t with totalLatency := t.totalLatency + latency }) (fun _ => rfl) fun _ _ => rfl

private theorem carries_settle (data : Bytes) (mutated : Bool) (result : Execution ρ) (fresh : List Signal) :
    L.Carries (κ := κ) Eq (settle data mutated result fresh) (settle data mutated result fresh) := by
  refine (carries_countResult result).bind fun _ _ _ => ?_
  refine .bind (.ite (carries_giveFeedback result _) (.pure rfl)) fun _ _ _ => ?_
  refine .bind (.ite (carries_keepCrash data result) (.pure rfl)) fun _ _ _ => ?_
  exact .ite (.pure rfl) (carries_keepInput data _)

/-- Campaigns that are alike go through rounds that are alike, and are alike behind them. -/
theorem carries_watched : L.Carries (κ := κ) L.Rounds watched watched := by
  refine carries_nextWatched.bind ?_
  rintro ⟨data,mutated,selected⟩ ⟨_,_,selected'⟩ ⟨rfl,rfl,mutators⟩
  refine (carries_execute _).bind ?_
  rintro result _ rfl
  refine (carries_onTracker (L.observes _)).bind ?_
  rintro fresh _ rfl
  exact (carries_settle _ _ result fresh).bind fun _ _ _ => .pure ⟨rfl,rfl,mutators,rfl,rfl⟩

private theorem Level.shows_refreshed {c d : Campaign ρ σ κ} (level : L.Level c d) :
    L.shown c.refreshed.totals.shown d.refreshed.totals.shown := by
  rcases c with ⟨e,_,_,t,corpus,_,_,_,_,_⟩
  rcases d with ⟨e',_,_,t',corpus',_,_,_,_,_⟩
  obtain rfl : corpus' = corpus := level.corpus
  have engines : L.Engines e e' := level.engine
  have trackers : L.trackers t t' := level.tracker
  cases engines with
  | guided alike => exact L.shows_guided alike trackers _
  | uniform alike => exact L.shows_uniform alike trackers level.totals.1 _

private theorem Level.refreshed {c d : Campaign ρ σ κ} (level : L.Level c d) : L.Level c.refreshed d.refreshed :=
  level.showing level.shows_refreshed

private theorem carries_report : L.Carries (κ := κ) Eq report report := by
  refine .bind (.update fun c d level => level.refreshed) fun _ _ _ => .state_bind fun c d level => .note ?_
  obtain ⟨shows,same⟩ := level.totals
  rw [same]
  exact L.progresses shows _ _

theorem carries_reset : L.Carries (κ := κ) Eq reset reset := by
  refine .bind (.update fun c d level => { level with totals := ⟨L.zero,rfl⟩ }) fun _ _ _ => ?_
  refine (carries_onTracker L.clears).bind fun _ _ _ => .state_bind ?_
  rintro ⟨e,_,_,_,_,_,_,_,_,_⟩ ⟨e',_,_,_,_,_,_,_,_,_⟩ level
  have engines : L.Engines e e' := level.engine
  cases engines with
  | guided alike => exact (carries_onGuided alike L.forgets).bind fun _ _ _ => .note rfl
  | uniform _ => exact (Matches.pure (Eq.refl ())).bind fun _ _ _ => .note rfl

/-- Iterations that are counted in different ways, with reports that are due at different times. -/
theorem carries_iterationsWatched (count : Nat → Nat → Prop) (next : ∀ {i j}, count i j → count (i + 1) (j + 1))
    (reports : ∀ {i j}, count i j → ∀ interval : Int, L.Carries (κ := κ) (fun _ _ => True)
      (if (i : Int) % interval = 0 then report else pure ()) (if (j : Int) % interval = 0 then report else pure ()))
    (left : Nat) {i j : Nat} (start : count i j) :
    L.Carries (κ := κ) (List.Forall₂ L.Rounds) (iterationsWatched i left) (iterationsWatched j left) := by
  induction left generalizing i j with
  | zero => exact .pure .nil
  | succ left ih =>
    -- The report is due at the next count, not at this one.
    refine carries_watched.bind fun r r' alike => .state_bind fun c d level => ?_
    rw [level.policy]
    refine (reports (next start) _).bind fun _ _ _ => ?_
    exact (ih (next start)).bind fun _ _ others => .pure (.cons alike others)

theorem carries_runWatched (count : Document ρ) :
    L.Carries (κ := κ) (List.Forall₂ L.Rounds) (runWatched count) (runWatched count) := by
  refine .state_bind fun c d level => ?_
  rw [level.policy,level.corpus,level.engine.isGuided]
  refine (Matches.ofExcept (.refl _)).bind ?_
  rintro negative _ rfl
  refine .ite (.fail _) (.bind (.note (L.started level.seed _ _ _)) fun _ _ _ => ?_)
  refine (Matches.ofExcept (.refl _)).bind ?_
  rintro times _ rfl
  have iterated : L.Carries (κ := κ) (List.Forall₂ L.Rounds) (iterationsWatched 0 times) (iterationsWatched 0 times) := by
    refine carries_iterationsWatched Eq (congrArg (· + 1)) ?_ times rfl
    rintro i _ rfl interval
    exact (Matches.ite carries_report (.pure rfl)).mono fun _ _ _ => trivial
  refine iterated.bind fun rounds rounds' alike => .bind (.update fun c d level => level.refreshed) fun _ _ _ => ?_
  exact .state_bind fun c d level => .bind (.note (L.completed level.totals)) fun _ _ _ => .pure alike

end Likeness

end Fuzzing

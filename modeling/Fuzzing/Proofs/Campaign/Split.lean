import Fuzzing.Proofs.Campaign.Likeness

/-!
Runs in parts. Reports change nothing that an iteration looks at, so that it does not matter when they are due: a run of
`m` iterations and one of `n` behind it make the same rounds as one run of all of them, and end with the same campaign
(`runs_split`).
-/
namespace Fuzzing

variable {ρ σ κ : Type} [Quantity ρ] [Source ρ σ]

open Fuzzing.Action (Matches)

/-- Campaigns with engines of one kind that show different totals. Where there is a guided engine, all that is shown is
    brought up to date by the next report, and the statistics of mutators are never shown for another one. -/
private def Likeness.stale (kind : Bool) : Likeness ρ σ where
  seen _ := none
  mutators := Eq
  guided g g' := kind = true ∧ g = g'
  uniform u u' := kind = false ∧ u = u'
  trackers := Eq
  seeds := Eq
  shown v v' := kind = false → v'.mutators = v.mutators
  guided_source := by
    rintro g _ ⟨same,rfl⟩
    exact ⟨rfl,fun _ => ⟨same,rfl⟩⟩
  uniform_source := by
    rintro u _ ⟨same,rfl⟩
    exact ⟨rfl,fun _ => ⟨same,rfl⟩⟩
  guided_last := by
    rintro g _ ⟨-,rfl⟩
    exact Option.rel_eq_iff.mpr rfl
  mutates_guided data := by
    refine (Matches.sameWhere _ _).mono ?_
    rintro told _ rfl
    exact ⟨rfl,Option.rel_eq_iff.mpr rfl⟩
  mutates_uniform data count := .sameWhere _ _
  records := by
    rintro m _ rfl discovered crashed latency
    exact .sameWhere _ _
  succeeds := by
    rintro m _ rfl increase
    exact .sameWhere _ _
  observes signals := .same _
  clears := .same _
  forgets := .sameWhere _ _
  zero _ := rfl
  shows_guided alike _ _ uniform := absurd (alike.1.symm.trans uniform) (by decide)
  shows_uniform _ _ shows _ := shows
  started _ _ _ _ := rfl
  progresses _ _ _ := rfl
  completed _ := rfl

namespace Campaign

open Likeness

variable {kind : Bool} {c d : Campaign ρ σ κ}

private theorem stale_refl (c : Campaign ρ σ κ) : (stale c.engine.isGuided).Level c c := by
  have engines : (stale c.engine.isGuided).Engines c.engine c.engine :=
    .refl (fun g kind => ⟨congrArg Engine.isGuided kind,rfl⟩) fun u kind => ⟨congrArg Engine.isGuided kind,rfl⟩
  exact ⟨engines,rfl,rfl,rfl,rfl,rfl,rfl,rfl,rfl,fun _ => rfl,rfl⟩

private theorem mutators_refreshed (level : (stale kind).Level c d) (uniform : kind = false) :
    c.refreshed.totals.mutators = c.totals.mutators ∧ d.refreshed.totals.mutators = d.totals.mutators := by
  rcases c with ⟨e,_,_,_,_,_,_,_,_,_⟩
  rcases d with ⟨e',_,_,_,_,_,_,_,_,_⟩
  have engines : (stale kind).Engines e e' := level.engine
  cases engines with
  | guided alike => exact absurd (alike.1.symm.trans uniform) (by decide)
  | uniform _ => exact ⟨rfl,rfl⟩

private theorem stale_left (level : (stale kind).Level c d) : (stale kind).Level c.refreshed d := by
  have shows : (stale kind : Likeness ρ σ).shown c.refreshed.totals.shown d.totals.shown := fun uniform =>
    (level.totals.1 uniform).trans (mutators_refreshed level uniform).1.symm
  exact level.showing shows

private theorem stale_right (level : (stale kind).Level c d) : (stale kind).Level c d.refreshed := by
  have shows : (stale kind : Likeness ρ σ).shown c.totals.shown d.refreshed.totals.shown := fun uniform =>
    (mutators_refreshed level uniform).2.trans (level.totals.1 uniform)
  exact level.showing shows

private theorem eq_of_stale (level : (stale kind).Level c d) : d = { c with totals := c.totals.showing d.totals.shown } := by
  have engine : c.engine = d.engine := level.engine.eq (fun _ _ alike => alike.2) fun _ _ alike => alike.2
  have tracker : c.tracker = d.tracker := level.tracker
  have seed : c.seed = d.seed := level.seed
  have same := level.eq_with
  rwa [← engine,← tracker,← seed] at same

/-- The next report brings both up to date. -/
private theorem refreshed_eq_of_stale (level : (stale kind).Level c d) : d.refreshed = c.refreshed := by
  have mutators := level.totals.1
  have kinds := level.engine
  rw [eq_of_stale level] at kinds ⊢
  generalize d.totals.shown = v at mutators kinds ⊢
  rcases c with ⟨e,_,_,_,_,_,_,_,_,t⟩
  rcases v with ⟨n,x,listed⟩
  cases kinds with
  | guided _ => rfl
  | uniform alike =>
    obtain rfl : listed = t.mutators := mutators alike.1
    rfl

omit [Source ρ σ] in
private theorem refreshed_refreshed (c : Campaign ρ σ κ) : c.refreshed.refreshed = c.refreshed := by
  rcases c with ⟨e,_,_,_,_,_,_,_,_,_⟩
  cases e <;> rfl

/-- Reports may be due for one of two campaigns and not for the other one. -/
private theorem carries_reportIf (due due' : Prop) [Decidable due] [Decidable due'] :
    (stale kind).Carries (ρ := ρ) (σ := σ) (κ := κ) Eq (if due then report else pure ())
      (if due' then report else pure ()) := by
  refine fun c d level => Action.matched_unseen_iff.mpr ?_
  by_cases one : due <;> by_cases other : due'
  · rw [if_pos one,if_pos other]
    exact ⟨rfl,stale_left (stale_right level)⟩
  · rw [if_pos one,if_neg other]
    exact ⟨rfl,stale_left level⟩
  · rw [if_neg one,if_pos other]
    exact ⟨rfl,stale_right level⟩
  · rw [if_neg one,if_neg other]
    exact ⟨rfl,level⟩

private theorem carries_iterations (i j left : Nat) :
    (stale kind).Carries (ρ := ρ) (σ := σ) (κ := κ) Eq (iterationsWatched i left) (iterationsWatched j left) := by
  have carried : (stale kind).Carries (ρ := ρ) (σ := σ) (κ := κ) (List.Forall₂ (stale kind).Rounds)
      (iterationsWatched i left) (iterationsWatched j left) :=
    carries_iterationsWatched (fun _ _ => True) (fun _ => trivial)
      (fun _ _ => (carries_reportIf _ _).mono fun _ _ _ => trivial) left trivial
  refine carried.mono fun rounds rounds' alike => ?_
  rw [← List.forall₂_eq_eq_eq]
  exact alike.imp fun _ _ same => same.eq fun _ _ => id

private theorem runWatched_whole (n : Nat) :
    (runWatched (.whole n) : Action ρ (Campaign ρ σ κ) (List (Round ρ σ))) = (do
      let c ← .state
      .note (.campaignStarted (.whole n) c.seed c.engine.isGuided c.corpus.entries.length)
      let rounds ← iterationsWatched 0 n
      .update refreshed
      let c ← .state
      .note (.campaignCompleted c.totals.summary)
      pure rounds) := by
  have times : (Document.times? (.whole (n : Int)) : Except (Failure ρ) Nat) = .ok n := rfl
  have sign : (Document.isNegative? (.whole (n : Int)) : Except (Failure ρ) Bool) = .ok false := rfl
  simp only [runWatched,Bool.false_eq_true,if_false,sign,times,Action.ofExcept_ok,pure_bind]

private theorem carries_run (i n : Nat) :
    (stale kind).Carries (ρ := ρ) (σ := σ) (κ := κ) Eq (iterationsWatched i n) (runWatched (.whole n)) := by
  rw [runWatched_whole]
  -- What a run does besides its iterations is to note, to look at itself and to bring totals up to date.
  refine .idles (fun _ => rfl) (fun _ => Action.filterMap_unseen _) (fun _ _ => id) fun c => ?_
  refine .idles (fun _ => rfl) (fun _ => Action.filterMap_unseen _) (fun _ _ => id) fun _ => ?_
  rw [← bind_pure (iterationsWatched i n)]
  refine (carries_iterations i 0 n).bind ?_
  rintro rounds _ rfl
  refine .idles (fun _ => rfl) (fun _ => Action.filterMap_unseen _) (fun _ _ => stale_right) fun _ => ?_
  refine .idles (fun _ => rfl) (fun _ => Action.filterMap_unseen _) (fun _ _ => id) fun c => ?_
  exact .idles (fun _ => rfl) (fun _ => Action.filterMap_unseen _) (fun _ _ => id) fun _ => .pure rfl

private theorem iterationsWatched_add (i m n : Nat) :
    (iterationsWatched i (m + n) : Action ρ (Campaign ρ σ κ) (List (Round ρ σ))) = (do
      let first ← iterationsWatched i m
      let rest ← iterationsWatched (i + m) n
      pure (first ++ rest)) := by
  induction m generalizing i with
  | zero => simp [iterationsWatched]
  | succ m ih =>
    have later : i + 1 + m = i + (m + 1) := by omega
    simp only [Nat.succ_add,iterationsWatched,ih,bind_assoc,pure_bind,List.cons_append,later]

/-- One run after another. -/
def runTwice (m n : Nat) : Action ρ (Campaign ρ σ κ) (List (Round ρ σ)) := do
  let first ← runWatched (.whole m)
  let rest ← runWatched (.whole n)
  pure (first ++ rest)

private theorem carries_runTwice (m n : Nat) :
    (stale kind).Carries (ρ := ρ) (σ := σ) (κ := κ) Eq (iterationsWatched 0 (m + n)) (runTwice m n) := by
  rw [iterationsWatched_add]
  refine (carries_run 0 m).bind ?_
  rintro first _ rfl
  refine (carries_run (0 + m) n).bind ?_
  rintro rest _ rfl
  exact .pure rfl

private theorem refreshed_of_returns_run {n : Nat} {rounds : List (Round ρ σ)} (ran : (runWatched (.whole n)).Returns c rounds d) :
    d.refreshed = d := by
  rw [runWatched_whole] at ran
  obtain ⟨_,c₁,-,running⟩ := Action.returns_bind.mp (Action.returns_state_bind.mp ran)
  obtain ⟨_,c₂,-,reporting⟩ := Action.returns_bind.mp running
  obtain ⟨_,c₃,noted,told⟩ := Action.returns_bind.mp (Action.returns_state_bind.mp (Action.returns_update_bind.mp reporting))
  obtain rfl := Action.returns_note.mp noted
  obtain ⟨-,rfl⟩ := Action.returns_pure.mp told
  exact refreshed_refreshed c₂

/-- A run of `m` iterations and one of `n` iterations behind it make the same rounds as one run of all of them, or fail
    in the same way, and the next report makes the same campaign of what they leave. If they return, they leave the same
    campaign at once. The runs that tell their rounds are runs otherwise. -/
theorem runs_split (c : Campaign ρ σ κ) (m n : Nat) :
    let joint := runWatched (.whole (m + n : Nat)) c
    let split := runTwice m n c
    split.result = joint.result ∧ split.state.refreshed = joint.state.refreshed ∧
      (∀ rounds, joint.result = .ok rounds → split.state = joint.state) ∧
      (run (.whole (m + n : Nat)) : Action ρ (Campaign ρ σ κ) Unit) =
        (fun _ => ()) <$> runWatched (.whole (m + n : Nat)) ∧
      (do run (.whole m); run (.whole n) : Action ρ (Campaign ρ σ κ) Unit) = (fun _ => ()) <$> runTwice m n := by
  intro joint split
  have whole := carries_run 0 (m + n) c c (stale_refl c)
  have parts := carries_runTwice m n c c (stale_refl c)
  have result : split.result = joint.result := parts.result.eq.trans whole.result.eq.symm
  have refreshed : split.state.refreshed = joint.state.refreshed :=
    (refreshed_eq_of_stale parts.state).trans (refreshed_eq_of_stale whole.state).symm
  refine ⟨result,refreshed,?_,run_eq_watched _,?_⟩
  · intro rounds told
    -- Both end with a report, and a campaign that was just brought up to date is what the next report makes of it.
    have one : (runWatched (.whole (m + n : Nat))).Returns c rounds joint.state := ⟨joint.events,by rw [← told]⟩
    have two : (runTwice m n).Returns c rounds split.state := ⟨split.events,by rw [← told,← result]⟩
    obtain ⟨first,c₁,-,later⟩ := Action.returns_bind.mp two
    obtain ⟨rest,c₂,last,ended⟩ := Action.returns_bind.mp later
    obtain ⟨-,same⟩ := Action.returns_pure.mp ended
    rw [← refreshed_of_returns_run one,← refreshed,same,refreshed_of_returns_run last]
  · simp only [run_eq_watched,runTwice,map_eq_pure_bind,bind_assoc,pure_bind]

/-- The small campaign, with a report after every second iteration only. -/
def sparse : Campaign Rat Least Nat := { small with policy := { small.policy with reportInterval := 2 } }

/-- A fresh byte and a crash on it, in one run with a report behind both, and in two runs without it. -/
theorem runs_split_sparse :
    (runTwice 1 1 sparse).result = .ok
      [⟨[0],false,none,⟨.success,some 1,["seen"],.null⟩,["seen"]⟩,
       ⟨[0],true,some (idle 0),⟨.crashed,some 1,["seen"],.null⟩,[]⟩] ∧
    (runTwice 1 1 sparse).state = (runWatched (.whole (1 + 1 : Nat)) sparse).state := by
  have told : (runWatched (.whole (1 + 1 : Nat)) sparse).result = .ok
      [⟨[0],false,none,⟨.success,some 1,["seen"],.null⟩,["seen"]⟩,
       ⟨[0],true,some (idle 0),⟨.crashed,some 1,["seen"],.null⟩,[]⟩] := rfl
  obtain ⟨result,-,state,-⟩ := runs_split sparse 1 1
  exact ⟨result.trans told,state _ told⟩

end Campaign

end Fuzzing

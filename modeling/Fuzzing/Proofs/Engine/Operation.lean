import Fuzzing.Engine
import Fuzzing.Proofs.Action.Matches
import Fuzzing.Proofs.Randomness

/-!
What the calls of an engine do. A mutation of the guided engine selects a registered mutator, applies it and remembers
it, and leaves the policy and the ledger as they are, whether it succeeds or not (`mirrors_mutateBy`); every other call but
a reset registers a mutator, or takes in one execution or one success (`change_next`). The uniform engine mirrors
`Draw.mutations`, a computation on the source alone (`Uniform.mirrors_mutate`).
-/
namespace Fuzzing

variable {ρ σ α : Type}

namespace Draw

private theorem mem_of_returns_member {kind : Series} {xs : List α} {i : Nat} {s s' : σ} {x : α}
    (ran : (member kind xs i : Action ρ σ α).Returns s x s') : x ∈ xs := by
  unfold member at ran
  split at ran
  next there =>
    obtain ⟨rfl,_⟩ := Action.returns_pure.mp ran
    exact List.mem_of_getElem? there
  · exact absurd ran Action.not_returns_fail

private theorem mem_of_returns_chooseFrom [Source ρ σ] {kind : Series} {xs : List α} {s s' : σ} {x : α}
    (ran : (chooseFrom kind xs : Action ρ σ α).Returns s x s') : x ∈ xs := by
  obtain ⟨drawn,s₁,_,found⟩ := Action.returns_bind.mp ran
  cases drawn with
  | whole i => exact mem_of_returns_member found
  | real y => exact absurd found Action.not_returns_fail

end Draw

namespace Guided

theorem returns_onSource {a : Action ρ σ α} {g g' : Guided ρ σ} {x : α} (ran : (onSource a).Returns g x g') :
    ∃ source, a.Returns g.source x source ∧ g' = { g with source } := by
  obtain ⟨s,inner,rfl⟩ := Action.returns_focus.mp ran
  exact ⟨s,inner,rfl⟩

variable [Quantity ρ]

theorem spin_mem {g : Guided ρ σ} {fallback : Mutator ρ σ} (mem : fallback ∈ g.ledger.mutators) (fraction : ρ) :
    g.spin fallback fraction ∈ g.ledger.mutators := by
  have found (i : Nat) : (g.ledger.mutators[i]?).getD fallback ∈ g.ledger.mutators := by
    cases band : g.ledger.mutators[i]? with
    | none => exact mem
    | some m => exact List.mem_of_getElem? band
  exact found _

section

variable [Source ρ σ]

/-- A mutator that is selected is a registered one, and only the source is used. -/
theorem returns_select {g g' : Guided ρ σ} {m : Mutator ρ σ} (ran : (select).Returns g m g') :
    m ∈ g.ledger.mutators ∧ ∃ source, g' = { g with source } := by
  have selecting := Action.returns_state_bind.mp ran
  split at selecting
  · exact absurd selecting Action.not_returns_fail
  next fallback last =>
    split at selecting
    · obtain ⟨source,chosen,rfl⟩ := returns_onSource selecting
      exact ⟨Draw.mem_of_returns_chooseFrom chosen,source,rfl⟩
    · obtain ⟨fraction,g₁,drawn,spun⟩ := Action.returns_bind.mp selecting
      obtain ⟨source,_,rfl⟩ := returns_onSource drawn
      obtain ⟨rfl,rfl⟩ := Action.returns_pure.mp spun
      exact ⟨spin_mem (List.mem_of_getLast? last) fraction,source,rfl⟩

theorem mutate_whole (data : Bytes) (k : Nat) :
    (mutate (some data) (.whole k) : Action ρ (Guided ρ σ) Bytes) = (do
      .update fun g => { g with last := none }
      let g ← .state
      if g.ledger.isEmpty then pure data else Draw.times k step data) := by
  have times : (Document.times? (.whole (k : Int)) : Except (Failure ρ) Nat) = .ok k := rfl
  have sign : (Document.isNegative? (.whole (k : Int)) : Except (Failure ρ) Bool) = .ok false := rfl
  simp only [mutate,Bool.false_eq_true,if_false,sign,times,Action.ofExcept_ok,pure_bind]

/-- Mutates a seed once, and tells the mutator that was selected for it. There is none in an engine without
    mutators. -/
def mutateOnce (data : Bytes) : Action ρ (Guided ρ σ) (Bytes × Option (Mutator ρ σ)) := do
  .update fun g => { g with last := none }
  let g ← .state
  if g.ledger.isEmpty then pure (data,none)
  else do
    let m ← select
    let out ← onSource (m.apply data)
    .update fun g => { g with last := some m }
    pure (out,some m)

/-- Where no count is given, a seed is mutated once. -/
theorem mutate_eq_mutateOnce (data : Bytes) :
    (mutate (some data) .null : Action ρ (Guided ρ σ) Bytes) = Prod.fst <$> mutateOnce data := by
  have one : Draw.times 1 step data = (step data : Action ρ (Guided ρ σ) Bytes) := bind_pure _
  have count : (Document.times? (.whole 1) : Except (Failure ρ) Nat) = .ok 1 := rfl
  have sign : (Document.isNegative? (.whole 1) : Except (Failure ρ) Bool) = .ok false := rfl
  simp only [mutate,mutateOnce,if_true,sign,Action.ofExcept_ok,pure_bind,Bool.false_eq_true,if_false,
    map_eq_pure_bind,bind_assoc]
  refine bind_congr fun _ => bind_congr fun g => ?_
  split
  · rw [pure_bind]
  · simp only [count,Action.ofExcept_ok,pure_bind,one,step,bind_assoc]

/-- The engine remembers the mutator that it selected, a registered one, and leaves the ledger as it is. -/
theorem returns_mutateOnce {data : Bytes} {g g' : Guided ρ σ} {told : Bytes × Option (Mutator ρ σ)}
    (ran : (mutateOnce data).Returns g told g') :
    g'.ledger = g.ledger ∧ g'.last = told.2 ∧ ∀ m, told.2 = some m → m ∈ g.ledger.mutators := by
  have mutating := Action.returns_state_bind.mp (Action.returns_update_bind.mp ran)
  split at mutating
  · obtain ⟨rfl,rfl⟩ := Action.returns_pure.mp mutating
    exact ⟨rfl,rfl,fun m none => nomatch none⟩
  · obtain ⟨m,g₁,selected,applying⟩ := Action.returns_bind.mp mutating
    obtain ⟨out,g₂,applied,remembering⟩ := Action.returns_bind.mp applying
    have last := Action.returns_update_bind.mp remembering
    obtain ⟨rfl,rfl⟩ := Action.returns_pure.mp last
    obtain ⟨mem,source,rfl⟩ := returns_select selected
    obtain ⟨source',_,rfl⟩ := returns_onSource applied
    refine ⟨rfl,rfl,?_⟩
    rintro _ ⟨⟩
    exact mem

end

variable {g g' : Guided ρ σ} {m : Mutator ρ σ}

omit [Quantity ρ] in
private theorem returns_credit {change : Statistics ρ → Except (Failure ρ) (Statistics ρ)}
    {x : Option (Mutator ρ σ × Statistics ρ)} (registered : (g.ledger.get? m.handle).isSome = true)
    (ran : (credit (some m) change).Returns g x g') :
    ∃ ledger, g.ledger.revise m.handle change = .ok ledger ∧ g' = { g with ledger } := by
  have crediting := Action.returns_state_bind.mp ran
  split at crediting
  next unknown =>
    rw [unknown] at registered
    exact absurd registered Bool.false_ne_true
  · obtain ⟨ledger,g₁,revised,updating⟩ := Action.returns_bind.mp crediting
    obtain ⟨revised,rfl⟩ := Action.returns_ofExcept.mp revised
    have last := Action.returns_update_bind.mp updating
    obtain ⟨_,rfl⟩ := Action.returns_pure.mp last
    exact ⟨ledger,revised,rfl⟩

theorem returns_recordFeedback {discovered crashed : Bool} {latency : Option ρ} {x : Unit}
    (registered : (g.ledger.get? m.handle).isSome = true)
    (ran : (recordFeedback (some m) discovered crashed latency).Returns g x g') :
    ∃ ledger, g.ledger.revise m.handle (·.record discovered crashed latency) = .ok ledger ∧ g' = { g with ledger } := by
  obtain ⟨credited,g₁,crediting,noting⟩ := Action.returns_bind.mp ran
  obtain ⟨ledger,revised,rfl⟩ := returns_credit registered crediting
  refine ⟨ledger,revised,?_⟩
  split at noting
  · exact (Action.returns_pure.mp noting).2
  · exact Action.returns_noteIf.mp noting

theorem returns_recordSuccess {increase : Option ρ} {x : Unit}
    (registered : (g.ledger.get? m.handle).isSome = true) (ran : (recordSuccess (some m) increase).Returns g x g') :
    ∃ ledger, g.ledger.revise m.handle (·.recordSuccess increase) = .ok ledger ∧ g' = { g with ledger } := by
  obtain ⟨credited,g₁,crediting,last⟩ := Action.returns_bind.mp ran
  obtain ⟨ledger,revised,rfl⟩ := returns_credit registered crediting
  exact ⟨ledger,revised,(Action.returns_pure.mp last).2⟩

end Guided

namespace Mutator

/-- Around a mutator nothing touches the source. -/
theorem state_apply (m : Mutator ρ σ) (data : Bytes) (s : σ) : (m.apply data s).state = (m.mutate data s).state := by
  refine Action.state_bind_of_still (fun outcome s' => ?_) s
  rcases outcome with e | _ | out
  · dsimp only
    split <;> rfl
  · rfl
  · rfl

/-- Only the refusal of an argument gets past the boundary of a mutator. -/
theorem result_of_apply_error {m : Mutator ρ σ} {data : Bytes} {s : σ} {e : Failure ρ}
    (failed : (m.apply data s).result = .error e) :
    ∃ why, e = .refused why ∧ (m.mutate data s).result = .error (.refused why) := by
  rcases ran : m.mutate data s with ⟨outcome,s',noted⟩
  have attempted : (m.mutate data).attempt s = ⟨.ok outcome,s',noted⟩ := by
    simp only [Action.attempt,ran]
  rw [apply,Action.bind_apply_ok attempted] at failed
  rcases outcome with e' | _ | out
  · cases e' with
    | refused why =>
      cases failed
      exact ⟨why,rfl,rfl⟩
    | _ => cases failed
  · cases failed
  · cases failed

end Mutator

namespace Draw

variable [Source ρ σ] {sound : σ → Prop}

/-- A sound source gives a member of every list that has one, of whatever kind the list is. -/
theorem exists_chooseFrom (answers : Answering ρ sound) {α : Type} {xs : List α} (filled : xs ≠ []) {s : σ}
    (good : sound s) :
    ∃ x ∈ xs, ∃ s', sound s' ∧ ∀ kind, (chooseFrom kind xs : Action ρ σ α) s = ⟨.ok x,s',[]⟩ := by
  obtain ⟨n,s',drawn,least,most,good'⟩ := answers.place xs.length s good (List.length_pos_iff.mpr filled)
  have inside : n.toNat < xs.length := by omega
  refine ⟨xs[n.toNat],List.getElem_mem inside,s',good',fun kind => ?_⟩
  rw [chooseFrom,Action.bind_apply_ok (ask_apply answers good .choice drawn)]
  simp only [member,List.getElem?_eq_getElem inside]
  rfl

/-- Mutates a buffer with one of some mutators, drawn with equal chances. -/
def mutation (mutators : List (Mutator ρ σ)) (data : Bytes) : Action ρ σ Bytes := do
  let m ← choose mutators
  m.apply data

/-- Stacks mutations on a seed. -/
def mutations (mutators : List (Mutator ρ σ)) (seed : Option Bytes) (k : Nat) : Action ρ σ Bytes :=
  match seed with
  | none => pure []
  | some data => if mutators.isEmpty then pure data else times k (mutation mutators) data

end Draw

namespace Uniform

variable [Source ρ σ] {mutators : List (Mutator ρ σ)}

theorem mutate_whole [Quantity ρ] (data : Bytes) (k : Nat) :
    (mutate (some data) (.whole k) : Action ρ (Uniform ρ σ) Bytes) = (do
      let u ← .state
      if u.mutators.isEmpty then pure data else Draw.times k step data) := by
  have times : (Document.times? (.whole (k : Int)) : Except (Failure ρ) Nat) = .ok k := rfl
  have sign : (Document.isAtMostZero? (.whole (k : Int)) : Except (Failure ρ) Bool) = .ok (decide ((k : Int) ≤ 0)) :=
    rfl
  simp only [mutate,sign,times,Action.ofExcept_ok,pure_bind]
  refine bind_congr fun u => ?_
  cases k with
  | zero => simp [Draw.times]
  | succ k =>
    have positive : decide (((k + 1 : Nat) : Int) ≤ 0) = false := decide_eq_false (by omega)
    rw [positive,Bool.false_or]

end Uniform

namespace Ledger

theorem allBelow_eq_false {l : Ledger ρ σ} {threshold : Int} :
    l.allBelow threshold = false ↔ ∃ slot ∈ l, threshold ≤ slot.stats.executions := by
  simp only [allBelow,List.all_eq_false,decide_eq_true_eq,Int.not_lt]

/-- What a call that is not a reset may do to a ledger. -/
inductive Change [Quantity ρ] : Ledger ρ σ → Ledger ρ σ → Prop where
  | same (l : Ledger ρ σ) : Change l l
  | register (m : Mutator ρ σ) (l : Ledger ρ σ) : Change l (l.register m)
  | record {l l' : Ledger ρ σ} {handle : Nat} {discovered crashed : Bool} {latency : Option ρ} :
    l.revise handle (·.record discovered crashed latency) = .ok l' → Change l l'
  | success {l l' : Ledger ρ σ} {handle : Nat} {increase : Option ρ} :
    l.revise handle (·.recordSuccess increase) = .ok l' → Change l l'

end Ledger

namespace Guided

/-- Two engines with one policy and one ledger. -/
def Alike (g g' : Guided ρ σ) : Prop := g'.policy = g.policy ∧ g'.ledger = g.ledger

theorem Alike.refl (g : Guided ρ σ) : g.Alike g := ⟨rfl,rfl⟩

variable [Quantity ρ]

/-- One mutation, with any way to select its mutator. -/
def stepBy (pick : Action ρ (Guided ρ σ) (Mutator ρ σ)) (data : Bytes) : Action ρ (Guided ρ σ) Bytes := do
  let m ← pick
  let out ← onSource (m.apply data)
  .update fun g => { g with last := some m }
  pure out

/-- Stacks mutations on a seed, with any way to select their mutators. -/
def mutateBy (pick : Action ρ (Guided ρ σ) (Mutator ρ σ)) (seed : Option Bytes) (count : Document ρ) :
    Action ρ (Guided ρ σ) Bytes := do
  .update fun g => { g with last := none }
  match seed with
  | none => pure []
  | some data => do
    let count : Document ρ := if count matches .null then .whole 1 else count
    if ← .ofExcept count.isNegative? then .refuse (.negativeMutationCount count)
    else do
      let g ← .state
      if g.ledger.isEmpty then pure data else Draw.times (← .ofExcept count.times?) (stepBy pick) data

theorem mutateBy_select [Source ρ σ] (seed : Option Bytes) (count : Document ρ) :
    mutateBy select seed count = (mutate seed count : Action ρ (Guided ρ σ) Bytes) := rfl

section

variable {g : Guided ρ σ} {pick pick' : Action ρ (Guided ρ σ) (Mutator ρ σ)}

omit [Quantity ρ] in
private theorem mirrors_onSource {α : Type} (g : Guided ρ σ) (a : Action ρ σ α) :
    Action.Mirrors g.Alike id (onSource a) (onSource a) := by
  refine Action.Mirrors.focused ?_ a
  intro g' alike s
  exact alike

omit [Quantity ρ] in
private theorem mirrors_stepBy (picks : Action.Mirrors g.Alike id pick pick') (data : Bytes) :
    Action.Mirrors g.Alike id (stepBy pick data) (stepBy pick' data) := by
  refine picks.bind fun m _ _ _ _ => ?_
  refine (mirrors_onSource g (m.apply data)).bind fun out _ _ _ _ => ?_
  refine Action.Mirrors.bind (.update (fun _ _ => rfl) fun g' alike => alike) fun _ _ _ _ _ => ?_
  exact .pure out

/-- Where two ways to select do the same and leave the ledger as it is, so do the mutations with them. -/
theorem mirrors_mutateBy (picks : Action.Mirrors g.Alike id pick pick') (seed : Option Bytes) (count : Document ρ) :
    Action.Mirrors g.Alike id (mutateBy pick seed count) (mutateBy pick' seed count) := by
  refine Action.Mirrors.bind (.update (fun _ _ => rfl) fun g' alike => alike) fun _ _ _ _ _ => ?_
  cases seed with
  | none => exact .pure []
  | some data =>
    refine (Action.Mirrors.ofExcept _).bind fun negative _ _ _ _ => ?_
    cases negative with
    | true => exact .fail _
    | false =>
      refine .state_bind fun g' _ => ?_
      simp only [id_eq]
      by_cases empty : g'.ledger.isEmpty = true
      · simp only [empty,if_true]
        exact .pure data
      · simp only [empty]
        exact (Action.Mirrors.ofExcept _).bind fun n _ _ _ _ => .times (mirrors_stepBy picks) n data

end

/-- The selection that does not ask how often mutators were executed: a fraction is drawn, and decides. -/
def roulette [Source ρ σ] : Action ρ (Guided ρ σ) (Mutator ρ σ) := do
  let g ← .state
  match g.ledger.mutators.getLast? with
  | none => .fail .noMutators
  | some fallback => do
    let fraction ← onSource Draw.fraction
    pure (g.spin fallback fraction)

/-- Once a mutator has reached the threshold, the roulette decides. -/
theorem select_eq_roulette [Source ρ σ] {g : Guided ρ σ} (settled : g.ledger.allBelow g.policy.threshold = false) :
    select g = roulette g := by
  rw [select,roulette,Action.state_bind_apply,Action.state_bind_apply,settled]
  rfl

/-- To select leaves the policy and the ledger as they are. -/
theorem mirrors_select [Source ρ σ] (g : Guided ρ σ) :
    Action.Mirrors g.Alike id (select : Action ρ (Guided ρ σ) (Mutator ρ σ)) select := by
  refine .state_bind fun g' _ => ?_
  simp only [id_eq]
  split
  · exact .fail _
  · split
    · exact mirrors_onSource g _
    · refine (mirrors_onSource g Draw.fraction).bind fun fraction _ _ _ _ => ?_
      exact .pure _

/-- A call that changes an engine. -/
inductive Operation (ρ σ : Type) where
  | register (m : Option (Mutator ρ σ))
  | select
  | mutate (seed : Option Bytes) (count : Document ρ)
  | feedback (m : Option (Mutator ρ σ)) (discovered crashed : Bool) (latency : Option ρ)
  | success (m : Option (Mutator ρ σ)) (increase : Option ρ)
  | reset

namespace Operation

variable [Source ρ σ]

/-- Makes the call. -/
def perform : Operation ρ σ → Action ρ (Guided ρ σ) Unit
  | register m => Guided.register m
  | select => do
    let _ ← Guided.select
    pure ()
  | mutate seed count => do
    let _ ← Guided.mutate seed count
    pure ()
  | feedback m discovered crashed latency => recordFeedback m discovered crashed latency
  | success m increase => recordSuccess m increase
  | reset => resetStatistics

/-- The engine after the call, whether it succeeds or not. -/
def next (g : Guided ρ σ) (op : Operation ρ σ) : Guided ρ σ := (op.perform g).state

end Operation

omit [Quantity ρ] in
/-- To credit a mutator changes the ledger at most, and the ledger only if the change is accepted. -/
theorem state_credit (g : Guided ρ σ) (m : Option (Mutator ρ σ))
    (change : Statistics ρ → Except (Failure ρ) (Statistics ρ)) :
    (credit m change g).state = g ∨
      ∃ handle l, g.ledger.revise handle change = .ok l ∧ (credit m change g).state = { g with ledger := l } := by
  cases m with
  | none => exact .inl rfl
  | some m =>
    rw [credit,Action.state_bind_apply]
    cases g.ledger.get? m.handle with
    | none => exact .inl rfl
    | some _ =>
      cases revised : g.ledger.revise m.handle change with
      | error e => exact .inl rfl
      | ok l => exact .inr ⟨m.handle,l,revised,rfl⟩

theorem state_recordFeedback (g : Guided ρ σ) (m : Option (Mutator ρ σ)) (discovered crashed : Bool)
    (latency : Option ρ) :
    (recordFeedback m discovered crashed latency g).state =
      (credit m (·.record discovered crashed latency) g).state := by
  refine Action.state_bind_of_still (fun credited g' => ?_) g
  cases credited with
  | none => rfl
  | some _ => cases crashed <;> rfl

theorem state_recordSuccess (g : Guided ρ σ) (m : Option (Mutator ρ σ)) (increase : Option ρ) :
    (recordSuccess m increase g).state = (credit m (·.recordSuccess increase) g).state :=
  Action.state_bind_of_still (fun _ _ => rfl) g

variable [Source ρ σ]

theorem alike_next_select (g : Guided ρ σ) : g.Alike (Operation.select.next g) := by
  rw [Operation.next,Operation.perform,Action.state_bind_of_still fun _ _ => rfl]
  exact (mirrors_select g g (.refl g)).2

theorem alike_next_mutate (g : Guided ρ σ) (seed : Option Bytes) (count : Document ρ) :
    g.Alike ((Operation.mutate seed count).next g) := by
  rw [Operation.next,Operation.perform,Action.state_bind_of_still fun _ _ => rfl,← mutateBy_select]
  exact (mirrors_mutateBy (mirrors_select g) seed count g (.refl g)).2

/-- A call that is not a reset leaves the policy as it is, and changes the ledger in one of a few ways. -/
theorem change_next (g : Guided ρ σ) {op : Operation ρ σ} (kept : op ≠ .reset) :
    (op.next g).policy = g.policy ∧ g.ledger.Change (op.next g).ledger := by
  have unchanged {g' : Guided ρ σ} (alike : g.Alike g') : g'.policy = g.policy ∧ g.ledger.Change g'.ledger :=
    ⟨alike.1,alike.2 ▸ .same _⟩
  cases op with
  | register m =>
    cases m with
    | none => exact unchanged (.refl g)
    | some m => exact ⟨rfl,.register m _⟩
  | select => exact unchanged (alike_next_select g)
  | mutate seed count => exact unchanged (alike_next_mutate g seed count)
  | feedback m discovered crashed latency =>
    rw [Operation.next,Operation.perform,state_recordFeedback]
    obtain still | ⟨handle,l,revised,changed⟩ := state_credit g m (·.record discovered crashed latency)
    · rw [still]
      exact unchanged (.refl g)
    · rw [changed]
      exact ⟨rfl,.record revised⟩
  | success m increase =>
    rw [Operation.next,Operation.perform,state_recordSuccess]
    obtain still | ⟨handle,l,revised,changed⟩ := state_credit g m (·.recordSuccess increase)
    · rw [still]
      exact unchanged (.refl g)
    · rw [changed]
      exact ⟨rfl,.success revised⟩
  | reset => exact absurd rfl kept

omit [Source ρ σ] in
private theorem mirrors_registerAll (inv : Guided ρ σ → Prop)
    (kept : ∀ g, inv g → ∀ m, inv { g with ledger := g.ledger.register m }) (mutators : List (Option (Mutator ρ σ))) :
    Action.Mirrors inv id (registerAll mutators) (registerAll mutators) := by
  induction mutators with
  | nil => exact .pure ()
  | cons m rest ih =>
    refine Action.Mirrors.bind (fun g holds => ?_) fun _ _ _ _ _ => ih
    cases m with
    | none => exact ⟨rfl,holds⟩
    | some m => exact ⟨rfl,kept g holds m⟩

/-- An engine that calls lead to: a new one, or one after a call, whether that succeeded or not. -/
inductive Reachable : Guided ρ σ → Prop where
  | create {source : σ} {mutators : List (Option (Mutator ρ σ))} {policy : SelectionPolicy ρ} {g : Guided ρ σ}
    {events : List (Event ρ)} : create source mutators policy = ⟨.ok (),g,events⟩ → Reachable g
  | next {g : Guided ρ σ} (op : Operation ρ σ) : Reachable g → Reachable (op.next g)

/-- What the empty ledger has, and no change and no reset takes away, every ledger has that calls lead to. -/
theorem Reachable.ledger {holds : Ledger ρ σ → Prop} {g : Guided ρ σ} (reached : g.Reachable) (empty : holds [])
    (change : ∀ {l l' : Ledger ρ σ}, l.Change l' → holds l → holds l')
    (reset : ∀ {l : Ledger ρ σ}, holds l → holds l.reset) : holds g.ledger := by
  induction reached with
  | @create source mutators policy g events made =>
    rw [Guided.create] at made
    split at made
    · cases made
    · -- A new engine is an empty one after registrations, and those are changes as later ones are.
      have registered := mirrors_registerAll (fun g : Guided ρ σ => holds g.ledger)
        (fun g before m => change (.register m g.ledger) before) mutators ⟨source,policy,[],none⟩ empty
      rw [made] at registered
      exact registered.2
  | @next g op _ before =>
    by_cases kept : op = .reset
    · rw [kept]
      exact reset before
    · exact change (change_next g kept).2 before

end Guided

end Fuzzing

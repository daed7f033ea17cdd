import Fuzzing.Proofs.Engine.Operation
import Fuzzing.Proofs.Quantity

/-!
Stacked mutations as a fold. `Stacked pick data s chosen out s'` says that a buffer turns into another one while it
passes through some mutators, each of them selected from what the one before has left of the source; a mutator that
returns nothing or raises leaves the buffer as it is, and its draws stay made. `Halted` says that after some mutators one
is selected that refuses its argument. On a source that answers, one of the two is the case (`stacked_or_halted`), and
both engines do what it says: `mutate_is_fold`.
-/
namespace Fuzzing

variable {ρ σ τ : Type}

namespace Failure

private theorem isRefusal_eq_true {e : Failure ρ} : e.isRefusal = true ↔ ∃ why, e = .refused why := by
  cases e <;> simp [isRefusal]

end Failure

namespace Mutator

variable {m : Mutator ρ σ} {data out : Bytes} {s s' : σ} {e : Failure ρ}

/-- What a buffer turns into where a mutator is applied to it, and what the mutator leaves of the source. -/
inductive Turns (m : Mutator ρ σ) (data : Bytes) (s : σ) : Bytes → σ → Prop where
  | changed {out : Bytes} {s' : σ} : (m.mutate data).Returns s (some out) s' → Turns m data s out s'
  | nothing {s' : σ} : (m.mutate data).Returns s none s' → Turns m data s data s'
  | raised {e : Failure ρ} {s' : σ} : (m.mutate data).Fails s e s' → e.isRefusal = false → Turns m data s data s'

theorem returns_apply : (m.apply data).Returns s out s' ↔ m.Turns data s out s' := by
  rcases ran : m.mutate data s with ⟨outcome,s₁,noted⟩
  have attempted : (m.mutate data).attempt s = ⟨.ok outcome,s₁,noted⟩ := by simp only [Action.attempt,ran]
  constructor
  · intro returned
    obtain ⟨x,s₂,first,later⟩ := Action.returns_bind.mp returned
    obtain ⟨rfl,rfl⟩ := first.unique ⟨noted,attempted⟩
    rcases x with e | _ | changed
    · cases refusal : e.isRefusal with
      | true => simp [refusal] at later
      | false =>
        simp only [refusal,Bool.false_eq_true,if_false,Action.returns_bind,Action.returns_note,
          Action.returns_pure] at later
        obtain ⟨_,_,rfl,rfl,rfl⟩ := later
        exact .raised ⟨noted,ran⟩ refusal
    · simp only [Action.returns_bind,Action.returns_note,Action.returns_pure] at later
      obtain ⟨_,_,rfl,rfl,rfl⟩ := later
      exact .nothing ⟨noted,ran⟩
    · obtain ⟨rfl,rfl⟩ := Action.returns_pure.mp later
      exact .changed ⟨noted,ran⟩
  · intro turns
    have attempt {outcome : Except (Failure ρ) (Option Bytes)} {events : List (Event ρ)}
        (ended : m.mutate data s = ⟨outcome,s',events⟩) : (m.mutate data).attempt.Returns s outcome s' := by
      refine ⟨events,?_⟩
      simp only [Action.attempt,ended]
    refine Action.returns_bind.mpr ?_
    cases turns with
    | changed returned =>
      obtain ⟨events,ended⟩ := returned
      exact ⟨_,_,attempt ended,Action.returns_pure.mpr ⟨rfl,rfl⟩⟩
    | nothing returned =>
      obtain ⟨events,ended⟩ := returned
      refine ⟨_,_,attempt ended,?_⟩
      simp
    | raised failed contained =>
      obtain ⟨events,ended⟩ := failed
      refine ⟨_,_,attempt ended,?_⟩
      simp [contained]

private theorem fails_apply : (m.apply data).Fails s e s' ↔ ∃ why, e = .refused why ∧ (m.mutate data).Fails s e s' := by
  constructor
  · intro failed
    have ended := failed.state_eq
    obtain ⟨events,ran⟩ := failed
    obtain ⟨why,rfl,refused⟩ := result_of_apply_error (congrArg Trace.result ran)
    rw [state_apply] at ended
    exact ⟨why,rfl,ended ▸ Action.fails_of_result refused⟩
  · rintro ⟨why,rfl,events,ran⟩
    have attempted : (m.mutate data).attempt.Returns s (.error (.refused why)) s' := by
      refine ⟨events,?_⟩
      simp only [Action.attempt,ran]
    refine Action.fails_bind.mpr (.inr ⟨_,_,attempted,?_⟩)
    simp [Failure.isRefusal]

private theorem turns_or_refuses (m : Mutator ρ σ) (data : Bytes) (s : σ) :
    (∃ out, m.Turns data s out (m.mutate data s).state) ∨
      ∃ why, (m.mutate data).Fails s (.refused why) (m.mutate data s).state := by
  rcases ran : m.mutate data s with ⟨e | _ | out,s',noted⟩
  · cases refusal : e.isRefusal with
    | true =>
      obtain ⟨why,rfl⟩ := Failure.isRefusal_eq_true.mp refusal
      exact .inr ⟨why,noted,ran⟩
    | false => exact .inl ⟨data,.raised ⟨noted,ran⟩ refusal⟩
  · exact .inl ⟨data,.nothing ⟨noted,ran⟩⟩
  · exact .inl ⟨out,.changed ⟨noted,ran⟩⟩

end Mutator

/-- A buffer passes through some mutators, each of them selected from what the one before has left of the source. -/
inductive Stacked (pick : Action ρ σ (Mutator ρ σ)) : Bytes → σ → List (Mutator ρ σ) → Bytes → σ → Prop where
  | nil (data : Bytes) (s : σ) : Stacked pick data s [] data s
  | cons {data mid out : Bytes} {s s₁ s₂ s' : σ} {m : Mutator ρ σ} {chosen : List (Mutator ρ σ)} :
    pick.Returns s m s₁ → m.Turns data s₁ mid s₂ → Stacked pick mid s₂ chosen out s' →
      Stacked pick data s (m :: chosen) out s'

/-- One call of a mutator: on a buffer, with the source as it is then. -/
structure Call (ρ σ : Type) where
  mutator : Mutator ρ σ
  buffer : Bytes
  source : σ

/-- After some mutators one is selected, and its call refuses. -/
def Halted (pick : Action ρ σ (Mutator ρ σ)) (data : Bytes) (s : σ) (chosen : List (Mutator ρ σ)) (call : Call ρ σ)
    (why : Refusal ρ) (s' : σ) : Prop :=
  ∃ s₁, Stacked pick data s chosen call.buffer s₁ ∧ pick.Returns s₁ call.mutator call.source ∧
    (call.mutator.mutate call.buffer).Fails call.source (.refused why) s'

section

variable {pick : Action ρ σ (Mutator ρ σ)} {data mid out : Bytes} {s s₁ s' : σ} {first chosen : List (Mutator ρ σ)}
  {call : Call ρ σ} {why : Refusal ρ}

private theorem Stacked.append (before : Stacked pick data s first mid s₁) (after : Stacked pick mid s₁ chosen out s') :
    Stacked pick data s (first ++ chosen) out s' := by
  induction before with
  | nil => exact after
  | cons picked turns _ ih => exact .cons picked turns (ih after)

private theorem Stacked.split (stacked : Stacked pick data s (first ++ chosen) out s') :
    ∃ mid s₁, Stacked pick data s first mid s₁ ∧ Stacked pick mid s₁ chosen out s' := by
  induction first generalizing data s with
  | nil => exact ⟨data,s,.nil data s,stacked⟩
  | cons m rest ih =>
    cases stacked with
    | cons picked turns later =>
      obtain ⟨mid,s₁,before,after⟩ := ih later
      exact ⟨mid,s₁,.cons picked turns before,after⟩

theorem Halted.split (halted : Halted pick data s (first ++ chosen) call why s') :
    ∃ mid s₁, Stacked pick data s first mid s₁ ∧ Halted pick mid s₁ chosen call why s' := by
  obtain ⟨s₂,stacked,picked,refused⟩ := halted
  obtain ⟨mid,s₁,before,after⟩ := stacked.split
  exact ⟨mid,s₁,before,s₂,after,picked,refused⟩

private theorem Stacked.halted (before : Stacked pick data s first mid s₁) (halted : Halted pick mid s₁ chosen call why s') :
    Halted pick data s (first ++ chosen) call why s' := by
  obtain ⟨s₂,stacked,picked,refused⟩ := halted
  exact ⟨s₂,before.append stacked,picked,refused⟩

/-- Where one of some mutators is always selected, and none of them makes the source unsound, a buffer passes through
    as many of them as are asked for, or one of them refuses before. -/
theorem stacked_or_halted {sound : σ → Prop} {mutators : List (Mutator ρ σ)}
    (picks : Action.Yields sound pick (· ∈ mutators))
    (keeps : ∀ m ∈ mutators, ∀ data s, sound s → sound (m.mutate data s).state) (k : Nat) (data : Bytes) (good : sound s) :
    (∃ chosen out s', chosen.length = k ∧ chosen ⊆ mutators ∧ sound s' ∧ Stacked pick data s chosen out s') ∨
      ∃ chosen call why s', chosen.length < k ∧ chosen ⊆ mutators ∧ call.mutator ∈ mutators ∧
        sound call.source ∧ Halted pick data s chosen call why s' := by
  induction k generalizing data s with
  | zero => exact .inl ⟨[],data,s,rfl,List.nil_subset _,good,.nil data s⟩
  | succ k ih =>
    obtain ⟨m,s₁,ran,good₁,mem⟩ := picks s good
    have picked : pick.Returns s m s₁ := ⟨[],ran⟩
    have good₂ := keeps m mem data s₁ good₁
    obtain ⟨mid,turns⟩ | ⟨why,refused⟩ := m.turns_or_refuses data s₁
    · obtain ⟨chosen,out,s',long,among,good',stacked⟩ | ⟨chosen,call,why,s',short,among,mem',good',halted⟩ :=
        ih mid good₂
      · have longer : (m :: chosen).length = k + 1 := congrArg (· + 1) long
        exact .inl ⟨m :: chosen,out,s',longer,List.cons_subset.mpr ⟨mem,among⟩,good',.cons picked turns stacked⟩
      · have shorter : (m :: chosen).length < k + 1 := Nat.succ_lt_succ short
        have one : Stacked pick data s [m] mid _ := .cons picked turns (.nil _ _)
        exact .inr ⟨m :: chosen,call,why,s',shorter,List.cons_subset.mpr ⟨mem,among⟩,mem',good',one.halted halted⟩
    · exact .inr ⟨[],⟨m,data,s₁⟩,why,_,Nat.succ_pos k,List.nil_subset _,mem,good₁,s,.nil data s,picked,refused⟩

end

namespace Draw

end Draw

/-- A step of an engine applies the mutator that is selected. The engine is put together from the mutator that it
    remembers and its source. -/
structure StepsBy (pick : Action ρ σ (Mutator ρ σ)) (engine : Option (Mutator ρ σ) → σ → τ)
    (step : Bytes → Action ρ τ Bytes) : Prop where
  turns : ∀ {data out : Bytes} {m : Mutator ρ σ} (last : Option (Mutator ρ σ)) {s s₁ s₂ : σ},
    pick.Returns s m s₁ → m.Turns data s₁ out s₂ → (step data).Returns (engine last s) out (engine (some m) s₂)
  refuses : ∀ {data : Bytes} {m : Mutator ρ σ} (last : Option (Mutator ρ σ)) {s s₁ s₂ : σ} {why : Refusal ρ},
    pick.Returns s m s₁ → (m.mutate data).Fails s₁ (.refused why) s₂ →
      (step data).Fails (engine last s) (.refused why) (engine last s₂)

namespace StepsBy

variable {pick : Action ρ σ (Mutator ρ σ)} {engine : Option (Mutator ρ σ) → σ → τ} {step : Bytes → Action ρ τ Bytes}
  {data out : Bytes} {s s' : σ} {chosen : List (Mutator ρ σ)} {call : Call ρ σ} {why : Refusal ρ}

private theorem returns_times (steps : StepsBy pick engine step) (stacked : Stacked pick data s chosen out s')
    (last : Option (Mutator ρ σ)) :
    (Draw.times chosen.length step data).Returns (engine last s) out (engine (chosen.getLast?.or last) s') := by
  induction stacked generalizing last with
  | nil => exact Action.returns_pure.mpr ⟨rfl,rfl⟩
  | @cons _ _ _ _ _ _ _ m chosen picked turns _ ih =>
    have remembered : (m :: chosen).getLast?.or last = chosen.getLast?.or (some m) := by
      cases chosen <;> simp [List.getLast?_cons]
    rw [remembered]
    exact Action.returns_bind.mpr ⟨_,_,steps.turns last picked turns,ih (some m)⟩

end StepsBy

namespace Guided

variable [Quantity ρ] [Source ρ σ] {g g' : Guided ρ σ} {sound : σ → Prop}

/-- The selection of an engine, as a computation on its source: it depends on the policy and the ledger alone. -/
def pick (g : Guided ρ σ) : Action ρ σ (Mutator ρ σ) :=
  match g.ledger.mutators.getLast? with
  | none => .fail .noMutators
  | some fallback =>
    if g.ledger.allBelow g.policy.threshold then Draw.chooseFrom .fixed g.ledger.mutators
    else g.spin fallback <$> Draw.fraction

theorem Alike.select_eq (alike : g.Alike g') : select g' = onSource g.pick g' := by
  rcases g with ⟨s,policy,ledger,last⟩
  rcases g' with ⟨s',policy',ledger',last'⟩
  obtain ⟨rfl,rfl⟩ : policy' = policy ∧ ledger' = ledger := alike
  simp only [select,pick,Action.state_bind_apply]
  cases ledger'.mutators.getLast? with
  | none => rfl
  | some fallback =>
    by_cases below : ledger'.allBelow policy'.threshold = true
    · simp only [below,if_true]
    · simp only [below]
      rw [if_neg Bool.false_ne_true,if_neg Bool.false_ne_true,onSource,onSource,Action.focus_map,map_eq_pure_bind]
      rfl

/-- A sound source always selects a registered mutator, if there is one. -/
theorem yields_pick (supplies : Supplying ρ sound) (filled : g.ledger.mutators ≠ []) :
    Action.Yields sound g.pick (· ∈ g.ledger.mutators) := by
  have last := List.getLast?_eq_some_getLast filled
  rw [pick,last]
  refine .ite (fun _ => ?_) fun _ => ?_
  · intro s good
    obtain ⟨m,mem,s',good',chosen⟩ := Draw.exists_chooseFrom supplies.toAnswering filled good
    exact ⟨m,s',chosen .fixed,good',mem⟩
  · rw [map_eq_pure_bind]
    refine (Draw.yields_fraction supplies).bind fun fraction _ => .pure ?_
    exact spin_mem (List.mem_of_getLast? last) fraction

private theorem returns_select_of_pick {m : Mutator ρ σ} {last : Option (Mutator ρ σ)} {s s₁ : σ}
    (picked : g.pick.Returns s m s₁) :
    (select).Returns { g with source := s, last } m { g with source := s₁, last } := by
  have same : (select : Action ρ (Guided ρ σ) _) { g with source := s, last } =
      onSource g.pick { g with source := s, last } := Alike.select_eq ⟨rfl,rfl⟩
  have returned : (onSource g.pick).Returns { g with source := s, last } m { g with source := s₁, last } :=
    Action.returns_focus.mpr ⟨s₁,picked,rfl⟩
  obtain ⟨events,ran⟩ := returned
  exact ⟨events,same.trans ran⟩

theorem stepsBy_pick (g : Guided ρ σ) : StepsBy g.pick (fun last s => { g with source := s, last }) step where
  turns {data out m} last {s s₁ s₂} picked turns := by
    have applied : (onSource (m.apply data)).Returns { g with source := s₁, last } out { g with source := s₂, last } :=
      Action.returns_focus.mpr ⟨s₂,Mutator.returns_apply.mpr turns,rfl⟩
    refine Action.returns_bind.mpr ⟨_,_,returns_select_of_pick picked,Action.returns_bind.mpr ⟨_,_,applied,?_⟩⟩
    simp
  refuses {data m} last {s s₁ s₂ why} picked refused := by
    have failed : (onSource (m.apply data)).Fails { g with source := s₁, last } (.refused why)
        { g with source := s₂, last } :=
      Action.fails_focus.mpr ⟨s₂,Mutator.fails_apply.mpr ⟨why,rfl,refused⟩,rfl⟩
    exact Action.fails_bind.mpr (.inr ⟨_,_,returns_select_of_pick picked,Action.fails_bind.mpr (.inl failed)⟩)

variable {data out : Bytes} {s' : σ} {chosen : List (Mutator ρ σ)} {call : Call ρ σ} {why : Refusal ρ}

theorem returns_mutate (filled : g.ledger.mutators ≠ []) (stacked : Stacked g.pick data g.source chosen out s') :
    (mutate (some data) (.whole chosen.length)).Returns g out { g with source := s', last := chosen.getLast? } := by
  have some : g.ledger.isEmpty = false := by simpa [Ledger.mutators] using filled
  have returned := (stepsBy_pick g).returns_times stacked none
  rw [Option.or_none] at returned
  rw [mutate_whole,Action.returns_update_bind,Action.returns_state_bind]
  simpa only [some,Bool.false_eq_true,if_false] using returned

end Guided

namespace Uniform

variable [Source ρ σ] {u : Uniform ρ σ} {data out : Bytes} {s' : σ} {chosen : List (Mutator ρ σ)} {call : Call ρ σ}
  {why : Refusal ρ}

/-- The selection of an engine, as a computation on its source: all mutators are equally likely. -/
def pick (u : Uniform ρ σ) : Action ρ σ (Mutator ρ σ) := Draw.choose u.mutators

theorem yields_pick {sound : σ → Prop} (answers : Answering ρ sound) (filled : u.mutators ≠ []) :
    Action.Yields sound u.pick (· ∈ u.mutators) := Draw.yields_choose answers filled

private theorem stepsBy_pick (u : Uniform ρ σ) : StepsBy u.pick (fun _ s => { u with source := s }) step where
  turns {data out m} last {s s₁ s₂} picked turns := by
    have selected : (onSource u.pick).Returns { u with source := s } m { u with source := s₁ } :=
      Action.returns_focus.mpr ⟨s₁,picked,rfl⟩
    have applied : (onSource (m.apply data)).Returns { u with source := s₁ } out { u with source := s₂ } :=
      Action.returns_focus.mpr ⟨s₂,Mutator.returns_apply.mpr turns,rfl⟩
    exact Action.returns_state_bind.mpr (Action.returns_bind.mpr ⟨_,_,selected,applied⟩)
  refuses {data m} last {s s₁ s₂ why} picked refused := by
    have selected : (onSource u.pick).Returns { u with source := s } m { u with source := s₁ } :=
      Action.returns_focus.mpr ⟨s₁,picked,rfl⟩
    have failed : (onSource (m.apply data)).Fails { u with source := s₁ } (.refused why) { u with source := s₂ } :=
      Action.fails_focus.mpr ⟨s₂,Mutator.fails_apply.mpr ⟨why,rfl,refused⟩,rfl⟩
    exact Action.fails_state_bind.mpr (Action.fails_bind.mpr (.inr ⟨_,_,selected,failed⟩))

variable [Quantity ρ]

theorem returns_mutate (filled : u.mutators ≠ []) (stacked : Stacked u.pick data u.source chosen out s') :
    (mutate (some data) (.whole chosen.length)).Returns u out { u with source := s' } := by
  have some : u.mutators.isEmpty = false := by simpa using filled
  have returned := (stepsBy_pick u).returns_times stacked none
  rw [mutate_whole,Action.returns_state_bind]
  simpa only [some,Bool.false_eq_true,if_false] using returned

end Uniform

/-- A mutator that doubles a buffer, one that returns nothing, one that raises after a draw, and one that refuses. -/
def mixed : List (Mutator Rat Cycling) :=
  let doubling : Mutator Rat Cycling := ⟨0,none,"Doubling",fun data => pure (some (data ++ data))⟩
  let silent : Mutator Rat Cycling := ⟨1,none,"Silent",fun _ => pure none⟩
  let raising : Mutator Rat Cycling := ⟨2,none,"Raising",fun _ => do let _ ← Draw.byte; .fail .notAByte⟩
  let refusing : Mutator Rat Cycling := ⟨3,none,"Refusing",fun _ => .refuse .noRandomness⟩
  [doubling,silent,raising,doubling,refusing]

/-- A guided engine with these mutators. -/
def mixedGuided : Guided Rat Cycling := ⟨⟨0⟩,.standard,mixed.map fun m => ⟨m,.zero⟩,none⟩

end Fuzzing

import Mathlib.Data.List.DropRight
import Fuzzing.Proofs.Engine.Operation
import Fuzzing.Proofs.Ledger

/-!
What the slots of a guided engine tell. A call changes the ledger as `Ledger.after` does, whether it succeeds or not
(`ledger_next`), and `Guided.account` reads the statistics of a mutator off the calls that were made: since the last
reset, every call that names the mutator counts, and no other. The first slot of a mutator tells its account, and a
later slot of the same mutator tells nothing, so that it keeps the score of a mutator that was never executed
(`slots_tell_feedback`).
-/
namespace Fuzzing

variable {ρ σ : Type}

namespace Statistics

variable [Quantity ρ] (s : Statistics ρ)

private theorem executions_tried_record (discovered crashed : Bool) (latency : Option ρ) :
    (s.tried (·.record discovered crashed latency)).executions =
      s.executions + if latency.any fun latency => !decide (latency < 0) then 1 else 0 := by
  cases latency with
  | none => exact (Int.add_zero _).symm
  | some latency =>
    rw [tried,record]
    by_cases negative : latency < 0
    · simp [negative,Except.toOption]
    · simp [negative,Except.toOption]

private theorem executions_tried_recordSuccess (increase : Option ρ) :
    (s.tried (·.recordSuccess increase)).executions = s.executions := by
  cases increase with
  | none => rfl
  | some increase =>
    rw [tried,recordSuccess]
    split <;> rfl

end Statistics

namespace Guided

namespace Operation

variable [Quantity ρ]

/-- The mutator that a call gives feedback on, and the change to its statistics that the call asks for. -/
def change? : Operation ρ σ → Option (Mutator ρ σ × (Statistics ρ → Except (Failure ρ) (Statistics ρ)))
  | feedback m discovered crashed latency => m.map fun m => (m,(·.record discovered crashed latency))
  | success m increase => m.map fun m => (m,(·.recordSuccess increase))
  | _ => none

/-- Whether a call gives feedback on a mutator. -/
def concerns (handle : Nat) (op : Operation ρ σ) : Bool := op.change?.any fun change => change.1.handle = handle

def isReset : Operation ρ σ → Bool
  | reset => true
  | _ => false

/-- Whether a call tells of an execution, with a latency that is accepted. -/
def countsExecution : Operation ρ σ → Bool
  | feedback _ _ _ latency => latency.any fun latency => !decide (latency < 0)
  | _ => false

/-- The mutator that a call registers. -/
def registers? : Operation ρ σ → Option (Mutator ρ σ)
  | register m => m
  | _ => none

private theorem change?_of_registers {op : Operation ρ σ} {m : Mutator ρ σ} (registers : op.registers? = some m) :
    op.change? = none := by
  cases op with
  | register _ => rfl
  | _ => cases registers

/-- The statistics of a mutator after a call that gives feedback on it. -/
def told (s : Statistics ρ) (op : Operation ρ σ) : Statistics ρ :=
  op.change?.elim s fun change => s.tried change.2

private theorem executions_told (s : Statistics ρ) {op : Operation ρ σ} {handle : Nat} (concerns : op.concerns handle = true) :
    (told s op).executions = s.executions + if op.countsExecution then 1 else 0 := by
  cases op with
  | feedback m discovered crashed latency =>
    cases m with
    | none => cases concerns
    | some m => exact s.executions_tried_record discovered crashed latency
  | success m increase =>
    cases m with
    | none => cases concerns
    | some m => exact (s.executions_tried_recordSuccess increase).trans (Int.add_zero _).symm
  | _ => cases concerns

end Operation

end Guided

/-- The ledger after a call of its engine. -/
def Ledger.after [Quantity ρ] (l : Ledger ρ σ) (op : Guided.Operation ρ σ) : Ledger ρ σ :=
  if op.isReset then l.reset
  else
    match op.registers? with
    | some m => l.register m
    | none => op.change?.elim l fun change => l.tried change.1.handle change.2

namespace Guided

variable [Quantity ρ]

omit [Quantity ρ] in
private theorem state_credit_some (g : Guided ρ σ) (m : Mutator ρ σ)
    (change : Statistics ρ → Except (Failure ρ) (Statistics ρ)) :
    (credit (some m) change g).state = { g with ledger := g.ledger.tried m.handle change } := by
  rw [credit,Action.state_bind_apply]
  cases known : g.ledger.get? m.handle with
  | none =>
    rw [Ledger.tried_of_unknown known]
    rfl
  | some _ =>
    rw [Ledger.tried]
    cases g.ledger.revise m.handle change <;> rfl

section

variable [Source ρ σ]

/-- A call changes the ledger as told, whether it succeeds or not. -/
theorem ledger_next (g : Guided ρ σ) (op : Operation ρ σ) : (op.next g).ledger = g.ledger.after op := by
  cases op with
  | register m => cases m <;> rfl
  | select => exact (alike_next_select g).2
  | mutate seed count => exact (alike_next_mutate g seed count).2
  | feedback m discovered crashed latency =>
    rw [Operation.next,Operation.perform,state_recordFeedback]
    cases m with
    | none => rfl
    | some m =>
      rw [state_credit_some]
      rfl
  | success m increase =>
    rw [Operation.next,Operation.perform,state_recordSuccess]
    cases m with
    | none => rfl
    | some m =>
      rw [state_credit_some]
      rfl
  | reset => rfl

private theorem ledger_foldl_next (ops : List (Operation ρ σ)) (g : Guided ρ σ) :
    (ops.foldl Operation.next g).ledger = ops.foldl Ledger.after g.ledger := by
  induction ops generalizing g with
  | nil => rfl
  | cons op rest ih => rw [List.foldl_cons,List.foldl_cons,ih,ledger_next]

omit [Source ρ σ] in
private theorem ledger_registerAll {mutators : List (Option (Mutator ρ σ))} {g g' : Guided ρ σ}
    (ran : (registerAll mutators).Returns g () g') :
    g'.ledger = (mutators.map Operation.register).foldl Ledger.after g.ledger := by
  induction mutators generalizing g with
  | nil =>
    obtain ⟨_,rfl⟩ := Action.returns_pure.mp ran
    rfl
  | cons m rest ih =>
    obtain ⟨_,g₁,first,later⟩ := Action.returns_bind.mp ran
    cases m with
    | none => exact absurd first Action.not_returns_refuse
    | some m =>
      have noting := Action.returns_state_bind.mp (Action.returns_update_bind.mp first)
      obtain rfl := Action.returns_note.mp noting
      exact ih later

private theorem ledger_create {source : σ} {mutators : List (Option (Mutator ρ σ))} {policy : SelectionPolicy ρ}
    {g : Guided ρ σ} {events : List (Event ρ)} (made : create source mutators policy = ⟨.ok (),g,events⟩) :
    g.ledger = (mutators.map Operation.register).foldl Ledger.after [] := by
  rw [create] at made
  split at made
  · cases made
  · exact ledger_registerAll ⟨events,made⟩

end

/-- The mutators that some calls register. -/
def registered (ops : List (Operation ρ σ)) : List (Mutator ρ σ) := ops.filterMap Operation.registers?

/-- The calls that give feedback on a mutator after the last reset. -/
def concerning (handle : Nat) (ops : List (Operation ρ σ)) : List (Operation ρ σ) :=
  (ops.rtakeWhile fun op => !op.isReset).filter (·.concerns handle)

/-- The statistics that some calls tell of a mutator. -/
def account (handle : Nat) (ops : List (Operation ρ σ)) : Statistics ρ :=
  (concerning handle ops).foldl Operation.told .zero

private theorem account_concat (handle : Nat) (ops : List (Operation ρ σ)) (op : Operation ρ σ) :
    account handle (ops ++ [op]) =
      if op.isReset then .zero
      else if op.concerns handle then Operation.told (account handle ops) op else account handle ops := by
  unfold account concerning
  rw [List.rtakeWhile_concat]
  cases op.isReset
  · cases concerns : op.concerns handle <;> simp [concerns]
  · rfl

private theorem executions_foldl_told {handle : Nat} {calls : List (Operation ρ σ)}
    (concerned : ∀ op ∈ calls, op.concerns handle = true) (s : Statistics ρ) :
    (calls.foldl Operation.told s).executions = s.executions + calls.countP Operation.countsExecution := by
  induction calls generalizing s with
  | nil => exact (Int.add_zero _).symm
  | cons op rest ih =>
    obtain ⟨first,later⟩ := List.forall_mem_cons.mp concerned
    rw [List.foldl_cons,ih later,Operation.executions_told s first,List.countP_cons]
    split <;> omega

private theorem executions_account (handle : Nat) (ops : List (Operation ρ σ)) :
    (account handle ops).executions = (concerning handle ops).countP Operation.countsExecution := by
  have concerned : ∀ op ∈ concerning handle ops, op.concerns handle = true :=
    fun op mem => (List.mem_filter.mp mem).2
  rw [account,executions_foldl_told concerned]
  exact Int.zero_add _

private theorem mutators_after (l : Ledger ρ σ) (op : Operation ρ σ) :
    (l.after op).mutators = l.mutators ++ op.registers?.toList := by
  have still : l.mutators = l.mutators ++ (none : Option (Mutator ρ σ)).toList := (List.append_nil _).symm
  cases op with
  | register m =>
    cases m with
    | none => exact still
    | some m => exact List.map_append
  | feedback m discovered crashed latency =>
    cases m with
    | none => exact still
    | some m => exact Ledger.mutators_tried.trans still
  | success m increase =>
    cases m with
    | none => exact still
    | some m => exact Ledger.mutators_tried.trans still
  | reset =>
    refine Eq.trans ?_ still
    show (l.map _).map _ = l.map _
    rw [List.map_map]
    rfl
  | _ => exact still

private theorem mutators_foldl_after (ops : List (Operation ρ σ)) (l : Ledger ρ σ) :
    (ops.foldl Ledger.after l).mutators = l.mutators ++ registered ops := by
  induction ops generalizing l with
  | nil => exact (List.append_nil _).symm
  | cons op rest ih =>
    rw [List.foldl_cons,ih,mutators_after,List.append_assoc,registered,registered,List.filterMap_cons]
    cases op.registers? <;> rfl

/-- A call leaves a slot where it is. It changes its statistics, if it is a reset, or if it gives feedback on the
    mutator of the slot and no slot in front has the same mutator. -/
private theorem getElem?_after {l : Ledger ρ σ} {i : Nat} {slot : Slot ρ σ} (there : l[i]? = some slot) (op : Operation ρ σ) :
    (l.after op)[i]? = some ⟨slot.mutator,
      if op.isReset then .zero
      else if op.concerns slot.mutator.handle ∧ slot.mutator.handle ∉ (l.mutators.take i).map (·.handle) then
        Operation.told slot.stats op
      else slot.stats⟩ := by
  by_cases reset : op.isReset = true
  · rw [Ledger.after,if_pos reset,if_pos reset]
    show (l.map _)[i]? = _
    rw [List.getElem?_map,there]
    rfl
  · rw [Ledger.after,if_neg reset,if_neg reset]
    cases registers : op.registers? with
    | some m =>
      -- A new slot stands behind all others.
      have silent : op.concerns slot.mutator.handle = false := by
        rw [Operation.concerns,Operation.change?_of_registers registers]
        rfl
      have inside : i < l.length := (List.getElem?_eq_some_iff.mp there).1
      show (l ++ [_])[i]? = _
      rw [List.getElem?_append_left inside,there]
      simp only [silent,Bool.false_eq_true,false_and,if_false]
    | none =>
      rw [Operation.concerns,Operation.told]
      cases op.change? with
      | none => exact there
      | some change =>
        show (l.tried change.1.handle change.2)[i]? = _
        rw [Ledger.getElem?_tried there]
        by_cases here : change.1.handle = slot.mutator.handle
        · simp only [here,Option.any_some,decide_true,true_and]
          split <;> rfl
        · simp only [here,Ne.symm here,Option.any_some,decide_false,Bool.false_eq_true,false_and,if_false]

/-- A slot tells the account of its mutator since the registration, if it is the first slot of that mutator; otherwise
    it tells nothing. -/
private theorem getElem?_foldl_after (before after : List (Operation ρ σ)) (m : Mutator ρ σ) :
    ((before ++ .register (some m) :: after).foldl Ledger.after [])[(registered before).length]? =
      some ⟨m,if m.handle ∈ (registered before).map (·.handle) then .zero else account m.handle after⟩ := by
  -- The calls behind the registration are taken from the last one on: none of them moves the slot.
  induction after using List.reverseRecOn with
  | nil =>
    have front : (before.foldl Ledger.after []).length = (registered before).length := by
      have mutators := mutators_foldl_after before []
      rw [Ledger.mutators,Ledger.mutators,List.map_nil,List.nil_append] at mutators
      rw [← mutators,List.length_map]
    rw [List.foldl_append]
    show (_ ++ [_])[_]? = _
    rw [List.getElem?_append_right (Nat.le_of_eq front),front,Nat.sub_self]
    show some _ = _
    simp [account,concerning]
  | append_singleton after op ih =>
    have mutators : ((before ++ .register (some m) :: after).foldl Ledger.after []).mutators.take
        (registered before).length = registered before := by
      have parts : registered (before ++ .register (some m) :: after) =
          registered before ++ registered (.register (some m) :: after) := List.filterMap_append
      rw [mutators_foldl_after,parts]
      exact List.take_left
    have grown : before ++ .register (some m) :: (after ++ [op]) = (before ++ .register (some m) :: after) ++ [op] := by
      rw [List.append_assoc,List.cons_append]
    rw [grown,List.foldl_append,List.foldl_cons,List.foldl_nil,getElem?_after ih,mutators,account_concat]
    by_cases again : m.handle ∈ (registered before).map (·.handle)
    · simp [again]
    · simp [again]

variable [Source ρ σ]

/-- The slots of an engine are its registrations in the order in which they were made. The first slot of a mutator
    tells the account of the mutator since its registration, with as many executions as were told in feedback on it; a
    later slot of the same mutator stays at zero, and scores one. -/
theorem slots_tell_feedback {source : σ} {mutators : List (Option (Mutator ρ σ))} {policy : SelectionPolicy ρ}
    {g : Guided ρ σ} {events : List (Event ρ)} (made : create source mutators policy = ⟨.ok (),g,events⟩)
    (ops : List (Operation ρ σ)) :
    let history := mutators.map Operation.register ++ ops
    let ledger := (ops.foldl Operation.next g).ledger
    ledger.mutators = registered history ∧
    ∀ before m after, history = before ++ .register (some m) :: after → ∃ slot,
      ledger[(registered before).length]? = some slot ∧ slot.mutator = m ∧
      (m.handle ∉ (registered before).map (·.handle) →
        slot.stats = account m.handle after ∧
        slot.stats.executions = (concerning m.handle after).countP Operation.countsExecution) ∧
      (m.handle ∈ (registered before).map (·.handle) →
        slot.stats = .zero ∧ ∀ slowest, slot.stats.score slowest policy = 1.0) := by
  intro history ledger
  have whole : ledger = history.foldl Ledger.after [] := by
    rw [List.foldl_append,← ledger_create made]
    exact ledger_foldl_next ops g
  rw [whole]
  refine ⟨(mutators_foldl_after history []).trans (List.nil_append _),?_⟩
  intro before m after parts
  rw [parts]
  refine ⟨_,getElem?_foldl_after before after m,rfl,?_,?_⟩
  · intro first
    rw [if_neg first]
    exact ⟨rfl,executions_account m.handle after⟩
  · intro again
    rw [if_pos again]
    exact ⟨rfl,fun slowest => if_pos rfl⟩

/-- A mutator that leaves every input as it is. -/
def copying : Mutator Rat Least := ⟨0,none,"Copying",fun data => pure (some data)⟩

/-- Feedback on one execution that discovered a signal. -/
def discovery : Operation Rat Least := .feedback (some copying) true false (some 1)

private theorem create_twice : ∃ g events,
    create (⟨⟩ : Least) [some copying,some copying] .standard = ⟨.ok (),g,events⟩ := ⟨_,_,rfl⟩

theorem slots_tell_feedback_twice : ∃ g events,
    create (⟨⟩ : Least) [some copying,some copying] .standard = ⟨.ok (),g,events⟩ ∧
    ∃ slot, (discovery.next g).ledger[0]? = some slot ∧ slot.stats.executions = 1 := by
  obtain ⟨g,events,made⟩ := create_twice
  refine ⟨g,events,made,?_⟩
  obtain ⟨-,slots⟩ := slots_tell_feedback made [discovery]
  obtain ⟨slot,there,-,first,-⟩ := slots [] copying [.register (some copying),discovery] rfl
  exact ⟨slot,there,(first List.not_mem_nil).2.trans rfl⟩

/-- The second slot of a mutator is at zero executions, and scores one, although there was feedback on the mutator
    after its registration. -/
theorem second_slot_tells_nothing : ∃ g events,
    create (⟨⟩ : Least) [some copying,some copying] .standard = ⟨.ok (),g,events⟩ ∧
    ∃ slot, (discovery.next g).ledger[1]? = some slot ∧ slot.mutator.handle = copying.handle ∧
      (account copying.handle [discovery]).executions = 1 ∧ slot.stats.executions = 0 ∧
      slot.stats.score 1 .standard = (1.0 : Rat) :=
  ⟨_,_,rfl,_,rfl,rfl,rfl,rfl,rfl⟩

end Guided

end Fuzzing

import Mathlib.Data.List.Forall2
import Mathlib.Logic.Function.Basic
import Fuzzing.Proofs.Engine.Operation

/-!
Guided engines that differ in nothing but names. Two mutators are twins if they do the same to every buffer, whatever
they are called, and engines are twins if their slots hold twins with the same statistics, from the same source and under
the same policy. Twins select twins, and answer the same requests alike (`pairs_performAll`), up to the names in what is
noted.
-/
namespace Fuzzing

open Fuzzing.Action (Matches Outcomes)

variable {ρ σ : Type}

/-- An event without the names of mutators, and without the statistics that are told under them. -/
def Event.unnamed : Event ρ → Event ρ
  | mutationFailed _ => mutationFailed ""
  | mutatorRaised _ cause => mutatorRaised "" cause
  | mutatorReturnedNothing _ => mutatorReturnedNothing ""
  | mutatorRegistered strategy _ total => mutatorRegistered strategy "" total
  | mutatorCrashRecorded _ crashes => mutatorCrashRecorded "" crashes
  | feedbackForUnknownMutator _ => feedbackForUnknownMutator ""
  | campaignCompleted summary => campaignCompleted { summary with mutators := [] }
  | event => event

/-- All that is seen of an event but names. -/
def Event.seen (e : Event ρ) : Option (Event ρ) := some e.unnamed

/-- Two mutators that do the same to every buffer. The function tells which is the twin of which. -/
structure Mutator.Twins (f : Nat → Nat) (m m' : Mutator ρ σ) : Prop where
  handle : m'.handle = f m.handle
  mutate : ∀ data, Matches Event.seen Eq Eq (m.mutate data) (m'.mutate data)

variable {f : Nat → Nat}

private theorem Mutator.Twins.apply {m m' : Mutator ρ σ} (twins : m.Twins f m') (data : Bytes) :
    Matches Event.seen Eq Eq (m.apply data) (m'.apply data) := by
  refine (twins.mutate data).attempt.bind fun r r' outcomes => ?_
  obtain rfl := outcomes.eq
  rcases r' with e | _ | out
  · exact .ite (.fail e) (.bind (.note rfl) fun _ _ _ => .pure rfl)
  · exact .bind (.note rfl) fun _ _ _ => .pure rfl
  · exact .pure rfl

/-- The mutator under another handle and another name. -/
def Mutator.alias (m : Mutator ρ σ) : Mutator ρ σ := { m with handle := m.handle + 1, label := some "Alias" }

private theorem Mutator.twins_alias (m : Mutator ρ σ) : m.Twins (· + 1) m.alias := ⟨rfl,fun _ => .same _⟩

private theorem getElem?_of_forall₂ {α β : Type} {R : α → β → Prop} {xs : List α} {ys : List β} (related : List.Forall₂ R xs ys)
    (i : Nat) : Option.Rel R xs[i]? ys[i]? := by
  induction related generalizing i with
  | nil => exact .none
  | cons first _ ih =>
    cases i with
    | zero => exact .some first
    | succ i => exact ih i

private theorem rel_getD {α β : Type} {R : α → β → Prop} {o : Option α} {o' : Option β} (related : Option.Rel R o o') {x : α}
    {y : β} (fallback : R x y) : R (o.getD x) (o'.getD y) := by
  cases related with
  | none => exact fallback
  | some same => exact same

private theorem Draw.matches_chooseFrom [Source ρ σ] {seen : Event ρ → Option (Event ρ)} {α β : Type} {R : α → β → Prop}
    {xs : List α} {ys : List β} (related : List.Forall₂ R xs ys) (kind : Series) :
    Matches (σ := σ) seen Eq R (chooseFrom kind xs) (chooseFrom kind ys) := by
  rw [chooseFrom,chooseFrom,related.length_eq]
  refine (Matches.same _).bind ?_
  rintro drawn _ rfl
  cases drawn with
  | real x => exact .fail _
  | whole i =>
    have found := getElem?_of_forall₂ related i.toNat
    simp only [member]
    generalize xs[i.toNat]? = x at found ⊢
    generalize ys[i.toNat]? = y at found ⊢
    cases found with
    | none => exact .fail _
    | some same => exact .pure same

/-- Two slots that hold twins with the same statistics. -/
structure Slot.Twins (f : Nat → Nat) (slot slot' : Slot ρ σ) : Prop where
  mutator : slot.mutator.Twins f slot'.mutator
  stats : slot'.stats = slot.stats

namespace Ledger

/-- Two ledgers that hold twins, slot by slot. -/
abbrev Twins (f : Nat → Nat) : Ledger ρ σ → Ledger ρ σ → Prop := List.Forall₂ (Slot.Twins f)

variable {l l' : Ledger ρ σ}

private theorem Twins.mutators (twins : l.Twins f l') : List.Forall₂ (Mutator.Twins f) l.mutators l'.mutators := by
  rw [Ledger.mutators,Ledger.mutators,List.forall₂_map_left_iff,List.forall₂_map_right_iff]
  exact twins.imp fun _ _ => Slot.Twins.mutator

private theorem Twins.stats (twins : l.Twins f l') : l'.map (·.stats) = l.map (·.stats) := by
  induction twins with
  | nil => rfl
  | cons first _ ih => rw [List.map_cons,List.map_cons,first.stats,ih]

private theorem Twins.get? (injective : Function.Injective f) (twins : l.Twins f l') (handle : Nat) :
    l'.get? (f handle) = l.get? handle := by
  induction twins with
  | nil => rfl
  | cons first _ ih =>
    simp only [Ledger.get?,first.mutator.handle,injective.eq_iff,first.stats,ih]

private theorem Twins.revise (injective : Function.Injective f) (twins : l.Twins f l') (handle : Nat)
    (change : Statistics ρ → Except (Failure ρ) (Statistics ρ)) :
    Outcomes (Twins f) (l.revise handle change) (l'.revise (f handle) change) := by
  induction twins with
  | nil => exact .ok .nil
  | @cons slot slot' rest rest' first later ih =>
    simp only [Ledger.revise,first.mutator.handle,injective.eq_iff,first.stats]
    split
    · cases change slot.stats with
      | error e => exact .error e
      | ok stats => exact .ok (.cons ⟨first.mutator,rfl⟩ later)
    · generalize Ledger.revise handle change rest = r at ih ⊢
      generalize Ledger.revise (f handle) change rest' = r' at ih ⊢
      cases ih with
      | error e => exact .error e
      | ok more => exact .ok (.cons first more)

private theorem Twins.allBelow (twins : l.Twins f l') (threshold : Int) : l'.allBelow threshold = l.allBelow threshold := by
  have all (l : Ledger ρ σ) : l.allBelow threshold = (l.map (·.stats)).all fun s => s.executions < threshold := by
    rw [List.all_map]
    rfl
  rw [all,all,twins.stats]

private theorem Twins.getLast? (twins : l.Twins f l') :
    Option.Rel (Mutator.Twins f) l.mutators.getLast? l'.mutators.getLast? := by
  rw [List.getLast?_eq_getElem?,List.getLast?_eq_getElem?,twins.mutators.length_eq]
  exact getElem?_of_forall₂ twins.mutators _

/-- The first slot of a mutator; the number of slots if it has none. -/
def place (handle : Nat) (l : Ledger ρ σ) : Nat := l.findIdx fun slot => slot.mutator.handle = handle

private theorem Twins.place (injective : Function.Injective f) (twins : l.Twins f l') (handle : Nat) :
    l'.place (f handle) = l.place handle := by
  induction twins with
  | nil => rfl
  | cons first _ ih =>
    simp only [Ledger.place] at ih
    simp only [Ledger.place,List.findIdx_cons,first.mutator.handle,injective.eq_iff,ih]

private theorem Twins.isEmpty (twins : l.Twins f l') : l'.isEmpty = l.isEmpty := by
  cases twins <;> rfl

variable [Quantity ρ]

private theorem Twins.scores (twins : l.Twins f l') (policy : SelectionPolicy ρ) : l'.scores policy = l.scores policy := by
  have slowest (l : Ledger ρ σ) : l.slowest = Quantity.largest ((l.map (·.stats)).map (·.averageLatency)) := by
    rw [List.map_map]
    rfl
  have scored (l : Ledger ρ σ) : l.scores policy = (l.map (·.stats)).map (·.score l.slowest policy) := by
    rw [List.map_map]
    rfl
  rw [scored,scored,slowest,slowest,twins.stats]

private theorem Twins.register {m m' : Mutator ρ σ} (twins : l.Twins f l') (added : m.Twins f m') :
    (l.register m).Twins f (l'.register m') := List.rel_append twins (.cons ⟨added,rfl⟩ .nil)

private theorem Twins.reset (twins : l.Twins f l') : l.reset.Twins f l'.reset := by
  refine List.forall₂_map_left_iff.mpr (List.forall₂_map_right_iff.mpr ?_)
  exact twins.imp fun _ _ slots => ⟨slots.mutator,rfl⟩

end Ledger

namespace Guided

/-- Two engines that hold twins, with one source and under one policy, and that applied twins last. -/
structure Twins (f : Nat → Nat) (g g' : Guided ρ σ) : Prop where
  source : g'.source = g.source
  policy : g'.policy = g.policy
  ledger : g.ledger.Twins f g'.ledger
  last : Option.Rel (Mutator.Twins f) g.last g'.last

/-- The engine with an alias in the place of every mutator, so that all of them have the same name. -/
def aliased (g : Guided ρ σ) : Guided ρ σ :=
  { g with ledger := g.ledger.map fun slot => { slot with mutator := slot.mutator.alias }, last := g.last.map Mutator.alias }

theorem twins_aliased (g : Guided ρ σ) : g.Twins (· + 1) g.aliased := by
  refine ⟨rfl,rfl,?_,?_⟩
  · exact List.forall₂_map_right_iff.mpr (List.forall₂_same.mpr fun slot _ => ⟨slot.mutator.twins_alias,rfl⟩)
  · rcases g with ⟨_,_,_,_ | last⟩
    · exact .none
    · exact .some last.twins_alias

/-- Two computations that do the same to twins. -/
abbrev Pairs {α β : Type} (f : Nat → Nat) (res : α → β → Prop) (a : Action ρ (Guided ρ σ) α)
    (b : Action ρ (Guided ρ σ) β) : Prop := Matches Event.seen (Twins f) res a b

private theorem pairs_onSource {α β : Type} {res : α → β → Prop} {a : Action ρ σ α} {b : Action ρ σ β}
    (same : Matches Event.seen Eq res a b) : Pairs f res (onSource a) (onSource b) := by
  refine .focus same (fun _ _ twins => twins.source.symm) ?_
  rintro g g' twins s _ rfl
  exact { twins with source := rfl }

variable [Quantity ρ]

private theorem pairs_register {m m' : Option (Mutator ρ σ)} (twins : Option.Rel (Mutator.Twins f) m m') :
    Pairs f Eq (register m) (register m') := by
  cases twins with
  | none => exact .fail _
  | some added =>
    refine .bind (.update fun g g' level => { level with ledger := level.ledger.register added }) fun _ _ _ => ?_
    exact .state_bind fun g g' level => .note (by rw [level.ledger.length_eq]; rfl)

section

variable [Source ρ σ]

omit [Source ρ σ] in
private theorem Twins.spin {g g' : Guided ρ σ} (twins : g.Twins f g') {m m' : Mutator ρ σ} (fallback : m.Twins f m')
    (fraction : ρ) : (g.spin m fraction).Twins f (g'.spin m' fraction) := by
  have scores : g'.ledger.scores g'.policy = g.ledger.scores g.policy := by
    rw [twins.policy,twins.ledger.scores]
  simp only [Guided.spin,scores]
  exact rel_getD (getElem?_of_forall₂ twins.ledger.mutators _) fallback

private theorem pairs_select : Pairs f (Mutator.Twins f) (select : Action ρ (Guided ρ σ) _) select := by
  refine .state_bind fun g g' twins => ?_
  -- The threshold is met in both or in none, as statistics alone decide that; then the same draw is made.
  have last := twins.ledger.getLast?
  generalize g.ledger.mutators.getLast? = m at last ⊢
  generalize g'.ledger.mutators.getLast? = m' at last ⊢
  rw [twins.policy,twins.ledger.allBelow]
  cases last with
  | none => exact .fail _
  | some fallback =>
    refine .ite (pairs_onSource (Draw.matches_chooseFrom twins.ledger.mutators _)) ((pairs_onSource (.same _)).bind ?_)
    rintro fraction _ rfl
    exact .pure (twins.spin fallback fraction)

/-- One more mutation of what is there. -/
def stepTold (sofar : Bytes × List (Mutator ρ σ)) : Action ρ (Guided ρ σ) (Bytes × List (Mutator ρ σ)) := do
  let m ← select
  let out ← onSource (m.apply sofar.1)
  .update fun g => { g with last := some m }
  pure (out,sofar.2 ++ [m])

/-- Stacks mutations on a seed, and tells the mutators that were selected for it. -/
def mutateTold (seed : Option Bytes) (count : Document ρ) : Action ρ (Guided ρ σ) (Bytes × List (Mutator ρ σ)) := do
  .update fun g => { g with last := none }
  match seed with
  | none => pure ([],[])
  | some data => do
    let count : Document ρ := if count matches .null then .whole 1 else count
    if ← .ofExcept count.isNegative? then .refuse (.negativeMutationCount count)
    else do
      let g ← .state
      if g.ledger.isEmpty then pure (data,[]) else Draw.times (← .ofExcept count.times?) stepTold (data,[])

private theorem times_step_eq_told (n : Nat) (sofar : Bytes × List (Mutator ρ σ)) :
    (Draw.times n step sofar.1 : Action ρ (Guided ρ σ) Bytes) = Prod.fst <$> Draw.times n stepTold sofar := by
  induction n generalizing sofar with
  | zero => rfl
  | succ n ih =>
    simp only [Draw.times,step,stepTold,map_eq_pure_bind,bind_assoc,pure_bind] at ih ⊢
    refine bind_congr fun m => bind_congr fun out => bind_congr fun _ => ?_
    exact ih (out,_)

theorem mutate_eq_told (seed : Option Bytes) (count : Document ρ) :
    (mutate seed count : Action ρ (Guided ρ σ) Bytes) = Prod.fst <$> mutateTold seed count := by
  simp only [mutate,mutateTold,map_eq_pure_bind,bind_assoc]
  refine bind_congr fun _ => ?_
  cases seed with
  | none => rfl
  | some data =>
    simp only [bind_assoc]
    refine bind_congr fun negative => ?_
    cases negative with
    | true => rfl
    | false =>
      simp only [Bool.false_eq_true,if_false,bind_assoc]
      refine bind_congr fun g => ?_
      split
      · rfl
      · refine (bind_congr fun n => ?_).trans (bind_assoc _ _ _).symm
        rw [← map_eq_pure_bind]
        exact times_step_eq_told n (data,[])

private theorem pairs_turn {α β : Type} {res : α → β → Prop} {tell : Mutator ρ σ → Bytes → α} {tell' : Mutator ρ σ → Bytes → β}
    (told : ∀ {m m'}, m.Twins f m' → ∀ out, res (tell m out) (tell' m' out)) (data : Bytes) :
    Pairs f res
      (do let m ← select; let out ← onSource (m.apply data); .update ({ · with last := some m }); pure (tell m out))
      (do let m ← select; let out ← onSource (m.apply data); .update ({ · with last := some m }); pure (tell' m out)) := by
  refine pairs_select.bind fun m m' twins => (pairs_onSource (twins.apply data)).bind ?_
  rintro out _ rfl
  refine .bind (.update fun g g' level => { level with last := .some twins }) fun _ _ _ => ?_
  exact .pure (told twins out)

private theorem pairs_mutateTold (seed : Option Bytes) (count : Document ρ) :
    Pairs f (fun told told' => told'.1 = told.1 ∧ List.Forall₂ (Mutator.Twins f) told.2 told'.2)
      (mutateTold seed count : Action ρ (Guided ρ σ) _) (mutateTold seed count) := by
  refine .bind (.update fun g g' level => { level with last := .none }) fun _ _ _ => ?_
  cases seed with
  | none => exact .pure ⟨rfl,.nil⟩
  | some data =>
    refine (Matches.ofExcept (.refl _)).bind ?_
    rintro negative _ rfl
    refine .ite (.fail _) (.state_bind fun g g' level => ?_)
    rw [level.ledger.isEmpty]
    refine .ite (.pure ⟨rfl,.nil⟩) ((Matches.ofExcept (.refl _)).bind ?_)
    rintro n _ rfl
    refine .times ?_ n ⟨rfl,.nil⟩
    rintro ⟨data,chosen⟩ ⟨_,chosen'⟩ ⟨rfl,others⟩
    exact pairs_turn (fun twins _ => ⟨rfl,List.rel_append others (.cons twins .nil)⟩) _

theorem pairs_mutateOnce (data : Bytes) :
    Pairs f (fun told told' => told'.1 = told.1 ∧ Option.Rel (Mutator.Twins f) told.2 told'.2)
      (mutateOnce data : Action ρ (Guided ρ σ) _) (mutateOnce data) := by
  refine .bind (.update fun g g' level => { level with last := .none }) fun _ _ _ => .state_bind fun g g' level => ?_
  rw [level.ledger.isEmpty]
  exact .ite (.pure ⟨rfl,.none⟩) (pairs_turn (fun twins _ => ⟨rfl,.some twins⟩) data)

end

section

variable {m m' : Option (Mutator ρ σ)}

omit [Quantity ρ] in
private theorem pairs_credit (injective : Function.Injective f) (twins : Option.Rel (Mutator.Twins f) m m')
    (change : Statistics ρ → Except (Failure ρ) (Statistics ρ)) :
    Pairs f (Option.Rel fun told told' => told.1.Twins f told'.1 ∧ told'.2 = told.2) (credit m change)
      (credit m' change) := by
  cases twins with
  | none => exact .fail _
  | @some m m' same =>
    refine .state_bind fun g g' level => ?_
    rw [same.handle,level.ledger.get? injective]
    cases g.ledger.get? m.handle with
    | none => exact .bind (.note rfl) fun _ _ _ => .pure .none
    | some _ =>
      refine (Matches.ofExcept (level.ledger.revise injective _ change)).bind fun l l' revised => ?_
      refine .bind (.update fun g g' level => { level with ledger := revised }) fun _ _ _ => ?_
      rw [revised.get? injective]
      cases l.get? m.handle with
      | none => exact .pure .none
      | some stats => exact .pure (.some ⟨same,rfl⟩)

theorem pairs_recordFeedback (injective : Function.Injective f) (twins : Option.Rel (Mutator.Twins f) m m')
    (discovered crashed : Bool) (latency : Option ρ) :
    Pairs f Eq (recordFeedback m discovered crashed latency) (recordFeedback m' discovered crashed latency) := by
  refine (pairs_credit injective twins _).bind fun told told' same => ?_
  cases same with
  | none => exact .pure rfl
  | some both => exact .noteIf crashed (by rw [both.2]; rfl)

theorem pairs_recordSuccess (injective : Function.Injective f) (twins : Option.Rel (Mutator.Twins f) m m')
    (increase : Option ρ) : Pairs f Eq (recordSuccess m increase) (recordSuccess m' increase) :=
  (pairs_credit injective twins _).bind fun _ _ _ => .pure rfl

end

theorem pairs_resetStatistics : Pairs f Eq (resetStatistics : Action ρ (Guided ρ σ) Unit) resetStatistics := by
  refine .bind (.update fun g g' level => { level with ledger := level.ledger.reset, last := .none }) fun _ _ _ => ?_
  exact .state_bind fun g g' level => .note (by rw [level.ledger.length_eq])

end Guided

namespace Guided

/-- The slot of a mutator. -/
def slotOf (g : Guided ρ σ) (m : Mutator ρ σ) : Nat := g.ledger.place m.handle

section

variable {g g' : Guided ρ σ}

private theorem Twins.slotOf (injective : Function.Injective f) (twins : g.Twins f g') {m m' : Mutator ρ σ} (same : m.Twins f m') :
    g'.slotOf m' = g.slotOf m := by
  rw [Guided.slotOf,Guided.slotOf,same.handle,twins.ledger.place injective]

theorem Twins.slotOf? (injective : Function.Injective f) (twins : g.Twins f g') {m m' : Option (Mutator ρ σ)}
    (same : Option.Rel (Mutator.Twins f) m m') : m'.map g'.slotOf = m.map g.slotOf := by
  cases same with
  | none => rfl
  | some same => exact congrArg some (twins.slotOf injective same)

private theorem Twins.slotsOf (injective : Function.Injective f) (twins : g.Twins f g') {ms ms' : List (Mutator ρ σ)}
    (same : List.Forall₂ (Mutator.Twins f) ms ms') : ms'.map g'.slotOf = ms.map g.slotOf := by
  induction same with
  | nil => rfl
  | cons first _ ih => rw [List.map_cons,List.map_cons,ih,twins.slotOf injective first]

end

variable [Quantity ρ]

/-- Two engines that differ in nothing but the names of their mutators, as far as this can be told. -/
structure SameButNames (g g' : Guided ρ σ) : Prop where
  source : g'.source = g.source
  policy : g'.policy = g.policy
  stats : g'.ledger.map (·.stats) = g.ledger.map (·.stats)
  scores : g'.ledger.scores g'.policy = g.ledger.scores g.policy
  last : g'.last.map g'.slotOf = g.last.map g.slotOf

theorem Twins.sameButNames {f : Nat → Nat} {g g' : Guided ρ σ} (injective : Function.Injective f)
    (twins : g.Twins f g') : g.SameButNames g' where
  source := twins.source
  policy := twins.policy
  stats := twins.ledger.stats
  scores := by rw [twins.policy,twins.ledger.scores]
  last := twins.slotOf? injective twins.last

/-- A call of an engine that tells a mutator by its slot. Where there is no such slot, no mutator is told. -/
inductive Request (ρ σ : Type) where
  | register (m : Option (Mutator ρ σ))
  | select
  | mutate (seed : Option Bytes) (count : Document ρ)
  | feedback (slot : Nat) (discovered crashed : Bool) (latency : Option ρ)
  | success (slot : Nat) (increase : Option ρ)
  | reset

/-- What comes of a request: the bytes that were made, and the slots of the mutators that were selected. -/
structure Answer where
  output : Option Bytes
  slots : List Nat

namespace Request

/-- Two requests that only differ in that twins are registered. -/
inductive Twins (f : Nat → Nat) : Request ρ σ → Request ρ σ → Prop where
  | register {m m' : Option (Mutator ρ σ)} : Option.Rel (Mutator.Twins f) m m' → Twins f (register m) (register m')
  | select : Twins f select select
  | mutate (seed : Option Bytes) (count : Document ρ) : Twins f (mutate seed count) (mutate seed count)
  | feedback (slot : Nat) (discovered crashed : Bool) (latency : Option ρ) :
    Twins f (feedback slot discovered crashed latency) (feedback slot discovered crashed latency)
  | success (slot : Nat) (increase : Option ρ) : Twins f (success slot increase) (success slot increase)
  | reset : Twins f reset reset

variable [Source ρ σ]

/-- Does what is asked for. -/
def perform : Request ρ σ → Action ρ (Guided ρ σ) Answer
  | register m => do
    Guided.register m
    pure ⟨none,[]⟩
  | select => do
    let m ← Guided.select
    let g ← .state
    pure ⟨none,[g.slotOf m]⟩
  | mutate seed count => do
    let (out,chosen) ← mutateTold seed count
    let g ← .state
    pure ⟨some out,chosen.map g.slotOf⟩
  | feedback slot discovered crashed latency => do
    let g ← .state
    recordFeedback g.ledger.mutators[slot]? discovered crashed latency
    pure ⟨none,[]⟩
  | success slot increase => do
    let g ← .state
    recordSuccess g.ledger.mutators[slot]? increase
    pure ⟨none,[]⟩
  | reset => do
    resetStatistics
    pure ⟨none,[]⟩

/-- Makes some requests one after the other, whether they succeed or not. -/
def performAll : List (Request ρ σ) → Action ρ (Guided ρ σ) (List (Except (Failure ρ) Answer))
  | [] => pure []
  | request :: rest => do
    let told ← request.perform.attempt
    let more ← performAll rest
    pure (told :: more)

private theorem pairs_perform (injective : Function.Injective f) {request request' : Request ρ σ}
    (alike : request.Twins f request') : Pairs f Eq request.perform request'.perform := by
  cases alike with
  | register twins => exact (pairs_register twins).bind fun _ _ _ => .pure rfl
  | select =>
    refine pairs_select.bind fun m m' twins => .state_bind fun g g' level => .pure ?_
    rw [level.slotOf injective twins]
  | mutate seed count =>
    refine (pairs_mutateTold seed count).bind ?_
    rintro ⟨out,chosen⟩ ⟨_,chosen'⟩ ⟨rfl,twins⟩
    refine .state_bind fun g g' level => .pure ?_
    rw [level.slotsOf injective twins]
  | feedback slot discovered crashed latency =>
    refine .state_bind fun g g' level => ?_
    have twins := getElem?_of_forall₂ level.ledger.mutators slot
    exact (pairs_recordFeedback injective twins _ _ _).bind fun _ _ _ => .pure rfl
  | success slot increase =>
    refine .state_bind fun g g' level => ?_
    have twins := getElem?_of_forall₂ level.ledger.mutators slot
    exact (pairs_recordSuccess injective twins _).bind fun _ _ _ => .pure rfl
  | reset => exact pairs_resetStatistics.bind fun _ _ _ => .pure rfl

theorem pairs_performAll (injective : Function.Injective f) {requests requests' : List (Request ρ σ)}
    (alike : List.Forall₂ (Request.Twins f) requests requests') :
    Pairs f Eq (performAll requests) (performAll requests') := by
  induction alike with
  | nil => exact .pure rfl
  | cons first _ ih =>
    refine (pairs_perform injective first).attempt.bind fun told told' outcomes => ih.bind ?_
    rintro more _ rfl
    exact .pure (congrArg (· :: more) outcomes.eq.symm)

end Request

end Guided

end Fuzzing

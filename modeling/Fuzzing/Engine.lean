import Fuzzing.Mutator

/-!
Engines, and the ledger of the mutators that are registered with them. A mutator is found by its handle; the
same mutator may hold several slots, and then the first one counts. The guided engine learns which mutators pay off: as
long as every mutator has fewer executions than the policy asks for, all are equally likely; from then on a mutator is
drawn from a roulette whose bands are as wide as the scores. Statistics change by feedback only, never by mutating. The
uniform engine does not learn, and serves as a control.
-/
namespace Fuzzing

/-- A registered mutator with its statistics. -/
structure Slot (ρ σ : Type) where
  mutator : Mutator ρ σ
  stats : Statistics ρ

/-- The slots in the order of registration. -/
abbrev Ledger (ρ σ : Type) := List (Slot ρ σ)

namespace Ledger

variable {ρ σ : Type}

def mutators (l : Ledger ρ σ) : List (Mutator ρ σ) := l.map (·.mutator)

def get? (handle : Nat) : Ledger ρ σ → Option (Statistics ρ)
  | [] => none
  | slot :: rest => if slot.mutator.handle = handle then some slot.stats else get? handle rest

/-- Changes the statistics of a mutator; the ledger of an unknown one stays as it is. -/
def revise (handle : Nat) (change : Statistics ρ → Except (Failure ρ) (Statistics ρ)) :
    Ledger ρ σ → Except (Failure ρ) (Ledger ρ σ)
  | [] => .ok []
  | slot :: rest =>
    if slot.mutator.handle = handle then
      match change slot.stats with
      | .ok stats => .ok ({ slot with stats } :: rest)
      | .error e => .error e
    else
      match revise handle change rest with
      | .ok rest => .ok (slot :: rest)
      | .error e => .error e

def allBelow (threshold : Int) (l : Ledger ρ σ) : Bool := l.all fun slot => slot.stats.executions < threshold

variable [Quantity ρ]

/-- Whether every mutator has fewer executions than a threshold of any form. It is not looked at where there is
    no mutator, and behind the first one that does not have fewer. -/
def allBelow? (threshold : Document ρ) : Ledger ρ σ → Except (Failure ρ) Bool
  | [] => .ok true
  | slot :: rest => do
    if ← threshold.exceeds? slot.stats.executions then allBelow? threshold rest else pure false

/-- A threshold that is an integer gives the same answer as the integer. -/
theorem allBelow?_whole (threshold : Int) (l : Ledger ρ σ) :
    l.allBelow? (.whole threshold) = .ok (l.allBelow threshold) := by
  induction l with
  | nil => rfl
  | cons slot rest ih =>
    by_cases below : slot.stats.executions < threshold
    · simpa [allBelow?,allBelow,Document.exceeds?,below,bind,Except.bind] using ih
    · simp [allBelow?,allBelow,Document.exceeds?,below,bind,Except.bind,pure,Except.pure]

def register (m : Mutator ρ σ) (l : Ledger ρ σ) : Ledger ρ σ := l ++ [⟨m,.zero⟩]

def slowest (l : Ledger ρ σ) : ρ := Quantity.largest (l.map (·.stats.averageLatency))

def scores (policy : SelectionPolicy ρ) (l : Ledger ρ σ) : List ρ :=
  l.map fun slot => slot.stats.score l.slowest policy

def reset (l : Ledger ρ σ) : Ledger ρ σ := l.map fun slot => { slot with stats := .zero }

/-- Names told apart: the first use of a name stands as it is, the n-th has `#n` behind it. -/
def keysFrom (seen : List String) : List String → List String
  | [] => []
  | name :: rest =>
    let uses := seen.count name + 1
    (if uses = 1 then name else name ++ "#" ++ toString uses) :: keysFrom (name :: seen) rest

omit [Quantity ρ] in
/-- The name of each slot in reports. -/
def reportKeys (l : Ledger ρ σ) : List String := keysFrom [] (l.map (·.mutator.name))

omit [Quantity ρ] in
def snapshot (l : Ledger ρ σ) : List (String × Statistics ρ) :=
  Table.ofEntries (l.reportKeys.zip (l.map (·.stats)))

def scoreReport (policy : SelectionPolicy ρ) (l : Ledger ρ σ) : List (String × ρ) :=
  Table.ofEntries (l.reportKeys.zip (l.scores policy))

end Ledger

/-- An engine with statistics. -/
structure Guided (ρ σ : Type) where
  source : σ
  policy : SelectionPolicy ρ
  ledger : Ledger ρ σ
  /-- The mutator that was applied last. -/
  last : Option (Mutator ρ σ)

/-- The first position whose running sum is above the draw; the number of sums where none is. -/
def bandOf {ρ : Type} [Quantity ρ] (draw : ρ) : List ρ → Nat
  | [] => 0
  | sum :: rest => if draw < sum then 0 else bandOf draw rest + 1

namespace Guided

variable {ρ σ α : Type}

def onSource (a : Action ρ σ α) : Action ρ (Guided ρ σ) α :=
  a.focus (·.source) fun s g => { g with source := s }

variable [Quantity ρ]

/-- Adds a mutator with fresh statistics. -/
def register (m : Option (Mutator ρ σ)) : Action ρ (Guided ρ σ) Unit := do
  match m with
  | none => .refuse .noMutator
  | some m => do
    .update fun g => { g with ledger := g.ledger.register m }
    let g ← .state
    .note (.mutatorRegistered .guided m.name g.ledger.length)

def registerAll : List (Option (Mutator ρ σ)) → Action ρ (Guided ρ σ) Unit
  | [] => pure ()
  | m :: rest => do
    register m
    registerAll rest

variable [Source ρ σ]

/-- An engine on a source, with mutators registered. -/
def create (source : σ) (mutators : List (Option (Mutator ρ σ))) (policy : SelectionPolicy ρ) :
    Trace ρ (Guided ρ σ) Unit :=
  let engine : Guided ρ σ := ⟨source,policy,[],none⟩
  if Source.absent ρ source then Action.refuse .noRandomness engine else registerAll mutators engine

/-- The mutator in the band where a fraction of the whole falls. -/
def spin (g : Guided ρ σ) (fallback : Mutator ρ σ) (fraction : ρ) : Mutator ρ σ :=
  let sums := Quantity.runningSums 0 (g.ledger.scores g.policy)
  let draw := fraction * sums.getLastD 0
  (g.ledger.mutators[bandOf draw sums]?).getD fallback

/-- Draws the mutator to apply next. -/
def select : Action ρ (Guided ρ σ) (Mutator ρ σ) := do
  let g ← .state
  match g.ledger.mutators.getLast? with
  | none => .fail .noMutators
  | some fallback =>
    if g.ledger.allBelow g.policy.threshold then onSource (Draw.chooseFrom .fixed g.ledger.mutators)
    else do
      let fraction ← onSource Draw.fraction
      pure (g.spin fallback fraction)

def step (data : Bytes) : Action ρ (Guided ρ σ) Bytes := do
  let m ← select
  let out ← onSource (m.apply data)
  .update fun g => { g with last := some m }
  pure out

/-- Stacks mutations on a seed, one where no count is given. A count may be of any form; it has to be an integer
    only where there are mutators. -/
def mutate (seed : Option Bytes) (count : Document ρ) : Action ρ (Guided ρ σ) Bytes := do
  .update fun g => { g with last := none }
  match seed with
  | none => pure []
  | some data => do
    let count : Document ρ := if count matches .null then .whole 1 else count
    if ← .ofExcept count.isNegative? then .refuse (.negativeMutationCount count)
    else do
      let g ← .state
      if g.ledger.isEmpty then pure data else Draw.times (← .ofExcept count.times?) step data

/-- Changes the statistics of a registered mutator, and gives them back. A mutator that is not
    registered is noted and otherwise ignored. -/
def credit (m : Option (Mutator ρ σ)) (change : Statistics ρ → Except (Failure ρ) (Statistics ρ)) :
    Action ρ (Guided ρ σ) (Option (Mutator ρ σ × Statistics ρ)) := do
  match m with
  | none => .refuse .noMutatorForFeedback
  | some m => do
    let g ← .state
    match g.ledger.get? m.handle with
    | none => do
      .note (.feedbackForUnknownMutator m.name)
      pure none
    | some _ => do
      let ledger ← .ofExcept (g.ledger.revise m.handle change)
      .update fun g => { g with ledger }
      pure ((ledger.get? m.handle).map fun stats => (m,stats))

def recordFeedback (m : Option (Mutator ρ σ)) (discovered crashed : Bool) (latency : Option ρ) :
    Action ρ (Guided ρ σ) Unit := do
  match ← credit m (·.record discovered crashed latency) with
  | none => pure ()
  | some (m,stats) => .noteIf crashed (.mutatorCrashRecorded m.name stats.crashes)

def recordSuccess (m : Option (Mutator ρ σ)) (increase : Option ρ) : Action ρ (Guided ρ σ) Unit := do
  let _ ← credit m (·.recordSuccess increase)
  pure ()

/-- Sets all statistics back to zero, and forgets the last mutator. -/
def resetStatistics : Action ρ (Guided ρ σ) Unit := do
  .update fun g => { g with ledger := g.ledger.reset, last := none }
  let g ← .state
  .note (.statisticsReset g.ledger.length)

end Guided

/-- An engine without statistics. -/
structure Uniform (ρ σ : Type) where
  source : σ
  mutators : List (Mutator ρ σ)

namespace Uniform

variable {ρ σ α : Type}

def onSource (a : Action ρ σ α) : Action ρ (Uniform ρ σ) α :=
  a.focus (·.source) fun s u => { u with source := s }

def register (m : Option (Mutator ρ σ)) : Action ρ (Uniform ρ σ) Unit := do
  match m with
  | none => .refuse .noMutator
  | some m => do
    .update fun u => { u with mutators := u.mutators ++ [m] }
    let u ← .state
    .note (.mutatorRegistered .uniform m.name u.mutators.length)

def registerAll : List (Option (Mutator ρ σ)) → Action ρ (Uniform ρ σ) Unit
  | [] => pure ()
  | m :: rest => do
    register m
    registerAll rest

variable [Quantity ρ] [Source ρ σ]

omit [Quantity ρ] in
/-- An engine on a source, with mutators registered. -/
def create (source : σ) (mutators : List (Option (Mutator ρ σ))) : Trace ρ (Uniform ρ σ) Unit :=
  let engine : Uniform ρ σ := ⟨source,[]⟩
  if Source.absent ρ source then Action.refuse .noRandomness engine else registerAll mutators engine

omit [Quantity ρ] in
def step (data : Bytes) : Action ρ (Uniform ρ σ) Bytes := do
  let u ← .state
  let m ← onSource (Draw.choose u.mutators)
  onSource (m.apply data)

/-- Stacks mutations on a seed. A count that is not positive, and an engine without mutators, leave
    the seed as it is. Where there are mutators, a positive count has to be an integer. -/
def mutate (seed : Option Bytes) (count : Document ρ) : Action ρ (Uniform ρ σ) Bytes := do
  match seed with
  | none => pure []
  | some data => do
    let u ← .state
    if (← .ofExcept count.isAtMostZero?) || u.mutators.isEmpty then pure data
    else Draw.times (← .ofExcept count.times?) step data

end Uniform

/-- A guided or a uniform engine. -/
inductive Engine (ρ σ : Type) where
  | guided (g : Guided ρ σ)
  | uniform (u : Uniform ρ σ)

namespace Engine

variable {ρ σ : Type}

def isGuided : Engine ρ σ → Bool
  | guided _ => true
  | uniform _ => false

def source : Engine ρ σ → σ
  | guided g => g.source
  | uniform u => u.source

/-- The engine with another state of its source. -/
def withSource (s : σ) : Engine ρ σ → Engine ρ σ
  | guided g => guided { g with source := s }
  | uniform u => uniform { u with source := s }

def mutators : Engine ρ σ → List (Mutator ρ σ)
  | guided g => g.ledger.mutators
  | uniform u => u.mutators

end Engine

end Fuzzing

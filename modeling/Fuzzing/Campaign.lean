import Fuzzing.Coverage
import Fuzzing.Digest
import Fuzzing.Engine
import Fuzzing.Settings

/-!
A campaign drives an engine against a target. Each iteration takes a mutated seed or fresh
bytes, executes them, adds the signals to the tracker, gives feedback to a guided engine, and
keeps the input if it crashed or reached new signals. Inputs are told apart by the digests of their bytes, and each is
kept once.
-/
namespace Fuzzing

/-- Items that were kept, of which no two have the same digest. -/
structure Kept (α : Type) (bytes : α → Bytes) where
  items : List α
  digests : List Bytes
  digests_eq : digests = items.map fun x => Digest.sha256 (bytes x)
  nodup : digests.Nodup

namespace Kept

variable {α : Type} {bytes : α → Bytes}

def empty : Kept α bytes := ⟨[],[],rfl,.nil⟩

def has (k : Kept α bytes) (data : Bytes) : Bool := k.digests.contains (Digest.sha256 data)

/-- Keeps an item behind the others, unless its digest is known. -/
def add (k : Kept α bytes) (x : α) : Kept α bytes :=
  if known : k.has (bytes x) then k
  else
    { items := k.items ++ [x]
      digests := k.digests ++ [Digest.sha256 (bytes x)]
      digests_eq := by rw [k.digests_eq,List.map_append,List.map_singleton]
      nodup := by
        rw [has,List.contains_iff_mem] at known
        exact List.nodup_append.mpr ⟨k.nodup,List.pairwise_singleton ..,
          fun a inside b last same => known (List.mem_singleton.mp last ▸ same ▸ inside)⟩ }

theorem add_of_has {k : Kept α bytes} {x : α} (known : k.has (bytes x) = true) : k.add x = k := dif_pos known

theorem items_add_of_not_has {k : Kept α bytes} {x : α} (new : ¬ k.has (bytes x) = true) :
    (k.add x).items = k.items ++ [x] := by
  rw [add,dif_neg new]

end Kept

/-- The seeds, and the crashing inputs with the error of the first crash. -/
structure Corpus (ρ : Type) where
  seeds : Kept Bytes id
  failures : Kept (Bytes × Document ρ) Prod.fst

namespace Corpus

variable {ρ : Type}

def empty : Corpus ρ := ⟨.empty,.empty⟩

/-- The seeds in the order of arrival. -/
def entries (c : Corpus ρ) : List Bytes := c.seeds.items

/-- The crashing inputs and their errors in the order of arrival. -/
def crashes (c : Corpus ρ) : List (Bytes × Document ρ) := c.failures.items

def hasEntry (c : Corpus ρ) (data : Bytes) : Bool := c.seeds.has data

def hasCrash (c : Corpus ρ) (data : Bytes) : Bool := c.failures.has data

def add (c : Corpus ρ) (data : Bytes) : Corpus ρ := { c with seeds := c.seeds.add data }

def addCrash (c : Corpus ρ) (data : Bytes) (error : Document ρ) : Corpus ρ :=
  { c with failures := c.failures.add (data,error) }

def choose {σ : Type} [Source ρ σ] (c : Corpus ρ) : Action ρ σ Bytes :=
  if c.entries.isEmpty then .fail .emptyCorpus else Draw.choose c.entries

end Corpus

/-- The totals of a campaign. The last three fields are brought up to date by reports only. -/
structure Totals (ρ : Type) where
  executions : Int
  interestingInputs : Nat
  crashes : Nat
  totalLatency : ρ
  corpusSize : Nat
  coveragePercentage : ρ
  mutators : List (String × Statistics ρ)

namespace Totals

variable {ρ : Type} [Quantity ρ]

def zero : Totals ρ := ⟨0,0,0,0,0,0,[]⟩

private def averageLatency (t : Totals ρ) : ρ :=
  if t.executions = 0 then 0 else t.totalLatency / Quantity.ofInt t.executions

def summary (t : Totals ρ) : Summary ρ :=
  { executions := t.executions, interestingInputs := t.interestingInputs, crashes := t.crashes
    corpusSize := t.corpusSize, averageLatency := t.averageLatency
    coveragePercentage := t.coveragePercentage, mutators := t.mutators }

end Totals

/-- A campaign with an executor on states in `κ`. -/
structure Campaign (ρ σ κ : Type) where
  engine : Engine ρ σ
  executor : Bytes → Action ρ κ (Execution ρ)
  executorState : κ
  tracker : Coverage ρ Nat
  corpus : Corpus ρ
  policy : CampaignPolicy ρ
  limits : MutationLimits
  /-- The source for seeds and fresh inputs; none where they are drawn from the engine's source. -/
  ownSource : Option σ
  /-- The seed of the source, where the campaign made the source itself. -/
  seed : Option Int
  totals : Totals ρ

/-- A seed as given, or the fresh one in the place of zero. -/
def resolveSeed (seed fresh : Int) : Int := if seed = 0 then fresh else seed

namespace Campaign

variable {ρ σ κ α : Type}

/-- The source for seeds and fresh inputs. -/
def source (c : Campaign ρ σ κ) : σ := c.ownSource.getD c.engine.source

/-- The campaign with another state of that source. -/
def withSource (s : σ) (c : Campaign ρ σ κ) : Campaign ρ σ κ :=
  match c.ownSource with
  | some _ => { c with ownSource := some s }
  | none => { c with engine := c.engine.withSource s }

def onSource (a : Action ρ σ α) : Action ρ (Campaign ρ σ κ) α := a.focus source withSource

def onTracker (a : Action ρ (Coverage ρ Nat) α) : Action ρ (Campaign ρ σ κ) α :=
  a.focus (·.tracker) fun t c => { c with tracker := t }

def onGuided (g : Guided ρ σ) (a : Action ρ (Guided ρ σ) α) : Action ρ (Campaign ρ σ κ) α :=
  a.focus (fun _ => g) fun g c => { c with engine := .guided g }

def onUniform (u : Uniform ρ σ) (a : Action ρ (Uniform ρ σ) α) : Action ρ (Campaign ρ σ κ) α :=
  a.focus (fun _ => u) fun u c => { c with engine := .uniform u }

def execute (data : Bytes) : Action ρ (Campaign ρ σ κ) (Execution ρ) := do
  let c ← Action.state
  (c.executor data).focus (·.executorState) fun k c => { c with executorState := k }

variable [Quantity ρ] [Source ρ σ]

/-- Mutates a seed. A guided engine decides by itself, a uniform one is told how often. -/
def mutateSeed (seed : Bytes) : Action ρ (Campaign ρ σ κ) Bytes := do
  let c ← Action.state
  match c.engine with
  | .guided g => onGuided g (Guided.mutate (some seed) .null)
  | .uniform u => do
    let count ← onSource (Draw.number 1 c.limits.maxMutations)
    let c ← Action.state
    onUniform { u with source := c.engine.source } (Uniform.mutate (some seed) count.document)

/-- Fresh random bytes, one at least. -/
def freshInput : Action ρ (Campaign ρ σ κ) Bytes := do
  let c ← Action.state
  let size ← onSource (Draw.between 1 (c.policy.maxInputSize - 1))
  onSource (Draw.bytes size)

def drawsSeed : Action ρ (Campaign ρ σ κ) Bool := do
  let c ← Action.state
  if c.corpus.entries.isEmpty then pure false
  else do
    let fraction : ρ ← onSource Draw.fraction
    pure (decide (fraction < c.policy.corpusProbability))

/-- The next input, and whether it is a mutated seed. -/
def nextInput : Action ρ (Campaign ρ σ κ) (Bytes × Bool) := do
  if ← drawsSeed then do
    let c ← Action.state
    let seed ← onSource c.corpus.choose
    let data ← mutateSeed seed
    pure (data,true)
  else do
    let data ← freshInput
    pure (data,false)

/-- Gives feedback on a mutated seed to the mutator that a guided engine applied last. -/
def giveFeedback (result : Execution ρ) (fresh : Nat) : Action ρ (Campaign ρ σ κ) Unit := do
  let c ← Action.state
  match c.engine with
  | .uniform _ => pure ()
  | .guided g =>
    match g.last with
    | none => pure ()
    | some m =>
      onGuided g do
        Guided.recordFeedback (some m) (fresh != 0) result.crashed result.latency
        if fresh != 0 then Guided.recordSuccess (some m) (some (Quantity.ofInt fresh)) else pure ()

/-- The error under which a crash is kept. -/
def crashError (error : Document ρ) : Document ρ :=
  if error.isTruthy Quantity.isZero then error else .text "Unknown error"

/-- Keeps a crashing input that is not known yet. -/
def keepCrash (data : Bytes) (result : Execution ρ) : Action ρ (Campaign ρ σ κ) Unit := do
  let c ← Action.state
  if c.corpus.hasCrash data then pure ()
  else do
    .update fun c =>
      { c with
        corpus := c.corpus.addCrash data (crashError result.error)
        totals := { c.totals with crashes := c.totals.crashes + 1 } }
    .note (.crashDetected result.outcome result.error data.length)

/-- Keeps an input that reached new signals and is not known yet. -/
def keepInput (data : Bytes) (fresh : Nat) : Action ρ (Campaign ρ σ κ) Unit := do
  let c ← Action.state
  if c.corpus.hasEntry data then pure ()
  else do
    .update fun c =>
      { c with
        corpus := c.corpus.add data
        totals := { c.totals with interestingInputs := c.totals.interestingInputs + 1 } }
    let c ← Action.state
    .note (.inputKept fresh c.corpus.entries.length)

def countExecution (c : Campaign ρ σ κ) : Campaign ρ σ κ :=
  { c with totals := { c.totals with executions := c.totals.executions + 1 } }

def addLatency (latency : ρ) (c : Campaign ρ σ κ) : Campaign ρ σ κ :=
  { c with totals := { c.totals with totalLatency := c.totals.totalLatency + latency } }

/-- Counts one execution and the time that it took, which has to be measured. -/
def countResult (result : Execution ρ) : Action ρ (Campaign ρ σ κ) Unit := do
  .update countExecution
  match result.latency with
  | some latency => .update (addLatency latency)
  | none => .fail (.noOperation "+=" "float" "NoneType")

def account (data : Bytes) (mutated : Bool) (result : Execution ρ) : Action ρ (Campaign ρ σ κ) Unit := do
  let fresh ← onTracker (Coverage.observe result.coverage)
  countResult result
  if mutated then giveFeedback result fresh.length else pure ()
  if result.crashed then keepCrash data result else pure ()
  if fresh.isEmpty then pure () else keepInput data fresh.length

/-- Makes, executes and takes in one input. -/
def iterate : Action ρ (Campaign ρ σ κ) (Execution ρ) := do
  let (data,mutated) ← nextInput
  let result ← execute data
  account data mutated result
  pure result

/-- Brings the totals up to date that only reports show. -/
def refreshed (c : Campaign ρ σ κ) : Campaign ρ σ κ :=
  { c with
    totals := { c.totals with
      corpusSize := c.corpus.entries.length
      coveragePercentage := c.tracker.percentage
      mutators := match c.engine with
        | .guided g => g.ledger.snapshot
        | .uniform _ => c.totals.mutators } }

def report : Action ρ (Campaign ρ σ κ) Unit := do
  .update refreshed
  let c ← Action.state
  .note (.campaignProgress c.totals.executions c.totals.crashes c.totals.corpusSize c.totals.coveragePercentage)

/-- Runs iterations, counted from those already done, with a report after every interval. -/
def iterations (done : Nat) : Nat → Action ρ (Campaign ρ σ κ) Unit
  | 0 => pure ()
  | left + 1 => do
    let _ ← iterate
    let c ← Action.state
    if ((done + 1 : Nat) : Int) % c.policy.reportInterval = 0 then report else pure ()
    iterations (done + 1) left

/-- Runs the campaign for a number of iterations, that of its policy where none is given. A number that is no
    integer is noticed only once the campaign has started. -/
def run (count : Document ρ) : Action ρ (Campaign ρ σ κ) Unit := do
  let c ← Action.state
  let total : Document ρ := if count matches .null then .whole c.policy.iterations else count
  if ← .ofExcept total.isNegative? then .refuse (.negativeIterations total)
  else do
    .note (.campaignStarted total c.seed c.engine.isGuided c.corpus.entries.length)
    iterations 0 (← .ofExcept total.times?)
    .update refreshed
    let c ← Action.state
    .note (.campaignCompleted c.totals.summary)

/-- Sets the totals, the counts of the tracker and the statistics of the engine back to zero. -/
def reset : Action ρ (Campaign ρ σ κ) Unit := do
  .update fun c => { c with totals := .zero }
  onTracker Coverage.reset
  let c ← Action.state
  match c.engine with
  | .guided g => onGuided g Guided.resetStatistics
  | .uniform _ => pure ()
  .note .campaignReset

end Campaign

end Fuzzing

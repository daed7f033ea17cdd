import Fuzzing.Action

/-!
Coverage trackers: how often each named signal was hit. Known names are never forgotten; a
reset sets the counts back and keeps the names. Every write checks all of its arguments
before it changes anything, so that a refused write leaves the tracker as it was. Campaigns count in naturals, and
counts that come from outside may be integers or numbers of either kind (`Tally`).
-/
namespace Fuzzing

/-- The arithmetic that counting needs. -/
class Tally (ν : Type) where
  /-- No hit. -/
  nothing : ν
  /-- One hit. -/
  once : ν
  /-- The sum of two counts. -/
  plus : ν → ν → ν
  isZero : ν → Bool
  isPositive : ν → Bool
  isNegative : ν → Bool

/-- Counts that reports over `ρ` can show. -/
class Tally.Reported (ρ ν : Type) where
  document : ν → Document ρ

instance : Tally Nat where
  nothing := 0
  once := 1
  plus m n := m + n
  isZero n := n == 0
  isPositive n := 0 < n
  isNegative _ := false

instance : Tally Int where
  nothing := 0
  once := 1
  plus m n := m + n
  isZero n := n == 0
  isPositive n := 0 < n
  isNegative n := n < 0

instance {ρ : Type} : Tally.Reported ρ Nat := ⟨fun n => .whole n⟩

instance {ρ : Type} : Tally.Reported ρ Int := ⟨fun n => .whole n⟩

namespace Amount

variable {ρ : Type}

instance : Tally.Reported ρ (Amount ρ) := ⟨document⟩

instance [Quantity ρ] : Tally (Amount ρ) where
  nothing := whole 0
  once := whole 1
  plus := plus
  isZero a := a.document.isZero
  isPositive
    | whole n => 0 < n
    | real x => decide ((0 : ρ) < x)
  isNegative
    | whole n => n < 0
    | real x => decide (x < 0)

end Amount

/-- A tracker with the count of every known signal, in the order in which they became known. -/
structure Coverage (ρ ν : Type) where
  /-- The name, mostly a text. -/
  name : Document ρ
  counts : List (Signal × ν)

namespace Coverage

/-- The name of a tracker that was not given one. -/
def standardName {ρ : Type} : Document ρ := .text "default"

variable {ρ ν : Type}

def knows (c : Coverage ρ ν) (signal : Signal) : Bool := (Table.get? signal c.counts).isSome

def size (c : Coverage ρ ν) : Nat := c.counts.length

/-- The counts in the order of the names, which have to be of one kind. -/
def sorted? (c : Coverage ρ ν) : Except (Failure ρ) (List (Signal × ν)) := do
  let names ← Signal.sorted? (c.counts.map (·.1))
  pure (names.filterMap fun signal => (Table.get? signal c.counts).map fun n => (signal,n))

variable [Tally ν]

/-- The count of a signal, zero for an unknown one. -/
def count (c : Coverage ρ ν) (signal : Signal) : ν := (Table.get? signal c.counts).getD Tally.nothing

def covered (c : Coverage ρ ν) : Nat := c.counts.countP fun e => Tally.isPositive e.2

/-- The share of known signals that were hit, in percent; zero where no signal is known. -/
def percentage [Quantity ρ] (c : Coverage ρ ν) : ρ :=
  if c.counts.isEmpty then 0 else Quantity.ratio c.covered c.size * 100.0

def known (c : Coverage ρ ν) (signal : Signal) : Coverage ρ ν :=
  if c.knows signal then c else { c with counts := Table.put signal Tally.nothing c.counts }

def hit (c : Coverage ρ ν) (signal : Signal) (amount : ν) : Coverage ρ ν :=
  { c with counts := Table.put signal (Tally.plus (c.count signal) amount) c.counts }

def absorb (c : Coverage ρ ν) (incoming : List (Signal × ν)) : Coverage ρ ν :=
  incoming.foldl (fun c e => c.hit e.1 e.2) c

def cleared (c : Coverage ρ ν) : Coverage ρ ν := { c with counts := c.counts.map fun e => (e.1,Tally.nothing) }

omit [Tally ν] in
def checkName (signal : Signal) : Action ρ (Coverage ρ ν) Unit :=
  if signal.isNamed then pure () else .refuse .emptySignalName

def checkAmount [Tally.Reported ρ ν] (amount : ν) : Action ρ (Coverage ρ ν) Unit :=
  if Tally.isNegative amount then .refuse (.negativeAmount (Tally.Reported.document amount)) else pure ()

omit [Tally ν] in
def checkNames : List Signal → Action ρ (Coverage ρ ν) Unit
  | [] => pure ()
  | signal :: rest => do
    checkName signal
    checkNames rest

/-- Refuses a table with a signal without a name, or with a negative count. -/
def checkEntries [Tally.Reported ρ ν] : List (Signal × ν) → Action ρ (Coverage ρ ν) Unit
  | [] => pure ()
  | e :: rest => do
    checkName e.1
    checkAmount e.2
    checkEntries rest

def declare (signal : Signal) : Action ρ (Coverage ρ ν) Unit := do
  checkName signal
  .update fun c => c.known signal

/-- Makes several signals known. -/
def declareAll (signals : List Signal) : Action ρ (Coverage ρ ν) Unit := do
  checkNames signals
  .update fun c => signals.foldl known c

/-- Adds hits to a signal, and gives its new count. -/
def increment [Tally.Reported ρ ν] (signal : Signal) (amount : ν) : Action ρ (Coverage ρ ν) ν := do
  checkName signal
  checkAmount amount
  .update fun c => c.hit signal amount
  let c ← .state
  pure (c.count signal)

/-- Takes in the signals of one execution, one hit for each, and gives those that were never hit
    before. -/
def observe (signals : List Signal) : Action ρ (Coverage ρ ν) (List Signal) := do
  let names := signals.eraseDups
  checkNames names
  let before ← .state
  let fresh := names.filter fun signal => Tally.isZero (before.count signal)
  .update fun c => names.foldl (fun c signal => c.hit signal Tally.once) c
  .noteIf (!fresh.isEmpty) (.coverageDiscovered before.name fresh.length)
  pure fresh

/-- Adds the counts of a table, if there is one. Of a repeated name the last count holds. -/
def merge [Tally.Reported ρ ν] (other : Option (List (Signal × ν))) : Action ρ (Coverage ρ ν) Unit := do
  match other with
  | none => .refuse .nothingToMerge
  | some entries => do
    let incoming := Table.ofEntries entries
    checkEntries incoming
    .update fun c => c.absorb incoming
    let c ← .state
    .note (.coverageMerged c.name incoming.length)

omit [Tally ν] in
/-- The counts as a table to merge into another tracker. -/
def snapshot (c : Coverage ρ ν) : List (Signal × ν) := c.counts

def reset : Action ρ (Coverage ρ ν) Unit := do
  .update cleared
  let c ← .state
  .note (.trackerReset c.name)

/-- A tracker that knows some signals. -/
def create (name : Document ρ) (signals : List Signal) : Trace ρ (Coverage ρ ν) Unit :=
  declareAll signals ⟨name,[]⟩

end Coverage

end Fuzzing

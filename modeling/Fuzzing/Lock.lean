/-!
A lock for many readers or one writer. A waiting writer keeps new readers out, so that a
steady stream of reads cannot starve a write. Threads wait on one condition: whoever leaves
the lock free notifies all of them, and a woken thread looks again whether it may enter.
A thread may also wake without being notified, and a waiting writer may give up.
-/
namespace Fuzzing.Lock

/-- Where a thread stands. A waiting thread has been notified or not since it looked last. -/
inductive Phase where
  | outside
  | waitingToRead (notified : Bool)
  | waitingToWrite (notified : Bool)
  | reading
  | writing
  deriving DecidableEq, Repr

/-- The counters of the lock, and the phase of every thread. -/
structure State where
  readers : Nat
  writer : Bool
  waitingWriters : Nat
  phases : List Phase
  deriving DecidableEq, Repr

/-- A free lock with so many threads outside. -/
def State.free (threads : Nat) : State := ⟨0,false,0,List.replicate threads .outside⟩

/-- What a thread can do in one go. -/
inductive Move where
  | askToRead
  | askToWrite
  | wake
  | giveUp
  | leave
  deriving DecidableEq, Repr

/-- The phase of a thread that has been notified. -/
def Phase.notified : Phase → Phase
  | .waitingToRead _ => .waitingToRead true
  | .waitingToWrite _ => .waitingToWrite true
  | p => p

/-- Whether a thread waits and has been notified. -/
def Phase.isNotified : Phase → Bool
  | .waitingToRead notified => notified
  | .waitingToWrite notified => notified
  | _ => false

namespace State

def place (s : State) (thread : Nat) (p : Phase) : State := { s with phases := s.phases.set thread p }

def notifyAll (s : State) : State := { s with phases := s.phases.map Phase.notified }

/-- Lets a thread read, unless a writer is inside or waits. -/
def tryRead (s : State) (thread : Nat) : State :=
  if s.writer || s.waitingWriters != 0 then s.place thread (.waitingToRead false)
  else { s with readers := s.readers + 1 }.place thread .reading

/-- Lets a waiting writer write, unless somebody is inside. -/
def tryWrite (s : State) (thread : Nat) : State :=
  if s.writer || s.readers != 0 then s.place thread (.waitingToWrite false)
  else { s with writer := true, waitingWriters := s.waitingWriters - 1 }.place thread .writing

/-- One move of a thread; none where its phase does not allow it. -/
def move? (s : State) (thread : Nat) (m : Move) : Option State :=
  match s.phases[thread]?, m with
  | some .outside, .askToRead => some (s.tryRead thread)
  | some .outside, .askToWrite => some ({ s with waitingWriters := s.waitingWriters + 1 }.tryWrite thread)
  | some (.waitingToRead _), .wake => some (s.tryRead thread)
  | some (.waitingToWrite _), .wake => some (s.tryWrite thread)
  | some (.waitingToWrite _), .giveUp =>
    some ({ s with waitingWriters := s.waitingWriters - 1 }.place thread .outside)
  | some .reading, .leave =>
    let s := { s with readers := s.readers - 1 }.place thread .outside
    some (if s.readers = 0 then s.notifyAll else s)
  | some .writing, .leave => some ({ s with writer := false }.place thread .outside).notifyAll
  | _, _ => none

/-- Wakes a thread if it has been notified. -/
private def wakeNotified (s : State) (thread : Nat) : State :=
  match s.phases[thread]? with
  | some p => if p.isNotified then (s.move? thread .wake).getD s else s
  | none => s

/-- Wakes all threads that have been notified, in turn. -/
def settled (s : State) : State := (List.range s.phases.length).foldl wakeNotified s

end State

/-- One move of some thread. -/
def Step (s t : State) : Prop := ∃ thread m, s.move? thread m = some t

/-- The states that any order of moves leads to. -/
inductive Reachable (threads : Nat) : State → Prop where
  | free : Reachable threads (.free threads)
  | step {s t : State} : Reachable threads s → Step s t → Reachable threads t

end Fuzzing.Lock

import Fuzzing.Lock

/-!
What the lock guarantees in every state that moves lead to, however many threads there are and whatever the order of
their moves. The counters count phases (`Orderly`), and no thread begins to read while a writer is inside or waits
(`Turn.admits`). A move does one of seven things (`Turn`), and each of them changes the phase of one thread at a time, so
that a count loses what the thread was counted for and gains what it is counted for now. A move leads to a deserted
state, in which a thread sleeps and nobody is left to wake it, exactly if a writer that has been notified gives up, with
nobody inside and nobody else notified, while a reader sleeps (`deserted_iff`).
-/
namespace Fuzzing.Lock

/-- Whether a thread waits for its turn to write. -/
def Phase.waitsToWrite : Phase → Bool
  | .waitingToWrite _ => true
  | _ => false

variable {s t : State} {thread k threads : Nat} {p q : Phase} {m : Move}

namespace State

variable {test : Phase → Bool}

/-- How many threads are in a phase that passes a test. -/
private def count (s : State) (test : Phase → Bool) : Nat := s.phases.countP test

private theorem count_pos (stands : s.phases[thread]? = some p) (passes : test p = true) : 0 < s.count test :=
  List.countP_pos_iff.mpr ⟨p,List.mem_of_getElem? stands,passes⟩

private theorem count_place (stands : s.phases[thread]? = some p) (q : Phase) (test : Phase → Bool) :
    (s.place thread q).count test + (test p).toNat = s.count test + (test q).toNat := by
  obtain ⟨inside,rfl⟩ := List.getElem?_eq_some_iff.mp stands
  have placed : (s.place thread q).count test =
      (s.count test - if test s.phases[thread] then 1 else 0) + if test q then 1 else 0 := List.countP_set inside
  cases before : test s.phases[thread] with
  | false => cases after : test q <;> simp [placed,before,after]
  | true =>
    have counted : 0 < s.count test := count_pos stands before
    cases after : test q <;> simp [placed,before,after] <;> omega

private theorem count_notifyAll (blind : ∀ p : Phase, test p.notified = test p) : s.notifyAll.count test = s.count test := by
  simp only [count,notifyAll,List.countP_map]
  exact List.countP_congr fun p _ => by simp [blind]

private theorem tryRead_place (s : State) (thread : Nat) (p : Phase) :
    (s.place thread p).tryRead thread = s.tryRead thread := by
  simp [tryRead,place]

private theorem tryWrite_place (s : State) (thread : Nat) (p : Phase) :
    (s.place thread p).tryWrite thread = s.tryWrite thread := by
  simp [tryWrite,place]

end State

/-- What a thread does in one move. Who asks for the lock joins those who wait, awake, and looks at once whether it may
    enter; who leaves the lock free notifies all. -/
inductive Turn (s : State) (thread : Nat) : Move → State → Prop where
  | asksToRead : s.phases[thread]? = some .outside →
      Turn s thread .askToRead ((s.place thread (.waitingToRead true)).tryRead thread)
  | asksToWrite : s.phases[thread]? = some .outside →
      Turn s thread .askToWrite
        (({ s with waitingWriters := s.waitingWriters + 1 }.place thread (.waitingToWrite true)).tryWrite thread)
  | looksToRead {notified : Bool} : s.phases[thread]? = some (.waitingToRead notified) →
      Turn s thread .wake (s.tryRead thread)
  | looksToWrite {notified : Bool} : s.phases[thread]? = some (.waitingToWrite notified) →
      Turn s thread .wake (s.tryWrite thread)
  | givesUp {notified : Bool} : s.phases[thread]? = some (.waitingToWrite notified) →
      Turn s thread .giveUp ({ s with waitingWriters := s.waitingWriters - 1 }.place thread .outside)
  | stopsReading : s.phases[thread]? = some .reading → s.readers - 1 ≠ 0 →
      Turn s thread .leave ({ s with readers := s.readers - 1 }.place thread .outside)
  | stopsReadingLast : s.phases[thread]? = some .reading → s.readers - 1 = 0 →
      Turn s thread .leave ({ s with readers := s.readers - 1 }.place thread .outside).notifyAll
  | stopsWriting : s.phases[thread]? = some .writing →
      Turn s thread .leave ({ s with writer := false }.place thread .outside).notifyAll

private theorem turn_of_move? (moved : s.move? thread m = some t) : Turn s thread m t := by
  unfold State.move? at moved
  split at moved
  next stands =>
    cases moved
    rw [← State.tryRead_place s thread (.waitingToRead true)]
    exact .asksToRead stands
  next stands =>
    cases moved
    rw [← State.tryWrite_place _ thread (.waitingToWrite true)]
    exact .asksToWrite stands
  next stands => cases moved; exact .looksToRead stands
  next stands => cases moved; exact .looksToWrite stands
  next stands => cases moved; exact .givesUp stands
  next stands =>
    cases moved
    split
    next last => exact .stopsReadingLast stands last
    next others => exact .stopsReading stands others
  next stands => cases moved; exact .stopsWriting stands
  next => cases moved

/-- The counters count the phases of the threads, and nobody reads while somebody writes. -/
structure Orderly (s : State) : Prop where
  readers : s.readers = s.count (· == .reading)
  writers : s.writer.toNat = s.count (· == .writing)
  waitingWriters : s.waitingWriters = s.count Phase.waitsToWrite
  apart : s.writer = true → s.readers = 0

namespace Orderly

private theorem free (threads : Nat) : Orderly (.free threads) where
  readers := by simp [State.free,State.count,List.countP_replicate]
  writers := by simp [State.free,State.count,List.countP_replicate]
  waitingWriters := by simp [State.free,State.count,List.countP_replicate,Phase.waitsToWrite]
  apart := nofun

private theorem place (orderly : Orderly s) (stands : s.phases[thread]? = some p) {readers waitingWriters : Nat} {writer : Bool}
    (counted : readers + (p == .reading).toNat = s.readers + (q == .reading).toNat)
    (flagged : writer.toNat + (p == .writing).toNat = s.writer.toNat + (q == .writing).toNat)
    (queued : waitingWriters + p.waitsToWrite.toNat = s.waitingWriters + q.waitsToWrite.toNat)
    (apart : writer = true → readers = 0) :
    Orderly (State.place { s with readers, writer, waitingWriters } thread q) := by
  have moved (test : Phase → Bool) :
      (State.place { s with readers, writer, waitingWriters } thread q).count test + (test p).toNat =
        s.count test + (test q).toNat := State.count_place stands q test
  refine ⟨?_,?_,?_,apart⟩
  · have := moved (· == .reading)
    have := orderly.readers
    simp only [State.place] at *
    omega
  · have := moved (· == .writing)
    have := orderly.writers
    simp only [State.place] at *
    omega
  · have := moved Phase.waitsToWrite
    have := orderly.waitingWriters
    simp only [State.place] at *
    omega

private theorem notifyAll (orderly : Orderly s) : Orderly s.notifyAll where
  readers := by
    rw [State.count_notifyAll fun p => by cases p <;> rfl]
    exact orderly.readers
  writers := by
    rw [State.count_notifyAll fun p => by cases p <;> rfl]
    exact orderly.writers
  waitingWriters := by
    rw [State.count_notifyAll fun p => by cases p <;> rfl]
    exact orderly.waitingWriters
  apart := orderly.apart

private theorem tryRead (orderly : Orderly s) {notified : Bool} (stands : s.phases[thread]? = some (.waitingToRead notified)) :
    Orderly (s.tryRead thread) := by
  unfold State.tryRead
  split
  next => exact orderly.place stands rfl rfl rfl orderly.apart
  next free =>
    have absent : s.writer = false := by simp_all
    exact orderly.place stands rfl rfl rfl fun writes => by simp [absent] at writes

private theorem tryWrite (orderly : Orderly s) {notified : Bool}
    (stands : s.phases[thread]? = some (.waitingToWrite notified)) : Orderly (s.tryWrite thread) := by
  have queued : 0 < s.waitingWriters := orderly.waitingWriters ▸ State.count_pos stands rfl
  unfold State.tryWrite
  split
  next => exact orderly.place stands rfl rfl rfl orderly.apart
  next free =>
    have absent : s.writer = false := by simp_all
    have nobody : s.readers = 0 := by simp_all
    exact orderly.place stands rfl (by simp [absent]) (Nat.sub_add_cancel queued) fun _ => nobody

private theorem of_turn (orderly : Orderly s) (turn : Turn s thread m t) : Orderly t := by
  cases turn with
  | asksToRead stands =>
    have inside := (List.getElem?_eq_some_iff.mp stands).1
    have placed : (s.place thread (.waitingToRead true)).phases[thread]? = some (.waitingToRead true) := by
      simp [State.place,inside]
    exact tryRead (orderly.place stands rfl rfl rfl orderly.apart) placed
  | asksToWrite stands =>
    have inside := (List.getElem?_eq_some_iff.mp stands).1
    have placed : (s.place thread (.waitingToWrite true)).phases[thread]? = some (.waitingToWrite true) := by
      simp [State.place,inside]
    exact tryWrite (orderly.place stands rfl rfl rfl orderly.apart) placed
  | looksToRead stands => exact orderly.tryRead stands
  | looksToWrite stands => exact orderly.tryWrite stands
  | givesUp stands =>
    have queued : 0 < s.waitingWriters := orderly.waitingWriters ▸ State.count_pos stands rfl
    exact orderly.place stands rfl rfl (Nat.sub_add_cancel queued) orderly.apart
  | stopsReading stands others =>
    refine orderly.place stands (Nat.sub_add_cancel (by omega)) rfl rfl fun writes => ?_
    rw [orderly.apart writes]
  | stopsReadingLast stands last =>
    have inside : 0 < s.readers := orderly.readers ▸ State.count_pos stands rfl
    exact notifyAll (orderly.place stands (Nat.sub_add_cancel inside) rfl rfl fun _ => last)
  | stopsWriting stands =>
    have inside : 0 < s.writer.toNat := orderly.writers ▸ State.count_pos stands rfl
    have flagged : s.writer = true := by
      cases flag : s.writer with
      | false => simp [flag] at inside
      | true => rfl
    exact notifyAll (orderly.place stands rfl (by simp [flagged]) rfl nofun)

end Orderly

private theorem Reachable.orderly (reached : Reachable threads s) : Orderly s := by
  induction reached with
  | free => exact .free threads
  | step _ step orderly =>
    obtain ⟨thread,m,moved⟩ := step
    exact orderly.of_turn (turn_of_move? moved)

namespace State

private theorem reads_of_set {phases : List Phase} (other : q ≠ .reading)
    (reads : (phases.set thread q)[k]? = some .reading) : phases[k]? = some .reading := by
  simp only [List.getElem?_set] at reads
  grind

private theorem reads_of_notifyAll (reads : s.notifyAll.phases[k]? = some .reading) : s.phases[k]? = some .reading := by
  simp only [notifyAll,List.getElem?_map,Option.map_eq_some_iff] at reads
  obtain ⟨p,stands,same⟩ := reads
  cases p <;> simp_all [Phase.notified]

private theorem reads_of_tryWrite (reads : (s.tryWrite thread).phases[k]? = some .reading) : s.phases[k]? = some .reading := by
  unfold tryWrite at reads
  split at reads <;> exact reads_of_set (by decide) reads

private theorem reads_of_tryRead (reads : (s.tryRead thread).phases[k]? = some .reading) :
    s.phases[k]? = some .reading ∨ s.writer = false ∧ s.waitingWriters = 0 := by
  unfold tryRead at reads
  split at reads
  next => exact .inl (reads_of_set (by decide) reads)
  next free => exact .inr (by simpa using free)

end State

theorem Turn.admits (turn : Turn s thread m t) (reads : t.phases[k]? = some .reading)
    (apart : s.phases[k]? ≠ some .reading) : s.writer = false ∧ s.waitingWriters = 0 := by
  cases turn with
  | asksToRead =>
    rcases State.reads_of_tryRead reads with reads | free
    · exact absurd (State.reads_of_set (by decide) reads) apart
    · exact free
  | looksToRead => exact (State.reads_of_tryRead reads).resolve_left apart
  | asksToWrite => exact absurd (State.reads_of_set (by decide) (State.reads_of_tryWrite reads)) apart
  | looksToWrite => exact absurd (State.reads_of_tryWrite reads) apart
  | givesUp | stopsReading => exact absurd (State.reads_of_set (by decide) reads) apart
  | stopsReadingLast | stopsWriting =>
    exact absurd (State.reads_of_set (by decide) (State.reads_of_notifyAll reads)) apart

private theorem Orderly.forall_of_free (orderly : Orderly s) (absent : s.writer = false) (nobody : s.waitingWriters = 0) :
    ∀ p ∈ s.phases, p ≠ .writing ∧ p.waitsToWrite = false := by
  have writers := orderly.writers
  have waiting := orderly.waitingWriters
  rw [absent] at writers
  rw [nobody] at waiting
  intro p mem
  constructor
  · rintro rfl
    exact List.countP_eq_zero.mp writers.symm _ mem rfl
  · simpa using List.countP_eq_zero.mp waiting.symm p mem

/-- The state after moves of threads in turn; none where one of them is not allowed. -/
private def State.run? : State → List (Nat × Move) → Option State
  | s, [] => some s
  | s, (thread,m) :: rest => (s.move? thread m).bind fun t => t.run? rest

private theorem Reachable.of_run? {moves : List (Nat × Move)} (reached : Reachable threads s) (ran : s.run? moves = some t) :
    Reachable threads t := by
  induction moves generalizing s with
  | nil =>
    cases ran
    exact reached
  | cons move rest ih =>
    obtain ⟨next,moved,ran⟩ := Option.bind_eq_some_iff.mp ran
    exact ih (.step reached ⟨_,_,moved⟩) ran

private theorem length_phases_of_move? (moved : s.move? thread m = some t) : t.phases.length = s.phases.length := by
  cases turn_of_move? moved <;>
    simp [State.tryRead,State.tryWrite,State.place,State.notifyAll,apply_ite State.phases,apply_ite List.length]

private theorem Reachable.length_phases (reached : Reachable threads s) : s.phases.length = threads := by
  induction reached with
  | free => simp [State.free]
  | step _ step same =>
    obtain ⟨thread,m,moved⟩ := step
    rw [length_phases_of_move? moved,same]

/-- In every state that moves lead to, the counters tell how many threads read, write and wait to write; at most one
    writes, and then none reads; and no move lets a thread begin to read while another one writes or waits to. -/
theorem reachable_excludes (reached : Reachable threads s) :
    s.phases.length = threads ∧
      s.phases.count .writing ≤ 1 ∧ (s.writer = true ↔ s.phases.count .writing = 1) ∧
      (s.writer = true → Phase.reading ∉ s.phases) ∧
      s.readers = s.phases.count .reading ∧ s.waitingWriters = s.phases.countP Phase.waitsToWrite ∧
      ∀ t, Step s t → ∀ k : Nat, t.phases[k]? = some .reading → s.phases[k]? ≠ some .reading →
        ∀ p ∈ s.phases, p ≠ .writing ∧ p.waitsToWrite = false := by
  have orderly := reached.orderly
  have writers : s.writer.toNat = s.phases.count .writing := orderly.writers
  refine ⟨reached.length_phases,?_,?_,?_,orderly.readers,orderly.waitingWriters,?_⟩
  · exact writers ▸ s.writer.toNat_le
  · rw [← writers]
    cases s.writer <;> decide
  · intro writes mem
    have nobody : s.phases.count .reading = 0 := orderly.readers.symm.trans (orderly.apart writes)
    exact List.count_eq_zero.mp nobody mem
  · rintro t ⟨thread,m,moved⟩ k reads apart
    obtain ⟨absent,nobody⟩ := (turn_of_move? moved).admits reads apart
    exact orderly.forall_of_free absent nobody

/-- One thread reads, one waits to write, a third one behind it waits to read, and a fourth one is outside. -/
def queue : State := ⟨1,false,1,[.reading,.waitingToWrite false,.waitingToRead false,.outside]⟩

theorem reachable_excludes_queue :
    Reachable 4 queue ∧ queue.readers = queue.phases.count .reading ∧
      queue.waitingWriters = queue.phases.countP Phase.waitsToWrite ∧
      ∀ t, Step queue t → ∀ k : Nat, t.phases[k]? = some .reading → queue.phases[k]? = some .reading := by
  have reached : Reachable 4 queue := Reachable.free.of_run?
    (show (State.free 4).run? [(0,.askToRead),(1,.askToWrite),(2,.askToRead)] = some queue from rfl)
  obtain ⟨-,-,-,-,readers,waiting,entered⟩ := reachable_excludes reached
  refine ⟨reached,readers,waiting,fun t step k reads => Decidable.byContradiction fun apart => ?_⟩
  exact absurd (entered t step k reads apart (.waitingToWrite false) (by decide)).2 (by decide)

/-- Whether a thread reads or writes. -/
def Phase.isInside : Phase → Bool
  | .reading | .writing => true
  | _ => false

/-- Whether a thread waits without having been notified. -/
def Phase.isAsleep : Phase → Bool
  | .waitingToRead notified | .waitingToWrite notified => !notified
  | _ => false

/-- Some thread sleeps, nobody is inside, and nobody has been notified. -/
def State.Deserted (s : State) : Prop :=
  (∃ p ∈ s.phases, p.isAsleep = true) ∧ ∀ p ∈ s.phases, p.isInside = false ∧ p.isNotified = false

/-- Somebody is inside whenever a writer sleeps. -/
private def Attended (s : State) : Prop := Phase.waitingToWrite false ∈ s.phases → s.writer = true ∨ s.readers ≠ 0

private theorem State.busy_tryRead (s : State) (thread : Nat) :
    ((s.tryRead thread).writer = true ∨ (s.tryRead thread).readers ≠ 0) ∨ (s.tryRead thread).waitingWriters ≠ 0 := by
  unfold tryRead
  split
  next taken =>
    rcases Bool.or_eq_true_iff.mp taken with writes | waits
    · exact .inl (.inl writes)
    · exact .inr (bne_iff_ne.mp waits)
  next => exact .inl (.inr (Nat.succ_ne_zero _))

private theorem State.taken_tryWrite (s : State) (thread : Nat) :
    (s.tryWrite thread).writer = true ∨ (s.tryWrite thread).readers ≠ 0 := by
  unfold tryWrite
  split
  next taken =>
    rcases Bool.or_eq_true_iff.mp taken with writes | read
    · exact .inl writes
    · exact .inr (bne_iff_ne.mp read)
  next => exact .inl rfl

private theorem mem_of_mem_set {phases : List Phase} (mem : p ∈ phases.set thread q) (other : p ≠ q) : p ∈ phases :=
  (List.mem_or_eq_of_mem_set mem).resolve_right other

namespace Attended

private theorem free (threads : Nat) : Attended (.free threads) := by
  intro mem
  simp [State.free] at mem

private theorem place (attended : Attended s) {readers waitingWriters : Nat} {writer : Bool} (awake : q ≠ .waitingToWrite false)
    (stays : s.writer = true ∨ s.readers ≠ 0 → writer = true ∨ readers ≠ 0) :
    Attended (State.place { s with readers, writer, waitingWriters } thread q) :=
  fun mem => stays (attended (mem_of_mem_set mem awake.symm))

private theorem of_inside (inside : s.writer = true ∨ s.readers ≠ 0) : Attended s := fun _ => inside

private theorem notifyAll (s : State) : Attended s.notifyAll := by
  intro mem
  obtain ⟨p,-,same⟩ := List.mem_map.mp mem
  cases p <;> simp [Phase.notified] at same

private theorem tryRead (attended : Attended s) : Attended (s.tryRead thread) := by
  unfold State.tryRead
  split
  next => exact attended.place (by decide) id
  next => exact of_inside (.inr (Nat.succ_ne_zero _))

private theorem of_turn (attended : Attended s) (turn : Turn s thread m t) : Attended t := by
  cases turn with
  | asksToRead => exact (attended.place (by decide) id).tryRead
  | looksToRead => exact attended.tryRead
  | asksToWrite | looksToWrite => exact of_inside (State.taken_tryWrite _ _)
  | givesUp => exact attended.place (by decide) id
  | stopsReading _ others => exact of_inside (.inr others)
  | stopsReadingLast | stopsWriting => exact notifyAll _

end Attended

private theorem Reachable.attended (reached : Reachable threads s) : Attended s := by
  induction reached with
  | free => exact .free threads
  | step _ step attended =>
    obtain ⟨thread,m,moved⟩ := step
    exact attended.of_turn (turn_of_move? moved)

private theorem Orderly.exists_inside (orderly : Orderly s) (inside : s.writer = true ∨ s.readers ≠ 0) :
    ∃ p ∈ s.phases, p.isInside = true := by
  have writers : s.writer.toNat = s.phases.count .writing := orderly.writers
  have readers : s.readers = s.phases.count .reading := orderly.readers
  rcases inside with writes | read
  · rw [writes] at writers
    exact ⟨.writing,List.count_pos_iff.mp (writers ▸ Nat.one_pos),rfl⟩
  · exact ⟨.reading,List.count_pos_iff.mp (readers ▸ Nat.pos_of_ne_zero read),rfl⟩

namespace State

private theorem not_deserted_of_inside (orderly : Orderly s) (inside : s.writer = true ∨ s.readers ≠ 0) : ¬ s.Deserted := by
  rintro ⟨-,alone⟩
  obtain ⟨p,mem,within⟩ := orderly.exists_inside inside
  simp [(alone p mem).1] at within

private theorem not_deserted_of_waiting (orderly : Orderly s) (attended : Attended s) (waits : s.waitingWriters ≠ 0) :
    ¬ s.Deserted := by
  have counted : 0 < s.count Phase.waitsToWrite := by
    rw [← orderly.waitingWriters]
    exact Nat.pos_of_ne_zero waits
  obtain ⟨p,mem,same⟩ := List.countP_pos_iff.mp counted
  match p with
  | .waitingToWrite true => exact fun deserted => absurd (deserted.2 _ mem).2 (by decide)
  | .waitingToWrite false => exact not_deserted_of_inside orderly (attended mem)

private theorem not_deserted_notifyAll (s : State) : ¬ s.notifyAll.Deserted := by
  rintro ⟨⟨p,mem,asleep⟩,-⟩
  obtain ⟨q,-,rfl⟩ := List.mem_map.mp mem
  cases q <;> simp [Phase.notified,Phase.isAsleep] at asleep

end State

/-- Only a writer that gives up leaves a deserted state behind. -/
private theorem Turn.gaveUp (turn : Turn s thread m t) (orderly : Orderly t) (attended : Attended t) (deserted : t.Deserted) :
    m = .giveUp := by
  have alone (inside : t.writer = true ∨ t.readers ≠ 0) : False := State.not_deserted_of_inside orderly inside deserted
  cases turn with
  | asksToRead | looksToRead =>
    rcases State.busy_tryRead _ thread with inside | waits
    · exact (alone inside).elim
    · exact absurd deserted (State.not_deserted_of_waiting orderly attended waits)
  | asksToWrite | looksToWrite => exact (alone (State.taken_tryWrite _ _)).elim
  | givesUp => rfl
  | stopsReading _ others => exact (alone (.inr others)).elim
  | stopsReadingLast | stopsWriting => exact absurd deserted (State.not_deserted_notifyAll _)

/-- Nobody but one thread is inside or has been notified. -/
def State.LeftTo (s : State) (thread : Nat) : Prop :=
  ∀ p ∈ s.phases.eraseIdx thread, p.isInside = false ∧ p.isNotified = false

/-- A move leads to a deserted state if it is that of a writer who gives up although it was left to it to go on, while a
    reader sleeps, and only then. -/
theorem deserted_iff (reached : Reachable threads s) (moved : s.move? thread m = some t) :
    t.Deserted ↔ m = .giveUp ∧ s.phases[thread]? = some (.waitingToWrite true) ∧
      Phase.waitingToRead false ∈ s.phases ∧ s.LeftTo thread := by
  have turn := turn_of_move? moved
  have orderly := reached.orderly.of_turn turn
  have attended := reached.attended.of_turn turn
  constructor
  · intro deserted
    obtain rfl := turn.gaveUp orderly attended deserted
    cases turn with | @givesUp notified stands =>
    obtain ⟨⟨p,mem,asleep⟩,alone⟩ := deserted
    have empty : ¬ (s.writer = true ∨ s.readers ≠ 0) := fun inside =>
      State.not_deserted_of_inside orderly inside ⟨⟨p,mem,asleep⟩,alone⟩
    refine ⟨rfl,?_,?_,?_⟩
    · cases notified with
      | true => exact stands
      | false => exact absurd (reached.attended (List.mem_of_getElem? stands)) empty
    · match p with
      | .waitingToRead false => exact mem_of_mem_set mem (by decide)
      | .waitingToWrite false => exact absurd (attended mem) empty
    · intro p mem
      obtain ⟨k,other,there⟩ := List.mem_eraseIdx_iff_getElem?.mp mem
      refine alone p (List.mem_of_getElem? (i := k) ?_)
      simpa [State.place,List.getElem?_set,other.symm] using there
  · rintro ⟨rfl,stands,sleeps,left⟩
    cases turn with | givesUp =>
    constructor
    · obtain ⟨k,there⟩ := List.mem_iff_getElem?.mp sleeps
      have other : k ≠ thread := by
        rintro rfl
        simp [stands] at there
      refine ⟨.waitingToRead false,List.mem_of_getElem? (i := k) ?_,rfl⟩
      simpa [State.place,List.getElem?_set,other.symm] using there
    · intro p mem
      obtain ⟨k,there⟩ := List.mem_iff_getElem?.mp mem
      by_cases same : k = thread
      · subst same
        obtain rfl : .outside = p := by simpa [State.place,(List.getElem?_eq_some_iff.mp stands).1] using there
        exact ⟨rfl,rfl⟩
      · refine left p (List.mem_eraseIdx_iff_getElem?.mpr ⟨k,same,?_⟩)
        simpa [State.place,List.getElem?_set,Ne.symm same] using there

/-- The states that moves lead to as long as no writer gives up once it has been notified. -/
inductive Steadfast (threads : Nat) : State → Prop where
  | free : Steadfast threads (.free threads)
  | step {s t : State} {thread : Nat} {m : Move} : Steadfast threads s → s.move? thread m = some t →
      (m = .giveUp → s.phases[thread]? ≠ some (.waitingToWrite true)) → Steadfast threads t

private theorem Steadfast.reachable (steadfast : Steadfast threads s) : Reachable threads s := by
  induction steadfast with
  | free => exact .free
  | step _ moved _ reached => exact .step reached ⟨_,_,moved⟩

/-- No state is deserted unless a writer gave up that had been notified; and the move of such a writer leaves a deserted
    state exactly if it was left to that writer to go on, while a reader slept. -/
theorem wakeups_lost_by_giving_up (threads : Nat) :
    (∀ s, Steadfast threads s → ¬ s.Deserted) ∧
      ∀ s thread m t, Reachable threads s → s.move? thread m = some t →
        (t.Deserted ↔ m = .giveUp ∧ s.phases[thread]? = some (.waitingToWrite true) ∧
          Phase.waitingToRead false ∈ s.phases ∧ s.LeftTo thread) := by
  refine ⟨fun s steadfast => ?_,fun s thread m t reached moved => deserted_iff reached moved⟩
  cases steadfast with
  | free =>
    rintro ⟨⟨p,mem,asleep⟩,-⟩
    obtain rfl := List.eq_of_mem_replicate mem
    cases asleep
  | step steadfast moved keeps =>
    intro deserted
    obtain ⟨gaveUp,notified,-⟩ := (deserted_iff steadfast.reachable moved).mp deserted
    exact keeps gaveUp notified

/-- A reader looked before the writer that has been notified, and waits for it. -/
def behindWriter : State := ⟨0,false,1,[.outside,.waitingToWrite true,.waitingToRead false]⟩

/-- A thread reads while another one queues to write and a third one to read; it leaves, and the third one looks. -/
private theorem steadfast_behindWriter : Steadfast 3 behindWriter := by
  have entered : Steadfast 3 ⟨1,false,0,[.reading,.outside,.outside]⟩ :=
    Steadfast.free.step (show (State.free 3).move? 0 .askToRead = _ from rfl) nofun
  have queued : Steadfast 3 ⟨1,false,1,[.reading,.waitingToWrite false,.outside]⟩ :=
    entered.step (show State.move? _ 1 .askToWrite = _ from rfl) nofun
  have behind : Steadfast 3 ⟨1,false,1,[.reading,.waitingToWrite false,.waitingToRead false]⟩ :=
    queued.step (show State.move? _ 2 .askToRead = _ from rfl) nofun
  have left : Steadfast 3 ⟨0,false,1,[.outside,.waitingToWrite true,.waitingToRead true]⟩ :=
    behind.step (show State.move? _ 0 .leave = _ from rfl) nofun
  exact left.step (show State.move? _ 2 .wake = _ from rfl) nofun

theorem wakeups_lost_by_giving_up_behind : ¬ behindWriter.Deserted ∧
    ∀ t, behindWriter.move? 1 .giveUp = some t → t.Deserted := by
  obtain ⟨kept,lost⟩ := wakeups_lost_by_giving_up 3
  refine ⟨kept _ steadfast_behindWriter,fun t moved => ?_⟩
  have left : behindWriter.LeftTo 1 := by
    unfold State.LeftTo
    decide
  exact (lost _ 1 .giveUp t steadfast_behindWriter.reachable moved).mpr ⟨rfl,rfl,by decide,left⟩

/-- The writer that has been notified gives up: the lock is free, and a reader sleeps with nobody to wake it. -/
theorem free_lock_with_sleeper : ∃ s, Reachable 3 s ∧ s.Deserted ∧
    s.readers = 0 ∧ s.writer = false ∧ s.waitingWriters = 0 := by
  have moved : behindWriter.move? 1 .giveUp = some ⟨0,false,0,[.outside,.outside,.waitingToRead false]⟩ := rfl
  refine ⟨_,.step steadfast_behindWriter.reachable ⟨1,.giveUp,moved⟩,?_,rfl,rfl,rfl⟩
  exact ⟨⟨.waitingToRead false,by decide,rfl⟩,by decide⟩

end Fuzzing.Lock

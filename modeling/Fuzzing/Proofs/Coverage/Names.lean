import Fuzzing.Proofs.Action.Matches
import Fuzzing.Proofs.Coverage.Write

/-!
The names of the trackers that campaigns use, and how many of them were hit. Whatever calls were made, every known signal
is named and no name stands twice (`Made.proper`), so that a new tracker accepts the names of such a tracker
(`Proper.returns_create`). An execution makes the number of signals that were hit grow by those that it was the first to
reach (`covered_of_returns_observe`).
-/
namespace Fuzzing.Coverage

variable {ρ ν : Type}

section

variable [Tally ν]

/-- The tracker after a hit for each of some signals. -/
def observed (c : Coverage ρ ν) (signals : List Signal) : Coverage ρ ν :=
  signals.eraseDups.foldl (fun c signal => c.hit signal Tally.once) c

private theorem state_observe (signals : List Signal) (c : Coverage ρ ν) :
    (observe signals c).state = if ∀ signal ∈ signals, signal.isNamed = true then c.observed signals else c := by
  rw [observe,Action.state_checked (Write.checkNames_apply · c) (Write.refuses_checkNames · c)]
  simp only [Write.forall_isNamed_eraseDups]
  congr 1
  rw [Action.state_bind_apply]
  refine Action.state_bind_of_still (fun _ c' => ?_) c
  refine Action.state_bind_of_still (fun _ _ => rfl) c' |>.trans ?_
  unfold Action.noteIf
  split <;> rfl

/-- The signals of a result that is taken in are named, and the tracker has a hit for each. -/
theorem observed_of_returns {signals fresh : List Signal} {t t' : Coverage ρ ν} (ran : (observe signals).Returns t fresh t') :
    (∀ signal ∈ signals, signal.isNamed = true) ∧ t' = t.observed signals := by
  have state := state_observe signals t
  by_cases named : ∀ signal ∈ signals, signal.isNamed = true
  · obtain ⟨events,ran⟩ := ran
    rw [ran,if_pos named] at state
    exact ⟨named,state⟩
  · have nameless := mt (Write.forall_isNamed_eraseDups signals).mp named
    obtain ⟨why,refused⟩ := (Write.refuses_checkNames nameless t).bind _
    obtain ⟨events,ran⟩ := ran
    rw [observe,refused] at ran
    cases ran

end

/-- Every known signal is named, and none stands twice. -/
structure Proper (c : Coverage ρ Nat) : Prop where
  distinct : Table.Distinct c.counts
  named : ∀ e ∈ c.counts, e.1.isNamed = true

private theorem proper_empty (name : Document ρ) : Proper (⟨name,[]⟩ : Coverage ρ Nat) where
  distinct := List.Pairwise.nil
  named _ mem := absurd mem List.not_mem_nil

namespace Proper

variable {c : Coverage ρ Nat}

private theorem put (proper : c.Proper) {signal : Signal} (named : signal.isNamed = true) (n : Nat) :
    Proper ⟨c.name,Table.put signal n c.counts⟩ where
  distinct := proper.distinct.put signal n
  named := by
    have shared (a b : Signal) (same : (a == b) = true) : (!a.isNamed) = !b.isNamed := by rw [Signal.isNamed_congr same]
    have none : ((Table.put signal n c.counts).any fun e => !e.1.isNamed) = false := by
      rw [Table.any_put shared,named,Bool.not_true,Bool.false_or,List.any_eq_false]
      intro e mem
      rw [proper.named e mem]
      exact Bool.false_ne_true
    intro e mem
    simpa using List.any_eq_false.mp none e mem

private theorem known (proper : c.Proper) {signal : Signal} (named : signal.isNamed = true) : (c.known signal).Proper := by
  rw [Coverage.known]
  split
  · exact proper
  · exact proper.put named _

private theorem absorb (proper : c.Proper) {incoming : List (Signal × Nat)} (named : ∀ e ∈ incoming, e.1.isNamed = true) :
    (c.absorb incoming).Proper :=
  List.foldlRecOn incoming _ proper fun _ proper e mem => proper.put (named e mem) _

private theorem observed (proper : c.Proper) {signals : List Signal} (named : ∀ signal ∈ signals, signal.isNamed = true) :
    (c.observed signals).Proper := by
  have named := (Write.forall_isNamed_eraseDups signals).mpr named
  exact List.foldlRecOn _ _ proper fun _ proper s mem => proper.put (named s mem) _

private theorem cleared (proper : c.Proper) : c.cleared.Proper where
  distinct := List.pairwise_map.mpr proper.distinct
  named := by
    intro e mem
    obtain ⟨other,there,rfl⟩ := List.mem_map.mp mem
    exact proper.named other there

end Proper

/-- A tracker that calls lead to: a new one, or one after a call, whether that succeeded or not. -/
inductive Made : Coverage ρ Nat → Prop where
  | create {name : Document ρ} {signals : List Signal} {c : Coverage ρ Nat} {events : List (Event ρ)} :
    create name signals = ⟨.ok (),c,events⟩ → Made c
  | declare {c : Coverage ρ Nat} (signal : Signal) : Made c → Made (declare signal c).state
  | declareAll {c : Coverage ρ Nat} (signals : List Signal) : Made c → Made (declareAll signals c).state
  | increment {c : Coverage ρ Nat} (signal : Signal) (amount : Nat) : Made c → Made (increment signal amount c).state
  | observe {c : Coverage ρ Nat} (signals : List Signal) : Made c → Made (observe signals c).state
  | merge {c : Coverage ρ Nat} (other : Option (List (Signal × Nat))) : Made c → Made (merge other c).state
  | reset {c : Coverage ρ Nat} : Made c → Made (reset c).state

private theorem proper_declareAll {c : Coverage ρ Nat} (proper : c.Proper) (signals : List Signal) :
    (declareAll signals c).state.Proper := by
  rw [declareAll,Action.state_checked (Write.checkNames_apply · c) (Write.refuses_checkNames · c)]
  split
  next named => exact List.foldlRecOn signals _ proper fun _ proper s mem => proper.known (named s mem)
  · exact proper

private theorem checkEntries_nat (entries : List (Signal × Nat)) :
    (checkEntries entries : Action ρ (Coverage ρ Nat) Unit) = checkNames (entries.map Prod.fst) := by
  induction entries with
  | nil => rfl
  | cons e rest ih =>
    have amount : (checkAmount e.2 : Action ρ (Coverage ρ Nat) Unit) = pure () := rfl
    rw [checkEntries,ih,amount]
    exact bind_congr fun _ => pure_bind _ _

theorem Made.proper {c : Coverage ρ Nat} (made : c.Made) : c.Proper := by
  induction made with
  | @create name signals c events created =>
    have proper : (Coverage.create name signals).state.Proper := proper_declareAll (proper_empty name) signals
    rwa [created] at proper
  | @declare c signal _ proper =>
    rw [Coverage.declare,Action.state_checked (Write.checkName_apply · c) (Write.refuses_checkName · c)]
    split
    next named => exact proper.known named
    · exact proper
  | declareAll signals _ proper => exact proper_declareAll proper signals
  | @increment c signal amount _ proper =>
    rw [Coverage.increment,Action.state_checked (Write.checkName_apply · c) (Write.refuses_checkName · c)]
    split
    next named => exact proper.put named _
    · exact proper
  | observe signals _ proper =>
    rw [state_observe]
    split
    next named => exact proper.observed named
    · exact proper
  | @merge c other _ proper =>
    cases other with
    | none => exact proper
    | some entries =>
      rw [Coverage.merge,checkEntries_nat,Action.state_checked (Write.checkNames_apply · c) (Write.refuses_checkNames · c)]
      split
      next named => exact proper.absorb fun e mem => named e.1 (List.mem_map_of_mem mem)
      · exact proper
  | reset _ proper => exact proper.cleared

private theorem foldl_known (name : Document ρ) {entries before : List (Signal × Nat)}
    (distinct : Table.Distinct (before ++ entries)) :
    (entries.map Prod.fst).foldl known (⟨name,before⟩ : Coverage ρ Nat) =
      ⟨name,before ++ entries.map fun e => (e.1,0)⟩ := by
  induction entries generalizing before with
  | nil => rw [List.map_nil,List.map_nil,List.append_nil]; rfl
  | cons e rest ih =>
    obtain ⟨-,-,apart⟩ := List.pairwise_append.mp distinct
    have new : ∀ other ∈ before, (other.1 == e.1) = false := fun other mem => apart other mem e List.mem_cons_self
    have unknown : knows (⟨name,before⟩ : Coverage ρ Nat) e.1 = false := by
      rw [knows,Table.isSome_get?,List.any_eq_false]
      intro other mem
      rw [new other mem]
      exact Bool.false_ne_true
    have first : known (⟨name,before⟩ : Coverage ρ Nat) e.1 = ⟨name,before ++ [(e.1,0)]⟩ := by
      rw [known,unknown,if_neg Bool.false_ne_true,Table.put_of_forall_ne _ new]
      rfl
    have later : Table.Distinct ((before ++ [(e.1,0)]) ++ rest) := by
      rw [Table.Distinct,← List.pairwise_map (f := Prod.fst) (R := fun a b => (a == b) = false)] at distinct ⊢
      simpa using distinct
    rw [List.map_cons,List.foldl_cons,first,ih later,List.append_assoc]
    rfl

/-- A new tracker for the names of a tracker is the tracker after a reset, under a name of its own. -/
theorem Proper.returns_create {c : Coverage ρ Nat} (proper : c.Proper) (name : Document ρ) :
    create name (c.counts.map Prod.fst) = (⟨.ok (),{ c.cleared with name },[]⟩ : Trace ρ (Coverage ρ Nat) Unit) := by
  have named : ∀ signal ∈ c.counts.map Prod.fst, signal.isNamed = true := by
    intro signal mem
    obtain ⟨e,there,rfl⟩ := List.mem_map.mp mem
    exact proper.named e there
  rw [create,Coverage.declareAll,Action.bind_apply_ok (Write.checkNames_apply named _)]
  show (⟨.ok (),(c.counts.map Prod.fst).foldl Coverage.known ⟨name,[]⟩,[]⟩ : Trace ρ (Coverage ρ Nat) Unit) = _
  have all : Table.Distinct ([] ++ c.counts) := proper.distinct
  rw [foldl_known name all]
  rfl

private theorem covered_hit (t : Coverage ρ Nat) (signal : Signal) :
    (t.hit signal Tally.once).covered = t.covered + if t.count signal = 0 then 1 else 0 := by
  have changed := Table.countP_put (Tally.isPositive (ν := Nat)) signal (t.count signal + 1) t.counts
  have positive : Tally.isPositive (t.count signal + 1) = true := decide_eq_true (Nat.succ_pos _)
  have before : (Table.get? signal t.counts).any Tally.isPositive = !decide (t.count signal = 0) := by
    unfold count
    cases Table.get? signal t.counts with
    | none => rfl
    | some n => cases n <;> rfl
  rw [before,positive,if_pos rfl] at changed
  have hit : (t.hit signal Tally.once).covered =
      (Table.put signal (t.count signal + 1) t.counts).countP fun e => Tally.isPositive e.2 := rfl
  rw [hit,covered]
  by_cases zero : t.count signal = 0
  · simpa [zero] using changed
  · simpa [zero] using changed

private theorem covered_foldl_hit {names : List Signal} (apart : names.Pairwise fun a b => (a == b) = false)
    (t : Coverage ρ Nat) :
    (names.foldl (fun t signal => t.hit signal Tally.once) t).covered =
      t.covered + (names.filter fun signal => Tally.isZero (t.count signal)).length := by
  induction names generalizing t with
  | nil => rfl
  | cons a rest ih =>
    obtain ⟨others,later⟩ := List.pairwise_cons.mp apart
    have same : (rest.filter fun signal => Tally.isZero ((t.hit a Tally.once).count signal)) =
        rest.filter fun signal => Tally.isZero (t.count signal) := by
      refine List.filter_congr fun signal mem => ?_
      rw [count_hit,others signal mem,if_neg Bool.false_ne_true]
    rw [List.foldl_cons,ih later,same,covered_hit,List.filter_cons]
    by_cases zero : t.count a = 0
    · have new : Tally.isZero (t.count a) = true := beq_iff_eq.mpr zero
      rw [if_pos zero,if_pos new,List.length_cons]
      omega
    · have known : ¬ Tally.isZero (t.count a) = true := mt beq_iff_eq.mp zero
      rw [if_neg zero,if_neg known]
      rfl

/-- An execution covers the signals that it finds new. -/
theorem covered_of_returns_observe {signals fresh : List Signal} {t t' : Coverage ρ Nat}
    (ran : (observe signals).Returns t fresh t') : t'.covered = t.covered + fresh.length := by
  obtain ⟨-,rfl⟩ := observed_of_returns ran
  rw [(returns_observe ran).fresh_eq]
  exact covered_foldl_hit (pairwise_eraseDups signals) t

end Fuzzing.Coverage

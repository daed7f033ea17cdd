import Fuzzing.Coverage
import Fuzzing.Proofs.Action.Returns
import Fuzzing.Proofs.Document.Table

/-!
Writes to a tracker as data, and what they do to the counts. Names that are the same have the same count (`count_congr`),
and a hit counts for its signal alone (`count_hit`). Whether a write is accepted depends on its arguments alone
(`Write.Accepted`): an accepted write returns and leaves the tracker with its names and its hits added (`returns_perform`,
`knows_applied`, `count_applied`), any other one is refused and leaves the tracker as it is (`refuses_perform`).
-/
namespace Fuzzing

section

variable {α : Type} [BEq α] [EquivBEq α]

omit [EquivBEq α] in
private theorem contains_filter {p : α → Bool} (shared : ∀ a b, (a == b) = true → p a = p b) (xs : List α) (x : α) :
    (xs.filter p).contains x = (xs.contains x && p x) := by
  induction xs with
  | nil => simp
  | cons a rest ih =>
    by_cases same : (x == a) = true
    · have share := shared x a same
      cases kept : p a <;> simp [kept,share,ih,same]
    · cases kept : p a <;> simp [kept,ih,same]

/-- What holds of a name whatever its spelling holds of all names of a list if it does of all names of another list with
    the same names. -/
theorem all_congr {p : α → Bool} (shared : ∀ a b, (a == b) = true → p a = p b) {xs ys : List α}
    (same : ∀ x, xs.contains x = ys.contains x) : xs.all p = ys.all p := by
  have half {xs ys : List α} (same : ∀ x, xs.contains x = ys.contains x) (all : ys.all p = true) :
      xs.all p = true := by
    refine List.all_eq_true.mpr fun x mem => ?_
    have there : ys.contains x = true := by
      rw [← same]
      exact List.contains_iff_exists_mem_beq.mpr ⟨x,mem,BEq.rfl⟩
    obtain ⟨y,found,spelled⟩ := List.contains_iff_exists_mem_beq.mp there
    rw [shared x y spelled]
    exact List.all_eq_true.mp all y found
  exact Bool.eq_iff_iff.mpr ⟨half fun x => (same x).symm,half same⟩

private theorem ne_shared (a : α) (b c : α) (same : (b == c) = true) : (!(b == a)) = !(c == a) := by
  rw [BEq.congr_left same]

private theorem contains_eraseDups (xs : List α) (x : α) : xs.eraseDups.contains x = xs.contains x := by
  match xs with
  | [] => rfl
  | a :: rest =>
    rw [List.eraseDups_cons,List.contains_cons,List.contains_cons,contains_eraseDups,contains_filter (ne_shared a)]
    cases x == a <;> simp
termination_by xs.length
decreasing_by exact Nat.lt_succ_of_le (List.length_filter_le _ rest)

/-- Leaving out repetitions leaves no name twice. -/
theorem pairwise_eraseDups (xs : List α) :
    xs.eraseDups.Pairwise fun a b => (a == b) = false := by
  match xs with
  | [] => exact List.Pairwise.nil
  | a :: rest =>
    rw [List.eraseDups_cons]
    refine List.pairwise_cons.mpr ⟨?_,pairwise_eraseDups _⟩
    have others : ((rest.filter fun b => !b == a).eraseDups.all fun b => !b == a) = true := by
      rw [all_congr (ne_shared a) (contains_eraseDups _)]
      exact List.all_eq_true.mpr fun b mem => (List.mem_filter.mp mem).2
    intro b mem
    have other := List.all_eq_true.mp others b mem
    rw [BEq.comm]
    exact Bool.not_eq_true' _ ▸ other
termination_by xs.length
decreasing_by exact Nat.lt_succ_of_le (List.length_filter_le _ rest)

end

namespace Coverage

variable {ρ ν : Type} [Tally ν]

theorem count_congr {signal other : Signal} (same : (signal == other) = true) (t : Coverage ρ ν) :
    t.count signal = t.count other := by
  rw [count,count,Table.get?_congr same]

/-- A hit counts for its signal, and for no other. -/
theorem count_hit (t : Coverage ρ ν) (signal other : Signal) (amount : ν) :
    (t.hit signal amount).count other =
      if signal == other then Tally.plus (t.count other) amount else t.count other := by
  rw [count,hit,Table.get?_put]
  by_cases same : (signal == other) = true
  · rw [if_pos same,if_pos same,count_congr same]
    rfl
  · rw [if_neg same,if_neg same]
    rfl

private theorem count_foldl_hit (signals : List Signal) (t : Coverage ρ ν) (signal : Signal) :
    (signals.eraseDups.foldl (fun t signal => t.hit signal Tally.once) t).count signal =
      if signals.contains signal then Tally.plus (t.count signal) Tally.once else t.count signal := by
  match signals with
  | [] => rfl
  | a :: rest =>
    rw [List.eraseDups_cons,List.foldl_cons,count_foldl_hit,count_hit,contains_filter (ne_shared a),
      List.contains_cons,BEq.comm (a := a)]
    by_cases same : (signal == a) = true
    · simp [same]
    · simp [same]
termination_by signals.length
decreasing_by exact Nat.lt_succ_of_le (List.length_filter_le _ rest)

/-- What an execution tells a tracker. Every signal that it touched has one hit more, no other one has, and those are
    new that had none. -/
structure Observed (signals : List Signal) (t : Coverage ρ ν) (fresh : List Signal) (t' : Coverage ρ ν) :
    Prop where
  count : ∀ signal, t'.count signal =
    if signals.contains signal then Tally.plus (t.count signal) Tally.once else t.count signal
  fresh_eq : fresh = signals.eraseDups.filter fun signal => Tally.isZero (t.count signal)

theorem Observed.contains_fresh {signals fresh : List Signal} {t t' : Coverage ρ ν}
    (observed : Observed signals t fresh t') (signal : Signal) :
    fresh.contains signal = (signals.contains signal && Tally.isZero (t.count signal)) := by
  have shared : ∀ a b : Signal, (a == b) = true → Tally.isZero (t.count a) = Tally.isZero (t.count b) :=
    fun a b same => by rw [count_congr same]
  rw [observed.fresh_eq,contains_filter shared,contains_eraseDups]

omit [Tally ν] in
theorem returns_checkName {signal : Signal} {t t' : Coverage ρ ν} {x : Unit}
    (ran : (checkName signal).Returns t x t') : t' = t := by
  unfold checkName at ran
  split at ran
  · exact (Action.returns_pure.mp ran).2
  · exact absurd ran Action.not_returns_refuse

omit [Tally ν] in
private theorem returns_checkNames {signals : List Signal} {t t' : Coverage ρ ν} {x : Unit}
    (ran : (checkNames signals).Returns t x t') : t' = t := by
  induction signals generalizing t with
  | nil => exact (Action.returns_pure.mp ran).2
  | cons signal rest ih =>
    obtain ⟨_,t₁,first,later⟩ := Action.returns_bind.mp ran
    rw [ih later,returns_checkName first]

theorem returns_observe {signals fresh : List Signal} {t t' : Coverage ρ ν}
    (ran : (observe signals).Returns t fresh t') : Observed signals t fresh t' := by
  obtain ⟨_,t₁,checked,looking⟩ := Action.returns_bind.mp ran
  obtain rfl := returns_checkNames checked
  have noting := Action.returns_update_bind.mp (Action.returns_state_bind.mp looking)
  obtain ⟨_,t₂,noted,told⟩ := Action.returns_bind.mp noting
  obtain rfl := Action.returns_noteIf.mp noted
  obtain ⟨rfl,rfl⟩ := Action.returns_pure.mp told
  exact { count := count_foldl_hit signals _, fresh_eq := rfl }

end Coverage

theorem Signal.isNamed_congr {a b : Signal} (same : (a == b) = true) : a.isNamed = b.isNamed := by
  rw [isNamed,isNamed,beq_iff_key_eq.mp same]

namespace Coverage

section

variable {ρ ν : Type} [Tally ν]

omit [Tally ν] in
private theorem knows_congr {signal other : Signal} (same : (signal == other) = true) (c : Coverage ρ ν) :
    c.knows signal = c.knows other := by
  rw [knows,knows,Table.get?_congr same]

omit [Tally ν] in
private theorem get?_of_not_knows {c : Coverage ρ ν} {signal : Signal} (unknown : c.knows signal = false) :
    Table.get? signal c.counts = none := Option.isSome_eq_false_iff.mp unknown |> Option.isNone_iff_eq_none.mp

theorem knows_hit (c : Coverage ρ ν) (signal other : Signal) (amount : ν) :
    (c.hit signal amount).knows other = (signal == other || c.knows other) := by
  rw [knows,hit,Table.get?_put]
  cases signal == other <;> rfl

private theorem knows_known (c : Coverage ρ ν) (signal other : Signal) :
    (c.known signal).knows other = (signal == other || c.knows other) := by
  rw [known]
  by_cases there : c.knows signal = true
  · rw [if_pos there]
    by_cases same : (signal == other) = true
    · rw [same,← knows_congr same,there]
      rfl
    · rw [Bool.eq_false_iff.mpr same,Bool.false_or]
  · rw [if_neg there,knows,Table.get?_put]
    cases signal == other <;> rfl

private theorem count_known (c : Coverage ρ ν) (signal other : Signal) : (c.known signal).count other = c.count other := by
  rw [known]
  by_cases there : c.knows signal = true
  · rw [if_pos there]
  · rw [if_neg there,count,count,Table.get?_put]
    by_cases same : (signal == other) = true
    · have unknown := get?_of_not_knows (Bool.eq_false_iff.mpr there)
      rw [if_pos same,← Table.get?_congr same,unknown]
      rfl
    · rw [if_neg same]

omit [Tally ν] in
/-- What one step of a series makes known, the whole series makes known for each of its members. -/
theorem knows_foldl {α : Type} {step : Coverage ρ ν → α → Coverage ρ ν} {f : α → Signal}
    (adds : ∀ c x signal, (step c x).knows signal = (f x == signal || c.knows signal)) (xs : List α)
    (c : Coverage ρ ν) (signal : Signal) :
    (xs.foldl step c).knows signal = ((xs.map f).contains signal || c.knows signal) := by
  induction xs generalizing c with
  | nil => rfl
  | cons x rest ih =>
    rw [List.foldl_cons,ih,adds,List.map_cons,List.contains_cons,BEq.comm (a := signal),Bool.or_left_comm,Bool.or_assoc]

theorem count_foldl_known (signals : List Signal) (c : Coverage ρ ν) (signal : Signal) :
    (signals.foldl known c).count signal = c.count signal := by
  induction signals generalizing c with
  | nil => rfl
  | cons first rest ih => rw [List.foldl_cons,ih,count_known]

end

section

variable {ρ : Type}

private theorem count_hit_int (c : Coverage ρ Int) (signal other : Signal) (amount : Int) :
    (c.hit signal amount).count other = c.count other + if signal == other then amount else 0 := by
  rw [count_hit]
  split
  · rfl
  · exact (Int.add_zero _).symm

/-- A table adds to every signal the count that it has for it. -/
theorem count_absorb {incoming : List (Signal × Int)} (distinct : Table.Distinct incoming) (c : Coverage ρ Int)
    (signal : Signal) :
    (c.absorb incoming).count signal = c.count signal + (Table.get? signal incoming).getD 0 := by
  induction incoming generalizing c with
  | nil => exact (Int.add_zero _).symm
  | cons e rest ih =>
    obtain ⟨apart,later⟩ := List.pairwise_cons.mp distinct
    have step : c.absorb (e :: rest) = (c.hit e.1 e.2).absorb rest := rfl
    rw [step,ih later,count_hit_int,Table.get?]
    by_cases here : (e.1 == signal) = true
    · have nowhere : Table.get? signal rest = none := by
        rw [← Option.isNone_iff_eq_none,← Option.isSome_eq_false_iff,Table.isSome_get?,List.any_eq_false]
        intro other mem same
        have apart := apart other mem
        rw [BEq.congr_left here,BEq.comm,same] at apart
        cases apart
      rw [if_pos here,if_pos here,nowhere]
      exact Int.add_zero _
    · rw [if_neg here,if_neg here,Int.add_zero]

end

/-- A write to a tracker. What is merged may be missing. -/
inductive Write where
  | declare (signal : Signal)
  | declareAll (signals : List Signal)
  | increment (signal : Signal) (amount : Int)
  | observe (signals : List Signal)
  | merge (other : Option (List (Signal × Int)))

namespace Write

/-- The names that the write mentions. -/
def names : Write → List Signal
  | declare signal => [signal]
  | declareAll signals => signals
  | increment signal _ => [signal]
  | observe signals => signals
  | merge other => (other.getD []).map Prod.fst

/-- What the write adds to the count of a signal: nothing where it only makes signals known, one where it observes the
    signal, however often that is named, and otherwise the amount that is given for it. -/
def hits : Write → Signal → Int
  | declare _, _ | declareAll _, _ => 0
  | increment signal amount, other => if signal == other then amount else 0
  | observe signals, signal => if signals.contains signal then 1 else 0
  | merge other, signal => (Table.get? signal (Table.ofEntries (other.getD []))).getD 0

/-- Every signal is named, no amount is negative, and there is something to merge. -/
def Accepted : Write → Prop
  | declare signal => signal.isNamed = true
  | declareAll signals | observe signals => ∀ signal ∈ signals, signal.isNamed = true
  | increment signal amount => signal.isNamed = true ∧ 0 ≤ amount
  | merge none => False
  | merge (some entries) => ∀ e ∈ Table.ofEntries entries, e.1.isNamed = true ∧ 0 ≤ e.2

instance : DecidablePred Accepted
  | declare signal => inferInstanceAs (Decidable (signal.isNamed = true))
  | declareAll signals | observe signals => inferInstanceAs (Decidable (∀ signal ∈ signals, signal.isNamed = true))
  | increment signal amount => inferInstanceAs (Decidable (signal.isNamed = true ∧ 0 ≤ amount))
  | merge none => inferInstanceAs (Decidable False)
  | merge (some entries) =>
    inferInstanceAs (Decidable (∀ e ∈ Table.ofEntries entries, e.1.isNamed = true ∧ 0 ≤ e.2))

variable {ρ : Type}

/-- Makes the write, and gives the signals that it discovers: those that an observation finds new. -/
def perform : Write → Action ρ (Coverage ρ Int) (List Signal)
  | declare signal => do
    Coverage.declare signal
    pure []
  | declareAll signals => do
    Coverage.declareAll signals
    pure []
  | increment signal amount => do
    let _ ← Coverage.increment signal amount
    pure []
  | observe signals => Coverage.observe signals
  | merge other => do
    Coverage.merge other
    pure []

/-- The tracker after the write, if it is accepted. -/
def applied (c : Coverage ρ Int) : Write → Coverage ρ Int
  | declare signal => c.known signal
  | declareAll signals => signals.foldl known c
  | increment signal amount => c.hit signal amount
  | observe signals => signals.eraseDups.foldl (fun c signal => c.hit signal Tally.once) c
  | merge other => c.absorb (Table.ofEntries (other.getD []))

/-- What the write discovers in a tracker. -/
def discovered (c : Coverage ρ Int) : Write → List Signal
  | observe signals => signals.eraseDups.filter fun signal => c.count signal == 0
  | _ => []

theorem count_applied (c : Coverage ρ Int) (w : Write) (signal : Signal) :
    (w.applied c).count signal = c.count signal + w.hits signal := by
  cases w with
  | declare s => exact (count_known c s signal).trans (Int.add_zero _).symm
  | declareAll ss => exact (count_foldl_known ss c signal).trans (Int.add_zero _).symm
  | increment s amount => exact count_hit_int c s signal amount
  | observe ss =>
    rw [applied,count_foldl_hit,hits]
    split
    · rfl
    · exact (Int.add_zero _).symm
  | merge other => exact count_absorb (Table.distinct_ofEntries _) c signal

theorem knows_applied (c : Coverage ρ Int) (w : Write) (signal : Signal) :
    (w.applied c).knows signal = (w.names.contains signal || c.knows signal) := by
  cases w with
  | declare s =>
    rw [applied,knows_known,names,List.contains_cons,List.contains_nil,Bool.or_false,BEq.comm]
  | declareAll ss =>
    rw [applied,knows_foldl (f := id) knows_known,List.map_id,names]
  | increment s amount =>
    rw [applied,knows_hit,names,List.contains_cons,List.contains_nil,Bool.or_false,BEq.comm]
  | observe ss =>
    rw [applied,knows_foldl (f := id) (fun c s t => knows_hit c s t _),List.map_id,contains_eraseDups,names]
  | merge other =>
    rw [applied,absorb,knows_foldl (f := Prod.fst) (fun c e t => knows_hit c e.1 t e.2),names]
    congr 1
    have shared (a b : Signal) (same : (a == b) = true) : (signal == a) = (signal == b) := BEq.congr_right same
    rw [List.contains_eq_any_beq,List.contains_eq_any_beq,List.any_map,List.any_map]
    exact Table.any_ofEntries shared _

section

variable {ν : Type}

theorem checkName_apply {signal : Signal} (named : signal.isNamed = true) (c : Coverage ρ ν) :
    (checkName signal : Action ρ (Coverage ρ ν) Unit) c = ⟨.ok (),c,[]⟩ := by
  rw [checkName,if_pos named]
  rfl

theorem refuses_checkName {signal : Signal} (nameless : ¬ signal.isNamed = true) (c : Coverage ρ ν) :
    (checkName signal : Action ρ (Coverage ρ ν) Unit).Refuses c := by
  rw [checkName,if_neg nameless]
  exact Action.refuses_refuse _ c

theorem checkNames_apply {signals : List Signal} (named : ∀ signal ∈ signals, signal.isNamed = true)
    (c : Coverage ρ ν) : (checkNames signals : Action ρ (Coverage ρ ν) Unit) c = ⟨.ok (),c,[]⟩ := by
  induction signals with
  | nil => rfl
  | cons signal rest ih =>
    have first := checkName_apply (named signal List.mem_cons_self) c
    rw [checkNames,Action.bind_apply_ok first,ih fun other mem => named other (List.mem_cons_of_mem _ mem)]
    rfl

theorem refuses_checkNames {signals : List Signal} (nameless : ¬ ∀ signal ∈ signals, signal.isNamed = true)
    (c : Coverage ρ ν) : (checkNames signals : Action ρ (Coverage ρ ν) Unit).Refuses c := by
  induction signals with
  | nil => exact absurd (fun signal mem => absurd mem List.not_mem_nil) nameless
  | cons signal rest ih =>
    by_cases named : signal.isNamed = true
    · refine Action.refuses_after (checkName_apply named c) (ih ?_)
      intro all
      exact nameless (List.forall_mem_cons.mpr ⟨named,all⟩)
    · exact (refuses_checkName named c).bind _

end

private theorem checkAmount_apply {amount : Int} (positive : 0 ≤ amount) (c : Coverage ρ Int) :
    (checkAmount amount : Action ρ (Coverage ρ Int) Unit) c = ⟨.ok (),c,[]⟩ := by
  have sign : Tally.isNegative amount = false := decide_eq_false (Int.not_lt.mpr positive)
  rw [checkAmount,sign]
  rfl

private theorem refuses_checkAmount {amount : Int} (negative : ¬ 0 ≤ amount) (c : Coverage ρ Int) :
    (checkAmount amount : Action ρ (Coverage ρ Int) Unit).Refuses c := by
  have sign : Tally.isNegative amount = true := decide_eq_true (Int.not_le.mp negative)
  rw [checkAmount,sign]
  exact Action.refuses_refuse _ c

private theorem checkEntries_apply {entries : List (Signal × Int)} (fit : ∀ e ∈ entries, e.1.isNamed = true ∧ 0 ≤ e.2)
    (c : Coverage ρ Int) : (checkEntries entries : Action ρ (Coverage ρ Int) Unit) c = ⟨.ok (),c,[]⟩ := by
  induction entries with
  | nil => rfl
  | cons e rest ih =>
    obtain ⟨named,positive⟩ := fit e List.mem_cons_self
    have later := ih fun other mem => fit other (List.mem_cons_of_mem _ mem)
    rw [checkEntries,Action.bind_apply_ok (checkName_apply named c),Action.bind_apply_ok (checkAmount_apply positive c),
      later]
    rfl

private theorem refuses_checkEntries {entries : List (Signal × Int)}
    (unfit : ¬ ∀ e ∈ entries, e.1.isNamed = true ∧ 0 ≤ e.2) (c : Coverage ρ Int) :
    (checkEntries entries : Action ρ (Coverage ρ Int) Unit).Refuses c := by
  induction entries with
  | nil => exact absurd (fun e mem => absurd mem List.not_mem_nil) unfit
  | cons e rest ih =>
    by_cases named : e.1.isNamed = true
    · refine Action.refuses_after (checkName_apply named c) ?_
      by_cases positive : 0 ≤ e.2
      · refine Action.refuses_after (checkAmount_apply positive c) (ih ?_)
        intro all
        exact unfit (List.forall_mem_cons.mpr ⟨⟨named,positive⟩,all⟩)
      · exact (refuses_checkAmount positive c).bind _
    · exact (refuses_checkName named c).bind _

/-- Whether all names count as names does not depend on their order, nor on how often each is given. -/
theorem forall_isNamed_eraseDups (signals : List Signal) :
    (∀ signal ∈ signals.eraseDups, signal.isNamed = true) ↔ ∀ signal ∈ signals, signal.isNamed = true := by
  rw [← List.all_eq_true,← List.all_eq_true,
    all_congr (fun _ _ => Signal.isNamed_congr) (contains_eraseDups signals)]

/-- An accepted write returns what it discovers, and leaves the tracker with what it adds. -/
theorem returns_perform {w : Write} (accepted : w.Accepted) (c : Coverage ρ Int) :
    (w.perform : Action ρ _ _).Returns c (w.discovered c) (w.applied c) := by
  cases w with
  | declare signal =>
    refine Action.returns_bind.mpr ⟨(),c.known signal,?_,Action.returns_pure.mpr ⟨rfl,rfl⟩⟩
    exact Action.returns_bind.mpr ⟨(),c,⟨[],checkName_apply accepted c⟩,Action.returns_update.mpr rfl⟩
  | declareAll signals =>
    refine Action.returns_bind.mpr ⟨(),signals.foldl known c,?_,Action.returns_pure.mpr ⟨rfl,rfl⟩⟩
    exact Action.returns_bind.mpr ⟨(),c,⟨[],checkNames_apply accepted c⟩,Action.returns_update.mpr rfl⟩
  | increment signal amount =>
    obtain ⟨named,positive⟩ := accepted
    refine Action.returns_bind.mpr ⟨(c.hit signal amount).count signal,c.hit signal amount,?_,
      Action.returns_pure.mpr ⟨rfl,rfl⟩⟩
    refine Action.returns_bind.mpr ⟨(),c,⟨[],checkName_apply named c⟩,?_⟩
    refine Action.returns_bind.mpr ⟨(),c,⟨[],checkAmount_apply positive c⟩,?_⟩
    exact Action.returns_update_bind.mpr (Action.returns_state_bind.mpr (Action.returns_pure.mpr ⟨rfl,rfl⟩))
  | observe signals =>
    have named := (forall_isNamed_eraseDups signals).mpr accepted
    refine Action.returns_bind.mpr ⟨(),c,⟨[],checkNames_apply named c⟩,?_⟩
    refine Action.returns_state_bind.mpr (Action.returns_update_bind.mpr ?_)
    exact Action.returns_bind.mpr ⟨(),_,Action.returns_noteIf.mpr rfl,Action.returns_pure.mpr ⟨rfl,rfl⟩⟩
  | merge other =>
    cases other with
    | none => exact absurd accepted not_false
    | some entries =>
      refine Action.returns_bind.mpr ⟨(),c.absorb (Table.ofEntries entries),?_,Action.returns_pure.mpr ⟨rfl,rfl⟩⟩
      refine Action.returns_bind.mpr ⟨(),c,⟨[],checkEntries_apply accepted c⟩,?_⟩
      exact Action.returns_update_bind.mpr (Action.returns_state_bind.mpr (Action.returns_note.mpr rfl))

/-- A write that is not accepted is refused, and leaves the tracker as it is. -/
theorem refuses_perform {w : Write} (unacceptable : ¬ w.Accepted) (c : Coverage ρ Int) :
    (w.perform : Action ρ _ _).Refuses c := by
  cases w with
  | declare signal => exact ((refuses_checkName unacceptable c).bind _).bind _
  | declareAll signals => exact ((refuses_checkNames unacceptable c).bind _).bind _
  | increment signal amount =>
    by_cases named : signal.isNamed = true
    · have negative : ¬ 0 ≤ amount := fun positive => unacceptable ⟨named,positive⟩
      refine Action.Refuses.bind ?_ _
      exact Action.refuses_after (checkName_apply named c) ((refuses_checkAmount negative c).bind _)
    · exact ((refuses_checkName named c).bind _).bind _
  | observe signals =>
    have nameless := mt (forall_isNamed_eraseDups signals).mp unacceptable
    exact (refuses_checkNames nameless c).bind _
  | merge other =>
    cases other with
    | none => exact (Action.refuses_refuse _ c).bind _
    | some entries => exact ((refuses_checkEntries unacceptable c).bind _).bind _

/-- A write that returns was accepted. -/
theorem returns_perform_iff {w : Write} {c c' : Coverage ρ Int} {fresh : List Signal} :
    (w.perform).Returns c fresh c' ↔ w.Accepted ∧ fresh = w.discovered c ∧ c' = w.applied c := by
  constructor
  · intro ran
    by_cases accepted : w.Accepted
    · exact ⟨accepted,ran.unique (returns_perform accepted c)⟩
    · obtain ⟨why,refused⟩ := refuses_perform accepted c
      obtain ⟨events,ended⟩ := ran
      rw [refused] at ended
      cases ended
  · rintro ⟨accepted,rfl,rfl⟩
    exact returns_perform accepted c

end Write

end Coverage

end Fuzzing

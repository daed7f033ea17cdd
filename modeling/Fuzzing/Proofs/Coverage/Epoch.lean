import Fuzzing.Proofs.Coverage.Reachable

/-!
Discoveries between resets. An operation forgets no name (`knows_next`), and as long as there is no reset no count goes
down (`count_le_next`). A signal is discovered where it had no hit, and has one afterwards (`of_contains_told`), so
that no epoch discovers it twice; and where only observations hit it, the first of them discovers it
(`discovered_once`).
-/
namespace Fuzzing

namespace Coverage

variable {ρ : Type}

private theorem Observed.pairwise_fresh {signals fresh : List Signal} {c c' : Coverage ρ Int}
    (observed : Observed signals c fresh c') : fresh.Pairwise fun a b => (a == b) = false := by
  rw [observed.fresh_eq]
  exact (pairwise_eraseDups signals).filter _

/-- Neither the order of the names nor how often each is given changes what an observation finds. -/
private theorem returns_observe_congr {signals signals' fresh : List Signal} {c c' : Coverage ρ Int}
    (same : ∀ signal, signals.contains signal = signals'.contains signal)
    (ran : (observe signals).Returns c fresh c') :
    ∃ fresh' c'', (observe signals').Returns c fresh' c'' ∧
      ∀ signal, fresh'.contains signal = fresh.contains signal ∧ c''.count signal = c'.count signal := by
  have ran : ((Write.observe signals).perform).Returns c fresh c' := ran
  obtain ⟨accepted,-,-⟩ := Write.returns_perform_iff.mp ran
  have accepted' : (Write.observe signals').Accepted := by
    rw [Write.Accepted,← List.all_eq_true] at accepted ⊢
    rw [← all_congr (fun _ _ => Signal.isNamed_congr) same]
    exact accepted
  have again := Write.returns_perform accepted' c
  refine ⟨_,_,again,fun signal => ?_⟩
  have left := returns_observe ran
  have right := returns_observe again
  rw [left.contains_fresh,right.contains_fresh,left.count,right.count,same]
  exact ⟨rfl,rfl⟩

namespace Operation

private theorem count_next_write (c : Coverage ρ Int) (w : Write) (signal : Signal) :
    ((write w).next c).count signal = c.count signal + if w.Accepted then w.hits signal else 0 := by
  rw [next_write]
  split
  · exact Write.count_applied c w signal
  · exact (Int.add_zero _).symm

private theorem count_cleared (c : Coverage ρ Int) (signal : Signal) : c.cleared.count signal = 0 := by
  rw [count,cleared,Table.get?_map fun _ => (Tally.nothing : Int)]
  cases Table.get? signal c.counts <;> rfl

private theorem knows_cleared (c : Coverage ρ Int) (signal : Signal) : c.cleared.knows signal = c.knows signal := by
  rw [knows,cleared,Table.get?_map fun _ => (Tally.nothing : Int),Option.isSome_map]
  rfl

/-- No operation forgets a name. -/
theorem knows_next {c : Coverage ρ Int} {signal : Signal} (known : c.knows signal = true) (op : Operation) :
    (op.next c).knows signal = true := by
  cases op with
  | write w =>
    rw [next_write]
    split
    · rw [Write.knows_applied,known,Bool.or_true]
    · exact known
  | reset => exact (knows_cleared c signal).trans known

end Operation

private theorem Write.hits_nonneg {w : Write} (accepted : w.Accepted) (signal : Signal) : 0 ≤ w.hits signal := by
  cases w with
  | declare _ => exact Int.le_refl 0
  | declareAll _ => exact Int.le_refl 0
  | increment other amount =>
    rw [hits]
    split
    · exact accepted.2
    · exact Int.le_refl 0
  | observe _ =>
    rw [hits]
    split <;> decide
  | merge other =>
    cases other with
    | none => exact absurd accepted not_false
    | some entries => exact getD_get?_nonneg accepted signal

/-- No write lowers a count. -/
theorem count_le_next (c : Coverage ρ Int) (w : Write) (signal : Signal) :
    c.count signal ≤ ((Operation.write w).next c).count signal := by
  rw [Operation.count_next_write]
  split
  next accepted =>
    have more := Write.hits_nonneg accepted signal
    omega
  next => omega

/-- Whether the write is an observation. -/
def Write.observes : Write → Bool
  | observe _ => true
  | _ => false

/-- A signal that a write discovers had no hit before it, and has one afterwards. -/
theorem of_contains_told {c : Coverage ρ Int} {w : Write} {signal : Signal}
    (discovered : ((Operation.write w).told c).contains signal = true) :
    c.count signal = 0 ∧ 0 < ((Operation.write w).next c).count signal := by
  by_cases accepted : w.Accepted
  · rw [Operation.told_write,if_pos accepted] at discovered
    rw [Operation.next_write,if_pos accepted]
    cases w with
    | observe signals =>
      have observed := returns_observe (Write.returns_perform accepted c)
      rw [observed.contains_fresh,Bool.and_eq_true] at discovered
      obtain ⟨named,unhit⟩ := discovered
      have zero : c.count signal = 0 := eq_of_beq unhit
      rw [observed.count,if_pos named,zero]
      exact ⟨rfl,by decide⟩
    | _ => cases discovered
  · rw [Operation.told_write,if_neg accepted] at discovered
    cases discovered

private theorem contains_told_of_hit {c : Coverage ρ Int} {w : Write} {signal : Signal} (observes : w.observes = true)
    (zero : c.count signal = 0) (hit : ((Operation.write w).next c).count signal ≠ 0) :
    ((Operation.write w).told c).contains signal = true := by
  by_cases accepted : w.Accepted
  · rw [Operation.next_write,if_pos accepted] at hit
    rw [Operation.told_write,if_pos accepted]
    cases w with
    | observe signals =>
      have observed := returns_observe (Write.returns_perform accepted c)
      rw [observed.count,zero] at hit
      rw [observed.contains_fresh,zero]
      cases named : signals.contains signal with
      | true => rfl
      | false =>
        rw [named] at hit
        exact absurd rfl hit
    | _ => cases observes
  · rw [Operation.next_write,if_neg accepted] at hit
    exact absurd zero hit

/-- What each of some operations discovers. -/
def discoveries (c : Coverage ρ Int) : List Operation → List (List Signal)
  | [] => []
  | op :: rest => op.told c :: discoveries (op.next c) rest

/-- An epoch begins with a new tracker, or with a reset. -/
inductive BeginsEpoch : Coverage ρ Int → Prop where
  | create {name : Document ρ} {signals : List Signal} {c : Coverage ρ Int} {events : List (Event ρ)} :
    create name signals = ⟨.ok (),c,events⟩ → BeginsEpoch c
  | reset (c : Coverage ρ Int) : BeginsEpoch (Operation.reset.next c)

private theorem BeginsEpoch.count_eq_zero {c : Coverage ρ Int} (begins : c.BeginsEpoch) (signal : Signal) :
    c.count signal = 0 := by
  cases begins with
  | @create name signals _ _ made =>
    obtain ⟨-,rfl⟩ := eq_of_create made
    exact count_foldl_known signals _ signal
  | reset c => exact Operation.count_cleared c signal

private theorem knows_foldl_next (ops : List Operation) {c : Coverage ρ Int} {signal : Signal} (known : c.knows signal = true) :
    (ops.foldl Operation.next c).knows signal = true := by
  induction ops generalizing c with
  | nil => exact known
  | cons op rest ih => exact ih (Operation.knows_next known op)

private theorem count_le_foldl_next (ws : List Write) (c : Coverage ρ Int) (signal : Signal) :
    c.count signal ≤ ((ws.map .write).foldl Operation.next c).count signal := by
  induction ws generalizing c with
  | nil => exact Int.le_refl _
  | cons w rest ih => exact Int.le_trans (count_le_next c w signal) (ih _)

private theorem countP_discoveries_of_pos (ws : List Write) {c : Coverage ρ Int} {signal : Signal}
    (hit : 0 < c.count signal) : (c.discoveries (ws.map .write)).countP (·.contains signal) = 0 := by
  induction ws generalizing c with
  | nil => rfl
  | cons w rest ih =>
    have known : ¬ ((Operation.write w).told c).contains signal = true := by
      intro discovered
      have zero := (of_contains_told discovered).1
      omega
    rw [List.map_cons,discoveries,List.countP_cons,if_neg known]
    exact ih (Int.lt_of_lt_of_le hit (count_le_next c w signal))

private theorem countP_discoveries_le (ws : List Write) (c : Coverage ρ Int) (signal : Signal) :
    (c.discoveries (ws.map .write)).countP (·.contains signal) ≤ 1 := by
  induction ws generalizing c with
  | nil => exact Nat.zero_le 1
  | cons w rest ih =>
    rw [List.map_cons,discoveries]
    by_cases discovered : ((Operation.write w).told c).contains signal = true
    · -- The hit stays, so that nothing later discovers the signal again.
      have later := countP_discoveries_of_pos rest (of_contains_told discovered).2
      rw [List.countP_cons,if_pos discovered]
      omega
    · rw [List.countP_cons,if_neg discovered]
      exact ih _

private theorem countP_discoveries_of_hit {ws : List Write} {c : Coverage ρ Int} {signal : Signal}
    (zero : c.count signal = 0) (only : ∀ w ∈ ws, w.Accepted → w.observes = true ∨ w.hits signal = 0)
    (hit : 0 < ((ws.map .write).foldl Operation.next c).count signal) :
    (c.discoveries (ws.map .write)).countP (·.contains signal) = 1 := by
  induction ws generalizing c with
  | nil =>
    have none : 0 < c.count signal := hit
    omega
  | cons w rest ih =>
    obtain ⟨first,later⟩ := List.forall_mem_cons.mp only
    rw [List.map_cons,discoveries]
    by_cases discovered : ((Operation.write w).told c).contains signal = true
    · rw [List.countP_cons,if_pos discovered,countP_discoveries_of_pos rest (of_contains_told discovered).2]
    · -- A write that does not discover the signal does not hit it.
      have still : ((Operation.write w).next c).count signal = 0 := by
        by_cases observes : w.observes = true
        · refine Decidable.byContradiction fun hit => ?_
          exact discovered (contains_told_of_hit observes zero hit)
        · rw [Operation.count_next_write,zero]
          split
          next accepted =>
            obtain yes | none := first accepted
            · exact absurd yes observes
            · rw [none]
              rfl
          next => rfl
      rw [List.countP_cons,if_neg discovered]
      exact ih still later hit

/-- Each signal is discovered once in an epoch. No operation forgets a name; between resets no count goes down; an
    observation of names that count as names returns just those that had no hit, each once, whatever the order and the
    repetitions of its names; so between resets no two calls return the same name, and one does where observations
    alone have hit it. -/
theorem discovered_once :
    (∀ (c : Coverage ρ Int) (ops : List Operation) (signal : Signal), c.knows signal = true →
      (ops.foldl Operation.next c).knows signal = true) ∧
    (∀ (c : Coverage ρ Int) (ws : List Write) (signal : Signal),
      c.count signal ≤ ((ws.map .write).foldl Operation.next c).count signal) ∧
    (∀ (c : Coverage ρ Int) (signals : List Signal),
      (∃ fresh c', (observe signals).Returns c fresh c') ↔ ∀ signal ∈ signals, signal.isNamed = true) ∧
    (∀ (c c' : Coverage ρ Int) (signals fresh : List Signal), (observe signals).Returns c fresh c' →
      fresh.Pairwise (fun a b => (a == b) = false) ∧
      ∀ signal, fresh.contains signal = (signals.contains signal && c.count signal == 0)) ∧
    (∀ (c c' : Coverage ρ Int) (signals signals' fresh : List Signal),
      (∀ signal, signals.contains signal = signals'.contains signal) → (observe signals).Returns c fresh c' →
        ∃ fresh' c'', (observe signals').Returns c fresh' c'' ∧
          ∀ signal, fresh'.contains signal = fresh.contains signal ∧ c''.count signal = c'.count signal) ∧
    (∀ (c : Coverage ρ Int) (ws : List Write) (signal : Signal),
      (c.discoveries (ws.map .write)).countP (·.contains signal) ≤ 1) ∧
    (∀ (c : Coverage ρ Int) (ws : List Write) (signal : Signal), c.BeginsEpoch →
      (∀ w ∈ ws, w.Accepted → w.observes = true ∨ w.hits signal = 0) →
        0 < ((ws.map .write).foldl Operation.next c).count signal →
          (c.discoveries (ws.map .write)).countP (·.contains signal) = 1) := by
  refine ⟨?_,?_,?_,?_,?_,?_,?_⟩
  · intro c ops signal known
    exact knows_foldl_next ops known
  · intro c ws signal
    exact count_le_foldl_next ws c signal
  · intro c signals
    constructor
    · rintro ⟨fresh,c',ran⟩
      exact (Write.returns_perform_iff (w := .observe signals).mp ran).1
    · intro named
      exact ⟨_,_,Write.returns_perform (w := .observe signals) named c⟩
  · intro c c' signals fresh ran
    have observed := returns_observe ran
    exact ⟨observed.pairwise_fresh,observed.contains_fresh⟩
  · intro c c' signals signals' fresh same ran
    exact returns_observe_congr same ran
  · intro c ws signal
    exact countP_discoveries_le ws c signal
  · intro c ws signal begins only hit
    exact countP_discoveries_of_hit (begins.count_eq_zero signal) only hit

/-- A new tracker that knows a signal without a hit, two observations that name it, and zeros that are no hits. -/
theorem discovered_once_small :
    ∃ c : Coverage Rat Int, c.BeginsEpoch ∧ c.knows "a" = true ∧
      ([Operation.write (.observe ["b","a","b"]),.reset].foldl Operation.next c).knows "a" = true ∧
      (∃ fresh c', (observe ["b","a","b"]).Returns c fresh c' ∧ fresh.contains "a" = true ∧
        fresh.Pairwise (fun a b => (a == b) = false) ∧
        ∃ fresh' c'', (observe ["a","b"]).Returns c fresh' c'' ∧ fresh'.contains "a" = true) ∧
      (c.discoveries
        ([.increment "a" 0,.observe ["b","a","b"],.merge (some [("a",0)]),.observe ["a"]].map .write)).countP
        (·.contains "a") = 1 := by
  obtain ⟨kept,-,returned,found,same,-,once⟩ := discovered_once (ρ := Rat)
  have made : (create standardName ["a"] : Trace Rat (Coverage Rat Int) Unit) =
      ⟨.ok (),⟨standardName,[("a",0)]⟩,[]⟩ := rfl
  have begins := BeginsEpoch.create made
  refine ⟨_,begins,rfl,kept _ _ _ rfl,?_,?_⟩
  · obtain ⟨fresh,c',ran⟩ := (returned ⟨standardName,[("a",0)]⟩ ["b","a","b"]).mpr (by decide)
    obtain ⟨distinct,discovered⟩ := found _ _ _ _ ran
    have mixed (signal : Signal) : ([.text "b",.text "a",.text "b"] : List Signal).contains signal =
        ([.text "a",.text "b"] : List Signal).contains signal := by
      simp only [List.contains_cons,List.contains_nil]
      cases signal == .text "a" <;> cases signal == .text "b" <;> rfl
    obtain ⟨fresh',c'',again,told⟩ := same _ _ _ ["a","b"] _ mixed ran
    exact ⟨fresh,c',ran,discovered "a",distinct,fresh',c'',again,(told "a").1.trans (discovered "a")⟩
  · refine once _ _ _ begins ?_ ?_
    · decide
    · decide

end Coverage

end Fuzzing

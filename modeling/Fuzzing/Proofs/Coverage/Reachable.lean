import Fuzzing.Proofs.Coverage.Write

/-!
The trackers that calls lead to. An operation is a write or a reset; whether it succeeds or not, it leaves a tracker in
which every name counts as one, no name stands twice, and no count is negative (`Sound`, `Reachable.sound`). A write fails
exactly where it offends (`Write.Offends`), wherever in its arguments the offending entry stands, and then leaves the
tracker as it was (`refused_writes_change_nothing`).
-/
namespace Fuzzing

namespace Coverage

variable {ρ : Type}

/-- No name stands twice in the tracker, every name counts as one, and no count is negative. -/
structure Sound (c : Coverage ρ Int) : Prop where
  distinct : Table.Distinct c.counts
  fit : ∀ e ∈ c.counts, e.1.isNamed = true ∧ 0 ≤ e.2

theorem sound_empty (name : Document ρ) : Sound (⟨name,[]⟩ : Coverage ρ Int) where
  distinct := List.Pairwise.nil
  fit _ mem := absurd mem List.not_mem_nil

/-- A table without negative counts has none for any signal. -/
theorem getD_get?_nonneg {t : List (Signal × Int)} (fit : ∀ e ∈ t, e.1.isNamed = true ∧ 0 ≤ e.2) (signal : Signal) :
    0 ≤ (Table.get? signal t).getD 0 := by
  induction t with
  | nil => exact Int.le_refl 0
  | cons e rest ih =>
    obtain ⟨first,later⟩ := List.forall_mem_cons.mp fit
    rw [Table.get?]
    split
    · exact first.2
    · exact ih later

private theorem Sound.count_nonneg {c : Coverage ρ Int} (sound : c.Sound) (signal : Signal) : 0 ≤ c.count signal :=
  getD_get?_nonneg sound.fit signal

private theorem fit_put {t : List (Signal × Int)} (fit : ∀ e ∈ t, e.1.isNamed = true ∧ 0 ≤ e.2) {signal : Signal} {n : Int}
    (named : signal.isNamed = true) (positive : 0 ≤ n) :
    ∀ e ∈ Table.put signal n t, e.1.isNamed = true ∧ 0 ≤ e.2 := by
  induction t with
  | nil =>
    intro e mem
    obtain rfl := List.mem_singleton.mp mem
    exact ⟨named,positive⟩
  | cons other rest ih =>
    obtain ⟨first,later⟩ := List.forall_mem_cons.mp fit
    by_cases same : (other.1 == signal) = true
    · rw [Table.put,if_pos same]
      exact List.forall_mem_cons.mpr ⟨⟨first.1,positive⟩,later⟩
    · rw [Table.put,if_neg same]
      exact List.forall_mem_cons.mpr ⟨first,ih later⟩

private theorem Sound.known {c : Coverage ρ Int} (sound : c.Sound) {signal : Signal} (named : signal.isNamed = true) :
    (c.known signal).Sound := by
  rw [Coverage.known]
  split
  · exact sound
  · exact { distinct := sound.distinct.put signal _, fit := fit_put sound.fit named (Int.le_refl 0) }

private theorem Sound.hit {c : Coverage ρ Int} (sound : c.Sound) {signal : Signal} (named : signal.isNamed = true)
    {amount : Int} (positive : 0 ≤ amount) : (c.hit signal amount).Sound where
  distinct := sound.distinct.put signal _
  fit := fit_put sound.fit named (Int.add_nonneg (sound.count_nonneg signal) positive)

theorem Sound.absorb {c : Coverage ρ Int} (sound : c.Sound) {incoming : List (Signal × Int)}
    (fit : ∀ e ∈ incoming, e.1.isNamed = true ∧ 0 ≤ e.2) : (c.absorb incoming).Sound :=
  List.foldlRecOn incoming _ sound fun _ sound e mem => sound.hit (fit e mem).1 (fit e mem).2

private theorem Sound.cleared {c : Coverage ρ Int} (sound : c.Sound) : c.cleared.Sound where
  distinct := List.pairwise_map.mpr sound.distinct
  fit := by
    intro e mem
    obtain ⟨other,there,rfl⟩ := List.mem_map.mp mem
    exact ⟨(sound.fit other there).1,Int.le_refl 0⟩

private theorem Sound.applied {c : Coverage ρ Int} (sound : c.Sound) {w : Write} (accepted : w.Accepted) :
    (w.applied c).Sound := by
  cases w with
  | declare signal => exact sound.known accepted
  | declareAll signals => exact List.foldlRecOn signals _ sound fun _ sound s mem => sound.known (accepted s mem)
  | increment signal amount => exact sound.hit accepted.1 accepted.2
  | observe signals =>
    have named := (Write.forall_isNamed_eraseDups signals).mpr accepted
    exact List.foldlRecOn _ _ sound fun _ sound s mem => sound.hit (named s mem) (by decide)
  | merge other =>
    cases other with
    | none => exact absurd accepted not_false
    | some entries => exact sound.absorb accepted

theorem Sound.foldl_applied {c : Coverage ρ Int} (sound : c.Sound) {ws : List Write} (accepted : ∀ w ∈ ws, w.Accepted) :
    (ws.foldl Write.applied c).Sound :=
  List.foldlRecOn ws _ sound fun _ sound w mem => sound.applied (accepted w mem)

/-- The counts of a sound tracker are accepted by every other one, and by the tracker itself. -/
theorem Sound.returns_merge {d : Coverage ρ Int} (sound : d.Sound) (c : Coverage ρ Int) :
    (Coverage.merge (some d.snapshot)).Returns c () (c.absorb d.counts) := by
  have table : Table.ofEntries d.counts = d.counts := Table.ofEntries_of_distinct sound.distinct
  have accepted : (Write.merge (some d.snapshot)).Accepted := by
    rw [snapshot,Write.Accepted,table]
    exact sound.fit
  obtain ⟨_,c',merged,told⟩ := Action.returns_bind.mp (Write.returns_perform accepted c)
  have same : (Write.merge (some d.snapshot)).applied c = c.absorb d.counts := congrArg c.absorb table
  rw [← same,(Action.returns_pure.mp told).2]
  exact merged

/-- An operation that changes a tracker. -/
inductive Operation where
  | write (w : Write)
  | reset

namespace Operation

/-- Performs the operation, and gives the signals that it discovers. -/
def perform : Operation → Action ρ (Coverage ρ Int) (List Signal)
  | write w => w.perform
  | reset => do
    Coverage.reset
    pure []

/-- The tracker after the operation, whether it succeeds or not. -/
def next (c : Coverage ρ Int) (op : Operation) : Coverage ρ Int := (op.perform c).state

/-- The signals that the operation discovers, none if it fails. -/
def told (c : Coverage ρ Int) (op : Operation) : List Signal :=
  match (op.perform c).result with
  | .ok fresh => fresh
  | .error _ => []

theorem next_write (c : Coverage ρ Int) (w : Write) : (write w).next c = if w.Accepted then w.applied c else c := by
  split
  next accepted =>
    obtain ⟨events,ran⟩ := Write.returns_perform accepted c
    exact congrArg Trace.state ran
  next unacceptable =>
    obtain ⟨why,ran⟩ := Write.refuses_perform unacceptable c
    exact congrArg Trace.state ran

theorem told_write (c : Coverage ρ Int) (w : Write) :
    (write w).told c = if w.Accepted then w.discovered c else [] := by
  split
  next accepted =>
    obtain ⟨events,ran⟩ := Write.returns_perform accepted c
    have ran : (write w).perform c = ⟨.ok (w.discovered c),w.applied c,events⟩ := ran
    rw [told,ran]
  next unacceptable =>
    obtain ⟨why,ran⟩ := Write.refuses_perform unacceptable c
    have ran : (write w).perform c = ⟨.error (.refused why),c,[]⟩ := ran
    rw [told,ran]

end Operation

/-- A tracker that calls lead to: a new one, or one after an operation, whether that succeeded or not. -/
inductive Reachable : Coverage ρ Int → Prop where
  | create {name : Document ρ} {signals : List Signal} {c : Coverage ρ Int} {events : List (Event ρ)} :
    create name signals = ⟨.ok (),c,events⟩ → Reachable c
  | next {c : Coverage ρ Int} (op : Operation) : Reachable c → Reachable (op.next c)

/-- A new tracker is an empty one after its signals were declared. -/
theorem eq_of_create {name : Document ρ} {signals : List Signal} {c : Coverage ρ Int} {events : List (Event ρ)}
    (made : create name signals = ⟨.ok (),c,events⟩) :
    (Write.declareAll signals).Accepted ∧ c = (Write.declareAll signals).applied ⟨name,[]⟩ := by
  have declared : (Write.declareAll signals).perform ⟨name,[]⟩ = ⟨.ok [],c,events⟩ := by
    rw [Write.perform,Action.bind_apply_ok made]
    exact congrArg _ (List.append_nil events)
  obtain ⟨accepted,-,made⟩ := Write.returns_perform_iff.mp ⟨events,declared⟩
  exact ⟨accepted,made⟩

theorem Reachable.sound {c : Coverage ρ Int} (reached : c.Reachable) : c.Sound := by
  induction reached with
  | @create name signals c events made =>
    obtain ⟨accepted,rfl⟩ := eq_of_create made
    exact (sound_empty name).applied accepted
  | next op _ sound =>
    cases op with
    | write w =>
      rw [Operation.next_write]
      split
      next accepted => exact sound.applied accepted
      next => exact sound
    | reset => exact sound.cleared

end Coverage

private theorem Signal.isNamed_text (s : String) : (Signal.text s).isNamed = false ↔ s = "" := by
  simp [Signal.isNamed,Signal.key]

namespace Coverage

section

variable {ρ ν : Type} {c c' : Coverage ρ ν} {e : Failure ρ}

private theorem fails_checkName {signal : Signal} :
    (checkName signal : Action ρ (Coverage ρ ν) Unit).Fails c e c' ↔
      signal.isNamed = false ∧ e = .refused .emptySignalName ∧ c' = c := by
  unfold checkName
  split
  next named => simp [named]
  next nameless =>
    rw [Action.refuse,Action.fails_fail]
    simp [nameless]

theorem fails_checkNames {signals : List Signal}
    (failed : (checkNames signals : Action ρ (Coverage ρ ν) Unit).Fails c e c') :
    (∃ signal ∈ signals, signal.isNamed = false) ∧ e = .refused .emptySignalName ∧ c' = c := by
  induction signals generalizing c with
  | nil => exact absurd failed Action.not_fails_pure
  | cons signal rest ih =>
    obtain first | ⟨_,c₁,checked,later⟩ := Action.fails_bind.mp failed
    · obtain ⟨nameless,told,same⟩ := fails_checkName.mp first
      exact ⟨⟨signal,List.mem_cons_self,nameless⟩,told,same⟩
    · obtain rfl := returns_checkName checked
      obtain ⟨⟨other,mem,nameless⟩,told,same⟩ := ih later
      exact ⟨⟨other,List.mem_cons_of_mem _ mem,nameless⟩,told,same⟩

end

variable {ρ : Type} {c c' : Coverage ρ Int} {e : Failure ρ}

private theorem fails_checkAmount {amount : Int} :
    (checkAmount amount : Action ρ (Coverage ρ Int) Unit).Fails c e c' ↔
      amount < 0 ∧ e = .refused (.negativeAmount (.whole amount)) ∧ c' = c := by
  have sign : Tally.isNegative amount = decide (amount < 0) := rfl
  unfold checkAmount
  rw [sign]
  split
  next negative =>
    rw [Action.refuse,Action.fails_fail]
    simp [of_decide_eq_true negative,Tally.Reported.document]
  next positive =>
    have positive : ¬ amount < 0 := fun negative => positive (decide_eq_true negative)
    simp [positive]

namespace Write

/-- The amounts that the write adds on behalf of its caller. Of a name that is repeated in a table, the last counts. -/
def amounts : Write → List Int
  | increment _ amount => [amount]
  | merge (some entries) => (Table.ofEntries entries).map Prod.snd
  | _ => []

/-- What may be told where a write is refused. -/
inductive Offends (ρ : Type) : Write → Refusal ρ → Prop
  | name {w : Write} {signal : Signal} : signal ∈ w.names → signal.isNamed = false → Offends ρ w .emptySignalName
  | amount {w : Write} {n : Int} : n ∈ w.amounts → n < 0 → Offends ρ w (.negativeAmount (.whole n))
  | nothing : Offends ρ (merge none) .nothingToMerge

private theorem exists_nameless_ofEntries {entries : List (Signal × Int)} :
    (∃ e ∈ Table.ofEntries entries, e.1.isNamed = false) ↔
      ∃ signal ∈ (merge (some entries)).names, signal.isNamed = false := by
  have shared (a b : Signal) (same : (a == b) = true) : (!a.isNamed) = !b.isNamed :=
    congrArg (!·) (Signal.isNamed_congr same)
  have alike := congrArg (· = true) (Table.any_ofEntries shared entries)
  simpa [names] using alike

private theorem offends_of_entry {entries : List (Signal × Int)} {e : Signal × Int} (mem : e ∈ Table.ofEntries entries)
    (nameless : e.1.isNamed = false) : Offends ρ (merge (some entries)) .emptySignalName := by
  obtain ⟨signal,there,unnamed⟩ := exists_nameless_ofEntries.mp ⟨e,mem,nameless⟩
  exact .name there unnamed

private theorem Accepted.isNamed {w : Write} (accepted : w.Accepted) : ∀ signal ∈ w.names, signal.isNamed = true := by
  intro signal mem
  cases w with
  | declare s => exact List.mem_singleton.mp mem ▸ accepted
  | declareAll ss => exact accepted signal mem
  | increment s amount => exact List.mem_singleton.mp mem ▸ accepted.1
  | observe ss => exact accepted signal mem
  | merge other =>
    cases other with
    | none => exact absurd accepted not_false
    | some entries =>
      refine Bool.not_eq_false _ ▸ fun nameless => ?_
      obtain ⟨e,there,unnamed⟩ := exists_nameless_ofEntries.mpr ⟨signal,mem,nameless⟩
      exact Bool.false_ne_true (unnamed.symm.trans (accepted e there).1)

private theorem Accepted.amounts_nonneg {w : Write} (accepted : w.Accepted) : ∀ n ∈ w.amounts, 0 ≤ n := by
  intro n mem
  match w with
  | increment s amount => exact List.mem_singleton.mp mem ▸ accepted.2
  | merge (some entries) =>
    obtain ⟨e,there,rfl⟩ := List.mem_map.mp mem
    exact (accepted e there).2

private theorem Offends.not_accepted {w : Write} {why : Refusal ρ} (offends : Offends ρ w why) : ¬ w.Accepted := by
  intro accepted
  cases offends with
  | name mem nameless => exact Bool.false_ne_true (nameless.symm.trans (accepted.isNamed _ mem))
  | amount mem negative => exact Int.not_le.mpr negative (accepted.amounts_nonneg _ mem)
  | nothing => exact accepted

private theorem fails_checkEntries {entries : List (Signal × Int)}
    (failed : (checkEntries entries : Action ρ (Coverage ρ Int) Unit).Fails c e c') :
    ∃ x ∈ entries, (x.1.isNamed = false ∧ e = .refused .emptySignalName) ∨
      (x.2 < 0 ∧ e = .refused (.negativeAmount (.whole x.2))) := by
  induction entries generalizing c with
  | nil => exact absurd failed Action.not_fails_pure
  | cons first rest ih =>
    obtain naming | ⟨_,c₁,-,checking⟩ := Action.fails_bind.mp failed
    · obtain ⟨nameless,told,-⟩ := fails_checkName.mp naming
      exact ⟨first,List.mem_cons_self,.inl ⟨nameless,told⟩⟩
    · obtain counting | ⟨_,c₂,-,later⟩ := Action.fails_bind.mp checking
      · obtain ⟨negative,told,-⟩ := fails_checkAmount.mp counting
        exact ⟨first,List.mem_cons_self,.inr ⟨negative,told⟩⟩
      · obtain ⟨x,mem,why⟩ := ih later
        exact ⟨x,List.mem_cons_of_mem _ mem,why⟩

private theorem fails_perform {w : Write} (failed : (w.perform).Fails c e c') : ∃ why, e = .refused why ∧ Offends ρ w why := by
  cases w with
  | declare signal =>
    have declaring := Action.fails_of_bind failed fun _ _ => Action.not_fails_pure
    have checking := Action.fails_of_bind declaring fun _ _ => Action.not_fails_update
    obtain ⟨nameless,told,-⟩ := fails_checkName.mp checking
    exact ⟨_,told,.name List.mem_cons_self nameless⟩
  | declareAll signals =>
    have declaring := Action.fails_of_bind failed fun _ _ => Action.not_fails_pure
    have checking := Action.fails_of_bind declaring fun _ _ => Action.not_fails_update
    obtain ⟨⟨signal,mem,nameless⟩,told,-⟩ := fails_checkNames checking
    exact ⟨_,told,.name mem nameless⟩
  | increment signal amount =>
    have incrementing := Action.fails_of_bind failed fun _ _ => Action.not_fails_pure
    obtain naming | ⟨_,c₁,-,later⟩ := Action.fails_bind.mp incrementing
    · obtain ⟨nameless,told,-⟩ := fails_checkName.mp naming
      exact ⟨_,told,.name List.mem_cons_self nameless⟩
    · have counting := Action.fails_of_bind later fun _ _ changing => by
        have looking := Action.fails_state_bind.mp (Action.fails_update_bind.mp changing)
        exact Action.not_fails_pure looking
      obtain ⟨negative,told,-⟩ := fails_checkAmount.mp counting
      exact ⟨_,told,.amount List.mem_cons_self negative⟩
  | observe signals =>
    have checking := Action.fails_of_bind failed fun _ c₁ changing => by
      have noting := Action.fails_update_bind.mp (Action.fails_state_bind.mp changing)
      exact Action.not_fails_noteIf (Action.fails_of_bind noting fun _ _ => Action.not_fails_pure)
    obtain ⟨⟨once,mem,nameless⟩,told,-⟩ := fails_checkNames checking
    have some : ¬ ∀ signal ∈ signals, signal.isNamed = true := fun all =>
      Bool.false_ne_true (nameless.symm.trans ((forall_isNamed_eraseDups signals).mpr all once mem))
    obtain ⟨signal,there,nameless⟩ : ∃ signal ∈ signals, signal.isNamed = false := by simpa using some
    exact ⟨_,told,.name there nameless⟩
  | merge other =>
    have merging := Action.fails_of_bind failed fun _ _ => Action.not_fails_pure
    cases other with
    | none =>
      obtain ⟨told,-⟩ := Action.fails_fail.mp merging
      exact ⟨_,told,.nothing⟩
    | some entries =>
      have checking := Action.fails_of_bind merging fun _ _ changing => by
        have noting := Action.fails_state_bind.mp (Action.fails_update_bind.mp changing)
        exact Action.not_fails_note noting
      obtain ⟨x,mem,⟨nameless,told⟩ | ⟨negative,told⟩⟩ := fails_checkEntries checking
      · exact ⟨_,told,offends_of_entry mem nameless⟩
      · exact ⟨_,told,.amount (List.mem_map_of_mem mem) negative⟩

end Write

/-- A write to a tracker is refused exactly where a name among its arguments is no name, an amount among them is below
    zero, or there is nothing to merge, wherever among the arguments that stands; of the texts, the empty one is no name.
    A write fails in no other way. Where it fails, the refusal tells such an offence, the tracker has the counts that it
    had before, and nothing is noted. -/
theorem refused_writes_change_nothing (c : Coverage ρ Int) (w : Write) :
    ((∃ why, (w.perform c).result = .error (.refused why)) ↔
      (∃ signal ∈ w.names, signal.isNamed = false) ∨ (∃ n ∈ w.amounts, n < 0) ∨ w = .merge none) ∧
    (∀ s : String, (Signal.text s).isNamed = false ↔ s = "") ∧
    ∀ e, (w.perform c).result = .error e →
      (w.perform c).state = c ∧ (w.perform c).events = [] ∧ ∃ why, e = .refused why ∧ w.Offends ρ why := by
  have refused (e : Failure ρ) (failed : (w.perform c).result = .error e) :
      ∃ why, e = .refused why ∧ w.Offends ρ why := Write.fails_perform (Action.fails_of_result failed)
  refine ⟨⟨?_,?_⟩,Signal.isNamed_text,?_⟩
  · rintro ⟨why,failed⟩
    obtain ⟨_,-,offends⟩ := refused _ failed
    cases offends with
    | name mem nameless => exact .inl ⟨_,mem,nameless⟩
    | amount mem negative => exact .inr (.inl ⟨_,mem,negative⟩)
    | nothing => exact .inr (.inr rfl)
  · intro offence
    have offends : ∃ why, w.Offends ρ why := by
      obtain ⟨signal,mem,nameless⟩ | ⟨n,mem,negative⟩ | rfl := offence
      · exact ⟨_,.name mem nameless⟩
      · exact ⟨_,.amount mem negative⟩
      · exact ⟨_,.nothing⟩
    obtain ⟨_,offends⟩ := offends
    obtain ⟨why,ran⟩ := Write.refuses_perform offends.not_accepted c
    exact ⟨why,congrArg Trace.result ran⟩
  · intro e failed
    obtain ⟨_,-,offends⟩ := refused e failed
    obtain ⟨why,ran⟩ := Write.refuses_perform offends.not_accepted c
    exact ⟨congrArg Trace.state ran,congrArg Trace.events ran,refused e failed⟩

/-- A table with a count below zero between two others changes nothing, though its first name is known. -/
theorem refused_writes_change_nothing_between :
    let c : Coverage Rat Int := ⟨.text "cpu",[("decode",5)]⟩
    let w : Write := .merge (some [("decode",1),("verify",-2),("store",3)])
    (w.perform c).result = .error (.refused (.negativeAmount (.whole (-2)))) ∧ (w.perform c).state = c := by
  intro c w
  have failed : (w.perform c).result = .error (.refused (.negativeAmount (.whole (-2)))) := rfl
  obtain ⟨same,-,-⟩ := (refused_writes_change_nothing c w).2.2 _ failed
  exact ⟨failed,same⟩

end Coverage

end Fuzzing

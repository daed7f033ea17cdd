import Mathlib.Data.List.Nodup
import Fuzzing.Engine
import Fuzzing.Proofs.Document.Table
import Fuzzing.Proofs.Quantity
import Fuzzing.Proofs.Randomness

/-!
Reading a ledger. A change concerns the statistics of one handle (`get?_of_revise`) and no registration
(`mutators_of_revise`); where a mutator has several slots, the first one changes (`getElem?_tried`). The keys of a report
stand each for one use of a name; they are told apart unless a mutator has the name that a repetition of another name is
given (`nodup_keysFrom_iff`). Just then a report has fewer entries than the ledger has slots (`reports_complete_iff`).
-/
namespace Fuzzing

/-- The statistics after a change, or as they were where it is not accepted. -/
def Statistics.tried {ρ : Type} (change : Statistics ρ → Except (Failure ρ) (Statistics ρ)) (s : Statistics ρ) :
    Statistics ρ :=
  (change s).toOption.getD s

namespace Ledger

variable {ρ σ : Type} {l l' : Ledger ρ σ} {handle : Nat}

theorem get?_isSome_of_mem {m : Mutator ρ σ} (mem : m ∈ l.mutators) : (l.get? m.handle).isSome = true := by
  induction l with
  | nil => exact absurd mem List.not_mem_nil
  | cons slot rest ih =>
    rw [get?]
    split
    · rfl
    next other =>
      obtain rfl | later := List.mem_cons.mp mem
      · exact absurd rfl other
      · exact ih later

theorem get?_of_mem (apart : (l.map fun slot => slot.mutator.handle).Nodup) {slot : Slot ρ σ} (mem : slot ∈ l) :
    l.get? slot.mutator.handle = some slot.stats := by
  induction l with
  | nil => exact absurd mem List.not_mem_nil
  | cons first rest ih =>
    rw [List.map_cons,List.nodup_cons] at apart
    rw [get?]
    obtain rfl | later := List.mem_cons.mp mem
    · rw [if_pos rfl]
    · rw [if_neg ?_,ih apart.2 later]
      intro same
      exact apart.1 (same ▸ List.mem_map_of_mem later)

/-- The same mutators have the same handles. -/
theorem handles_of_mutators (same : l'.mutators = l.mutators) :
    (l'.map fun slot => slot.mutator.handle) = l.map fun slot => slot.mutator.handle := by
  have mapped := congrArg (List.map (·.handle)) same
  rwa [mutators,mutators,List.map_map,List.map_map] at mapped

theorem exists_mem_of_get? {s : Statistics ρ} (read : l.get? handle = some s) : ∃ slot ∈ l, slot.stats = s := by
  induction l with
  | nil => cases read
  | cons slot rest ih =>
    rw [get?] at read
    split at read
    · exact ⟨slot,List.mem_cons_self,Option.some.inj read⟩
    · obtain ⟨other,mem,stats⟩ := ih read
      exact ⟨other,List.mem_cons_of_mem _ mem,stats⟩

variable {change : Statistics ρ → Except (Failure ρ) (Statistics ρ)}

private theorem revise_cons {slot : Slot ρ σ} {rest : Ledger ρ σ} (ran : revise handle change (slot :: rest) = .ok l') :
    (slot.mutator.handle = handle ∧ ∃ stats, change slot.stats = .ok stats ∧ l' = { slot with stats } :: rest) ∨
    (slot.mutator.handle ≠ handle ∧ ∃ rest', revise handle change rest = .ok rest' ∧ l' = slot :: rest') := by
  rw [revise] at ran
  split at ran
  next here =>
    split at ran
    next stats changed =>
      cases ran
      exact .inl ⟨here,stats,changed,rfl⟩
    · cases ran
  next other =>
    split at ran
    next rest' revised =>
      cases ran
      exact .inr ⟨other,rest',revised,rfl⟩
    · cases ran

theorem mutators_of_revise (ran : l.revise handle change = .ok l') : l'.mutators = l.mutators := by
  induction l generalizing l' with
  | nil =>
    cases ran
    rfl
  | cons slot rest ih =>
    obtain ⟨-,stats,-,rfl⟩ | ⟨-,rest',revised,rfl⟩ := revise_cons ran
    · rfl
    · exact congrArg (slot.mutator :: ·) (ih revised)

/-- A change that succeeds modifies one slot, in whatever way does the same wherever the change succeeds. -/
theorem exists_modify_of_revise (ran : l.revise handle change = .ok l') :
    ∃ i, ∀ value : Statistics ρ → Statistics ρ, (∀ s s', change s = .ok s' → value s = s') →
      l' = l.modify i fun slot => { slot with stats := value slot.stats } := by
  induction l generalizing l' with
  | nil =>
    cases ran
    exact ⟨0,fun _ _ => rfl⟩
  | cons slot rest ih =>
    obtain ⟨-,stats,changed,rfl⟩ | ⟨-,rest',revised,rfl⟩ := revise_cons ran
    · refine ⟨0,fun value effect => ?_⟩
      rw [List.modify_zero_cons,effect _ _ changed]
    · obtain ⟨i,modified⟩ := ih revised
      refine ⟨i + 1,fun value effect => ?_⟩
      rw [List.modify_succ_cons,← modified value effect]

/-- What a change keeps of the statistics it concerns, holds of all statistics if it did before. -/
theorem forall_of_revise (keeps : Statistics ρ → Prop) (change_keeps : ∀ s s', change s = .ok s' → keeps s → keeps s')
    (ran : l.revise handle change = .ok l') (all : ∀ slot ∈ l, keeps slot.stats) : ∀ slot ∈ l', keeps slot.stats := by
  induction l generalizing l' with
  | nil =>
    cases ran
    exact all
  | cons slot rest ih =>
    obtain ⟨first,later⟩ := List.forall_mem_cons.mp all
    obtain ⟨-,stats,changed,rfl⟩ | ⟨-,rest',revised,rfl⟩ := revise_cons ran
    · exact List.forall_mem_cons.mpr ⟨change_keeps _ _ changed first,later⟩
    · exact List.forall_mem_cons.mpr ⟨first,ih revised later⟩

/-- What a change keeps of the statistics it concerns, holds of some statistics if it did before. -/
theorem exists_of_revise (keeps : Statistics ρ → Prop) (change_keeps : ∀ s s', change s = .ok s' → keeps s → keeps s')
    (ran : l.revise handle change = .ok l') (some : ∃ slot ∈ l, keeps slot.stats) : ∃ slot ∈ l', keeps slot.stats := by
  induction l generalizing l' with
  | nil =>
    cases ran
    exact some
  | cons slot rest ih =>
    obtain ⟨other,mem,before⟩ := some
    obtain ⟨-,stats,changed,rfl⟩ | ⟨-,rest',revised,rfl⟩ := revise_cons ran
    · obtain rfl | later := List.mem_cons.mp mem
      · exact ⟨_,List.mem_cons_self,change_keeps _ _ changed before⟩
      · exact ⟨other,List.mem_cons_of_mem _ later,before⟩
    · obtain rfl | later := List.mem_cons.mp mem
      · exact ⟨other,List.mem_cons_self,before⟩
      · obtain ⟨after,there,kept⟩ := ih revised ⟨other,later,before⟩
        exact ⟨after,List.mem_cons_of_mem _ there,kept⟩

/-- What a change does wherever it succeeds, it does to the statistics of the handle, and to no others. -/
theorem get?_of_revise {value : Statistics ρ → Statistics ρ}
    (effect : ∀ s s', change s = .ok s' → s' = value s) (ran : l.revise handle change = .ok l') (other : Nat) :
    l'.get? other = (l.get? other).map fun s => if other = handle then value s else s := by
  induction l generalizing l' with
  | nil =>
    cases ran
    rfl
  | cons slot rest ih =>
    obtain ⟨here,stats,changed,rfl⟩ | ⟨there,rest',revised,rfl⟩ := revise_cons ran
    · obtain rfl := effect _ _ changed
      rw [get?,get?]
      by_cases found : slot.mutator.handle = other
      · rw [if_pos found,if_pos found,Option.map_some,if_pos (found.symm.trans here)]
      · have differs : other ≠ handle := fun same => found (here.trans same.symm)
        rw [if_neg found,if_neg found]
        simp only [if_neg differs,Option.map_id']
    · rw [get?,get?]
      by_cases found : slot.mutator.handle = other
      · rw [if_pos found,if_pos found,Option.map_some,if_neg (found ▸ there)]
      · rw [if_neg found,if_neg found,ih revised]

/-- The ledger after a change to the statistics of a mutator, or as it was where the change is not accepted. -/
def tried (handle : Nat) (change : Statistics ρ → Except (Failure ρ) (Statistics ρ)) (l : Ledger ρ σ) : Ledger ρ σ :=
  (l.revise handle change).toOption.getD l

private theorem tried_cons (slot : Slot ρ σ) (rest : Ledger ρ σ) :
    tried handle change (slot :: rest) =
      if slot.mutator.handle = handle then { slot with stats := slot.stats.tried change } :: rest
      else slot :: tried handle change rest := by
  rw [tried,revise]
  by_cases here : slot.mutator.handle = handle
  · rw [if_pos here,if_pos here,Statistics.tried]
    cases change slot.stats <;> rfl
  · rw [if_neg here,if_neg here,tried]
    cases revise handle change rest <;> rfl

theorem tried_of_unknown (unknown : l.get? handle = none) : l.tried handle change = l := by
  induction l with
  | nil => rfl
  | cons slot rest ih =>
    rw [get?] at unknown
    split at unknown
    · cases unknown
    next other => rw [tried_cons,if_neg other,ih unknown]

theorem mutators_tried : (l.tried handle change).mutators = l.mutators := by
  unfold tried
  cases revised : l.revise handle change with
  | error e => rfl
  | ok l' => exact mutators_of_revise revised

/-- A change reaches a slot of its mutator, if no slot in front of it has the same mutator. -/
theorem getElem?_tried {i : Nat} {slot : Slot ρ σ} (there : l[i]? = some slot) :
    (l.tried handle change)[i]? =
      some (if slot.mutator.handle = handle ∧ handle ∉ (l.mutators.take i).map (·.handle)
        then { slot with stats := slot.stats.tried change } else slot) := by
  induction l generalizing i with
  | nil => cases there
  | cons first rest ih =>
    rw [tried_cons]
    cases i with
    | zero =>
      cases there
      by_cases here : slot.mutator.handle = handle <;> simp [here]
    | succ i =>
      have later : rest[i]? = some slot := there
      by_cases here : first.mutator.handle = handle
      · simp [here,later,mutators]
      · have apart : ¬ handle = first.mutator.handle := fun same => here same.symm
        simp [here,apart,ih later,mutators]

end Ledger

end Fuzzing

namespace Fuzzing.Ledger

/-- The key of a repetition of a name. -/
def repetition (name : String) (use : Nat) : String := name ++ "#" ++ toString use

/-- The key of a use of a name, the first of which is no repetition. -/
def key (use : String × Nat) : String := if use.2 = 1 then use.1 else repetition use.1 use.2

private theorem toList_repetition (name : String) (use : Nat) :
    (repetition name use).toList = name.toList ++ '#' :: Nat.toDigits 10 use := by
  rw [repetition,String.toList_append,String.toList_append,Nat.toString_eq_repr,Nat.toList_repr,List.append_assoc]
  rfl

private theorem sign_notMem_digits (n : Nat) : '#' ∉ Nat.toDigits 10 n := by
  intro mem
  have digit : ('#').isDigit = true := Nat.isDigit_of_mem_toDigits (by decide) (by decide) mem
  exact absurd digit (by decide)

private theorem append_cons_inj {α : Type} {sign : α} {front front' word word' : List α} (plain : sign ∉ word)
    (plain' : sign ∉ word') (same : front ++ sign :: word = front' ++ sign :: word') :
    front = front' ∧ word = word' := by
  obtain ⟨between,rfl,shifted⟩ | ⟨between,rfl,shifted⟩ := List.append_eq_append_iff.mp same
  all_goals
    cases between with
    | nil =>
      cases shifted
      exact ⟨by rw [List.append_nil],rfl⟩
    | cons letter rest =>
      cases shifted
      simp at plain plain'

/-- The number of a repetition is what follows its last number sign, so that different repetitions have different
    keys. -/
private theorem repetition_inj {name other : String} {use use' : Nat} (same : repetition name use = repetition other use') :
    name = other ∧ use = use' := by
  have letters := congrArg String.toList same
  rw [toList_repetition,toList_repetition] at letters
  obtain ⟨names,digits⟩ := append_cons_inj (sign_notMem_digits use) (sign_notMem_digits use') letters
  have read := congrArg (fun digits => Nat.ofDigitChars 10 digits 0) digits
  refine ⟨String.toList_inj.mp names,?_⟩
  simpa only [Nat.ofDigitChars_toDigits (by decide : 1 < 10) (by decide : 10 ≤ 10)] using read

/-- Which use of its name each of some names is, behind some that were seen before. -/
private def usesFrom (seen : List String) : List String → List (String × Nat)
  | [] => []
  | name :: rest => (name,seen.count name + 1) :: usesFrom (name :: seen) rest

private theorem keysFrom_eq_map (seen names : List String) : keysFrom seen names = (usesFrom seen names).map key := by
  induction names generalizing seen with
  | nil => rfl
  | cons name rest ih =>
    rw [keysFrom,ih]
    rfl

private theorem mem_usesFrom {seen names : List String} {name : String} {use : Nat} :
    (name,use) ∈ usesFrom seen names ↔ seen.count name < use ∧ use ≤ seen.count name + names.count name := by
  induction names generalizing seen with
  | nil =>
    rw [usesFrom,List.count_nil]
    refine ⟨fun mem => absurd mem List.not_mem_nil,fun between => ?_⟩
    omega
  | cons first rest ih =>
    rw [usesFrom,List.mem_cons,ih,Prod.mk.injEq]
    by_cases same : first = name
    · subst same
      rw [List.count_cons_self,List.count_cons_self]
      simp only [true_and]
      omega
    · have differs : ¬ name = first := fun reversed => same reversed.symm
      rw [List.count_cons_of_ne same,List.count_cons_of_ne same]
      simp only [differs,false_and,false_or]

private theorem nodup_usesFrom (seen names : List String) : (usesFrom seen names).Nodup := by
  induction names generalizing seen with
  | nil => exact List.nodup_nil
  | cons name rest ih =>
    refine List.nodup_cons.mpr ⟨?_,ih _⟩
    intro again
    have later := (mem_usesFrom.mp again).1
    rw [List.count_cons_self] at later
    omega

/-- No name that is used is spelled like a repetition of a name. -/
def Unambiguous (names : List String) : Prop :=
  ∀ name ∈ names, ∀ use ≤ names.count name, 1 < use → repetition name use ∉ names

instance (names : List String) : Decidable (Unambiguous names) :=
  inferInstanceAs (Decidable (∀ name ∈ names, ∀ use ≤ names.count name, 1 < use → repetition name use ∉ names))

private theorem mem_of_used {names : List String} {name : String} {use : Nat} (used : (name,use) ∈ usesFrom [] names) :
    0 < use ∧ use ≤ names.count name ∧ name ∈ names := by
  obtain ⟨least,most⟩ := mem_usesFrom.mp used
  rw [List.count_nil,Nat.zero_add] at most
  rw [List.count_nil] at least
  exact ⟨least,most,List.count_pos_iff.mp (Nat.lt_of_lt_of_le least most)⟩

private theorem use_eq_of_key_eq {names : List String} (clear : Unambiguous names) {a b : String × Nat}
    (used : a ∈ usesFrom [] names) (used' : b ∈ usesFrom [] names) (same : key a = key b) : a = b := by
  obtain ⟨name,use⟩ := a
  obtain ⟨other,use'⟩ := b
  obtain ⟨positive,most,there⟩ := mem_of_used used
  obtain ⟨positive',most',there'⟩ := mem_of_used used'
  simp only [key] at same
  by_cases first : use = 1 <;> by_cases first' : use' = 1
  · rw [if_pos first,if_pos first'] at same
    rw [same,first,first']
  · rw [if_pos first,if_neg first'] at same
    exact absurd (same ▸ there) (clear other there' use' most' (by omega))
  · rw [if_neg first,if_pos first'] at same
    exact absurd (same ▸ there') (clear name there use most (by omega))
  · rw [if_neg first,if_neg first'] at same
    obtain ⟨rfl,rfl⟩ := repetition_inj same
    rfl

/-- The keys of some names are told apart just if no name is spelled like a repetition. -/
theorem nodup_keysFrom_iff (names : List String) : (keysFrom [] names).Nodup ↔ Unambiguous names := by
  rw [keysFrom_eq_map,List.nodup_map_iff_inj_on (nodup_usesFrom [] names)]
  constructor
  · intro apart name there use most repeated spelled
    have used : (name,use) ∈ usesFrom [] names := by
      rw [mem_usesFrom,List.count_nil]
      omega
    have first : (repetition name use,1) ∈ usesFrom [] names := by
      rw [mem_usesFrom,List.count_nil]
      have some := List.count_pos_iff.mpr spelled
      omega
    have keys : key (name,use) = key (repetition name use,1) := if_neg (by omega)
    have same := congrArg Prod.snd (apart _ used _ first keys)
    exact absurd same (by omega)
  · intro clear a used b used'
    exact use_eq_of_key_eq clear used used'

private theorem length_keysFrom (seen names : List String) : (keysFrom seen names).length = names.length := by
  induction names generalizing seen with
  | nil => rfl
  | cons name rest ih => exact congrArg Nat.succ (ih _)

private theorem distinct_zip_iff {α : Type} {keys : List String} {values : List α} (full : keys.length = values.length) :
    Table.Distinct (keys.zip values) ↔ keys.Nodup := by
  have listed : (keys.zip values).map Prod.fst = keys := List.map_fst_zip (Nat.le_of_eq full)
  rw [Table.Distinct,← listed,List.Nodup,List.pairwise_map,listed]
  simp only [beq_eq_false_iff_ne]

section

variable {ρ σ : Type} [Quantity ρ]

/-- Reports tell of every slot under a key of its own, in the order of registration, just if no mutator has the name that
    a repetition of another name is given. Otherwise they tell of fewer slots than there are. -/
theorem reports_complete_iff (l : Ledger ρ σ) (policy : SelectionPolicy ρ) :
    let names := l.map (·.mutator.name)
    let counters := l.reportKeys.zip (l.map (·.stats))
    let scores := l.reportKeys.zip (l.scores policy)
    counters.length = l.length ∧ scores.length = l.length ∧
    (l.reportKeys.Nodup ↔ Unambiguous names) ∧
    (l.snapshot = counters ↔ Unambiguous names) ∧ (l.scoreReport policy = scores ↔ Unambiguous names) ∧
    (¬ Unambiguous names → l.snapshot.length < l.length ∧ (l.scoreReport policy).length < l.length) := by
  intro names counters scores
  have keys : l.reportKeys.length = l.length := (length_keysFrom [] _).trans (List.length_map _)
  have apart : l.reportKeys.Nodup ↔ Unambiguous names := nodup_keysFrom_iff names
  have length {α : Type} (f : Slot ρ σ → α) : (l.reportKeys.zip (l.map f)).length = l.length := by
    rw [List.length_zip,keys,List.length_map,Nat.min_self]
  have distinct {α : Type} (f : Slot ρ σ → α) :
      Table.Distinct (l.reportKeys.zip (l.map f)) ↔ Unambiguous names :=
    (distinct_zip_iff (keys.trans (List.length_map f).symm)).trans apart
  have shorter {α : Type} (f : Slot ρ σ → α) (mixed : ¬ Unambiguous names) :
      (Table.ofEntries (l.reportKeys.zip (l.map f))).length < l.length := by
    rw [← length f]
    exact Table.length_ofEntries_lt (mt (distinct f).mp mixed)
  exact ⟨length _,length _,apart,Table.ofEntries_eq_iff.trans (distinct _),Table.ofEntries_eq_iff.trans (distinct _),
    fun mixed => ⟨shorter _ mixed,shorter _ mixed⟩⟩

end

/-- A ledger of mutators with some names, the first of which was executed once, the second one twice, and so on. -/
def ofNames (names : List String) : Ledger Rat Least :=
  names.zipIdx.map fun e =>
    ⟨⟨e.2,some e.1,"Named",fun data => pure (some data)⟩,{ Statistics.zero with executions := e.2 + 1 }⟩

/-- A name that looks like a repetition does no harm as long as the repetition does not come up. -/
theorem reports_complete_iff_third :
    Unambiguous ["A#3","A","A"] ∧ (ofNames ["A#3","A","A"]).reportKeys.Nodup ∧
      (ofNames ["A#3","A","A"]).snapshot.map (fun e => (e.1,e.2.executions)) = [("A#3",1),("A",2),("A#2",3)] := by
  have clear : Unambiguous ["A#3","A","A"] := by decide
  obtain ⟨-,-,apart,counters,-⟩ := reports_complete_iff (ofNames ["A#3","A","A"]) .standard
  refine ⟨clear,apart.mpr clear,?_⟩
  rw [counters.mpr clear]
  decide

/-- Where the repetition comes up, two mutators have one key, and the executions of the first one of them are in no
    report. -/
theorem report_of_repeated_key :
    (ofNames ["A","A","A#2"]).reportKeys = ["A","A#2","A#2"] ∧ ¬ (ofNames ["A","A","A#2"]).reportKeys.Nodup ∧
      (ofNames ["A","A","A#2"]).snapshot.map (fun e => (e.1,e.2.executions)) = [("A",1),("A#2",3)] := by
  decide

end Fuzzing.Ledger

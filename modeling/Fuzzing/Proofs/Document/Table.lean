import Fuzzing.Document

/-!
Tables after changes to them. A key that was put is found by every spelling of it (`get?_put`); a table that is made
from entries holds every key of them (`any_ofEntries`), and none of them twice (`distinct_ofEntries`), so that it is
shorter than they are where a key is repeated (`length_ofEntries_lt`).
-/
namespace Fuzzing

namespace Table

variable {κ α : Type} [BEq κ]

theorem isSome_get? (key : κ) (t : List (κ × α)) : (get? key t).isSome = t.any fun e => e.1 == key := by
  induction t with
  | nil => rfl
  | cons e rest ih =>
    rw [get?,List.any_cons,← ih]
    cases e.1 == key <;> rfl

/-- Changing the values of a table changes what is found, and nothing about where. -/
theorem get?_map {β : Type} (f : α → β) (key : κ) (t : List (κ × α)) :
    get? key (t.map fun e => (e.1,f e.2)) = (get? key t).map f := by
  induction t with
  | nil => rfl
  | cons e rest ih =>
    rw [List.map_cons,get?,get?,ih]
    split <;> rfl

variable [EquivBEq κ]

/-- Keys that are the same lead to the same value. -/
theorem get?_congr {key other : κ} (same : (key == other) = true) (t : List (κ × α)) : get? key t = get? other t := by
  induction t with
  | nil => rfl
  | cons e rest ih => simp only [get?,BEq.congr_right same,ih]

theorem get?_put (key other : κ) (value : α) (t : List (κ × α)) :
    get? other (put key value t) = if key == other then some value else get? other t := by
  by_cases same : (key == other) = true
  · rw [if_pos same,← get?_congr same,get?_put_self]
  · rw [if_neg same,get?_put_of_ne (Bool.eq_false_iff.mpr same)]

omit [EquivBEq κ] in
/-- To put a value under a key changes one value of a table, that under the key, or adds it. -/
theorem countP_put (p : α → Bool) (key : κ) (value : α) (t : List (κ × α)) :
    (put key value t).countP (fun e => p e.2) + (if (get? key t).any p then 1 else 0) =
      t.countP (fun e => p e.2) + if p value then 1 else 0 := by
  induction t with
  | nil => simp [put,get?]
  | cons e rest ih =>
    obtain ⟨k,v⟩ := e
    by_cases same : (k == key) = true
    · simp only [put,get?,same,if_true,List.countP_cons,Option.any_some]
      omega
    · rw [put,if_neg same,get?,if_neg same,List.countP_cons,List.countP_cons]
      omega

/-- No key stands in the table twice. -/
def Distinct (t : List (κ × α)) : Prop := t.Pairwise fun a b => (a.1 == b.1) = false

omit [EquivBEq κ] in
/-- To put a value under a key adds that key, and no other. -/
theorem any_put {p : κ → Bool} (shared : ∀ a b, (a == b) = true → p a = p b) (key : κ) (value : α)
    (t : List (κ × α)) : ((put key value t).any fun e => p e.1) = (p key || t.any fun e => p e.1) := by
  induction t with
  | nil => rfl
  | cons e rest ih =>
    obtain ⟨k,v⟩ := e
    by_cases same : (k == key) = true
    · have share := shared k key same
      cases holds : p key <;> simp [put,same,share,holds]
    · rw [put,if_neg same,List.any_cons,ih,List.any_cons,Bool.or_left_comm]

theorem Distinct.put {t : List (κ × α)} (distinct : Distinct t) (key : κ) (value : α) :
    Distinct (put key value t) := by
  induction t with
  | nil => exact List.pairwise_singleton _ _
  | cons e rest ih =>
    obtain ⟨k,v⟩ := e
    obtain ⟨apart,later⟩ := List.pairwise_cons.mp distinct
    by_cases same : (k == key) = true
    · rw [Table.put,if_pos same]
      exact List.pairwise_cons.mpr ⟨apart,later⟩
    · rw [Table.put,if_neg same]
      refine List.pairwise_cons.mpr ⟨?_,ih later⟩
      -- The keys of the longer table are those of the rest, and the key that was put.
      have none : ((Table.put key value rest).any fun e => k == e.1) = false := by
        rw [any_put fun a b same => BEq.congr_right same,Bool.eq_false_iff.mpr same,Bool.false_or,List.any_eq_false]
        intro other mem
        rw [apart other mem]
        exact Bool.false_ne_true
      intro other mem
      exact Bool.eq_false_iff.mpr (List.any_eq_false.mp none other mem)

private theorem distinct_putAll {t : List (κ × α)} (distinct : Distinct t) (entries : List (κ × α)) :
    Distinct (putAll t entries) := by
  induction entries generalizing t with
  | nil => exact distinct
  | cons e rest ih => exact ih (distinct.put e.1 e.2)

theorem distinct_ofEntries (entries : List (κ × α)) : Distinct (ofEntries entries) :=
  distinct_putAll List.Pairwise.nil entries

omit [EquivBEq κ] in
theorem any_ofEntries {p : κ → Bool} (shared : ∀ a b, (a == b) = true → p a = p b) (entries : List (κ × α)) :
    ((ofEntries entries).any fun e => p e.1) = entries.any fun e => p e.1 := by
  have behind (t : List (κ × α)) :
      ((putAll t entries).any fun e => p e.1) = ((t.any fun e => p e.1) || entries.any fun e => p e.1) := by
    induction entries generalizing t with
    | nil => rw [List.any_nil,Bool.or_false]; rfl
    | cons e rest ih =>
      have step : putAll t (e :: rest) = putAll (Table.put e.1 e.2 t) rest := rfl
      rw [step,ih,any_put shared,List.any_cons,Bool.or_comm (p e.1),Bool.or_assoc]
  exact behind []

omit [EquivBEq κ] in
theorem put_of_forall_ne {key : κ} (value : α) {t : List (κ × α)} (apart : ∀ e ∈ t, (e.1 == key) = false) :
    put key value t = t ++ [(key,value)] := by
  induction t with
  | nil => rfl
  | cons e rest ih =>
    have later := ih fun other mem => apart other (List.mem_cons_of_mem _ mem)
    rw [put,apart e List.mem_cons_self,if_neg Bool.false_ne_true,later]
    rfl

omit [EquivBEq κ] in
/-- Entries without repeated keys are the table that they make. -/
theorem ofEntries_of_distinct {entries : List (κ × α)} (distinct : Distinct entries) : ofEntries entries = entries := by
  have behind (t : List (κ × α)) (all : Distinct (t ++ entries)) : putAll t entries = t ++ entries := by
    induction entries generalizing t with
    | nil => exact (List.append_nil t).symm
    | cons e rest ih =>
      obtain ⟨-,-,apart⟩ := List.pairwise_append.mp all
      have step : putAll t (e :: rest) = putAll (t ++ [e]) rest :=
        congrArg (putAll · rest) (put_of_forall_ne e.2 fun other mem => apart other mem e List.mem_cons_self)
      have regrouped : t ++ e :: rest = t ++ [e] ++ rest := (List.append_cons t e rest)
      rw [step,ih (List.Pairwise.of_cons distinct) _ (regrouped ▸ all),regrouped]
  exact behind [] distinct

theorem ofEntries_eq_iff {entries : List (κ × α)} : ofEntries entries = entries ↔ Distinct entries :=
  ⟨fun same => same ▸ distinct_ofEntries entries,ofEntries_of_distinct⟩

omit [EquivBEq κ] in
private theorem length_put_le (key : κ) (value : α) (t : List (κ × α)) : (put key value t).length ≤ t.length + 1 := by
  induction t with
  | nil => exact Nat.le_refl 1
  | cons e rest ih =>
    rw [put]
    split
    · exact Nat.le_succ _
    · exact Nat.succ_le_succ ih

omit [EquivBEq κ] in
private theorem length_put_of_mem {key : κ} (value : α) {t : List (κ × α)} {e : κ × α} (mem : e ∈ t)
    (same : (e.1 == key) = true) : (put key value t).length = t.length := by
  induction t with
  | nil => exact absurd mem List.not_mem_nil
  | cons first rest ih =>
    rw [put]
    split
    · rfl
    next other =>
      obtain rfl | later := List.mem_cons.mp mem
      · exact absurd same other
      · exact congrArg Nat.succ (ih later)

omit [EquivBEq κ] in
private theorem length_putAll_le (t entries : List (κ × α)) : (putAll t entries).length ≤ t.length + entries.length := by
  induction entries generalizing t with
  | nil => exact Nat.le_refl _
  | cons e rest ih =>
    have step : putAll t (e :: rest) = putAll (put e.1 e.2 t) rest := rfl
    have one := length_put_le e.1 e.2 t
    have all := ih (put e.1 e.2 t)
    rw [step,List.length_cons]
    omega

private theorem length_putAll_lt {t entries : List (κ × α)} (distinct : Distinct t) (repeated : ¬ Distinct (t ++ entries)) :
    (putAll t entries).length < t.length + entries.length := by
  induction entries generalizing t with
  | nil => exact absurd distinct (List.append_nil t ▸ repeated)
  | cons e rest ih =>
    have step : putAll t (e :: rest) = putAll (put e.1 e.2 t) rest := rfl
    rw [step,List.length_cons]
    by_cases known : ∃ other ∈ t, (other.1 == e.1) = true
    · obtain ⟨other,mem,same⟩ := known
      have all := length_putAll_le (put e.1 e.2 t) rest
      rw [length_put_of_mem e.2 mem same] at all
      omega
    · have new : put e.1 e.2 t = t ++ [e] :=
        put_of_forall_ne e.2 fun other mem => Bool.eq_false_iff.mpr fun same => known ⟨other,mem,same⟩
      have all := ih (new ▸ distinct.put e.1 e.2) (List.append_cons t e rest ▸ repeated)
      rw [List.length_append,List.length_singleton] at all
      rw [new]
      omega

/-- Where a key is repeated, the table is shorter than the entries that it is made from. -/
theorem length_ofEntries_lt {entries : List (κ × α)} (repeated : ¬ Distinct entries) :
    (ofEntries entries).length < entries.length := by
  have shorter := length_putAll_lt List.Pairwise.nil repeated
  rwa [List.length_nil,Nat.zero_add] at shorter

end Table

end Fuzzing

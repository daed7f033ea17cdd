import Fuzzing.Proofs.Bytes
import Fuzzing.Proofs.Mutator.Guarded
import Fuzzing.Proofs.Quantity
import Fuzzing.Proofs.Randomness

/-!
Flips as masks, and damage to a whole buffer. Every flip inverts the bits of a mask that its draws decide, whatever the
buffer holds, and so all flips together invert those of one mask (`follows_xored`); the same draws lead back from the
result to the buffer (`guarded_xored`). Damage cuts a buffer off, puts garbage in somewhere, or flips some of its bits
(`follows_corruptWhole`). The first two always change the buffer. Flips may cancel each other out, but an odd number of
them does not (`Damage.Fits.shape`).
-/
namespace Fuzzing.Mutation

open Fuzzing.Action (Follows Yields)
open Fuzzing.Bytes (Flipped bitMask byteMask combined)

variable {ρ σ δ : Type} {sound : σ → Prop} {data : Bytes}

theorem yields_byteAt {data : Bytes} {pos : Nat} (inside : pos < data.length) :
    Yields sound (byteAt data pos : Action ρ σ UInt8) fun b => data[pos]? = some b :=
  Draw.yields_member .growing inside

theorem yields_setAt {data : Bytes} {pos value : Nat} (inside : pos < data.length) (small : value < 256) :
    Yields sound (setAt data pos value : Action ρ σ Bytes) fun out => out = data.set pos (UInt8.ofNat value) := by
  refine (Draw.yields_asByte small).bind ?_
  rintro _ rfl
  exact (yields_byteAt inside).bind fun _ _ => .pure rfl

/-- The buffer with the bits of a mask inverted in one byte. -/
private def inverted (data : Bytes) (pos mask : Nat) : Bytes := data.modify pos fun b => b ^^^ UInt8.ofNat mask

@[simp] private theorem length_inverted (data : Bytes) (pos mask : Nat) : (inverted data pos mask).length = data.length := by
  simp [inverted]

private theorem xor_lt_byte (b : UInt8) {mask : Nat} (small : mask < 256) : b.toNat ^^^ mask < 256 :=
  Nat.xor_lt_two_pow (n := 8) b.toNat_lt small

private theorem set_xor_eq_inverted {data : Bytes} {pos mask : Nat} {b : UInt8} (there : data[pos]? = some b) :
    data.set pos (UInt8.ofNat (b.toNat ^^^ mask)) = inverted data pos mask := by
  rw [inverted,List.modify_eq_set,there,Option.getD_some,UInt8.ofNat_xor,UInt8.ofNat_toNat]

private theorem yields_flipAt {data : Bytes} {pos mask : Nat} (inside : pos < data.length) (small : mask < 256) :
    Yields sound (flipAt data pos mask : Action ρ σ Bytes) fun out => out = inverted data pos mask := by
  refine (yields_byteAt inside).bind fun b there => ?_
  refine (yields_setAt inside (xor_lt_byte b small)).mono ?_
  rintro _ rfl
  exact set_xor_eq_inverted there

private theorem flipAt_eq_pure {data : Bytes} {pos mask : Nat} (inside : pos < data.length) (small : mask < 256) :
    (flipAt data pos mask : Action ρ σ Bytes) = pure (inverted data pos mask) :=
  Action.eq_pure_of_yields fun _ => yields_flipAt inside small

private theorem mask_lt_byte {bit : Nat} (small : bit < 8) : 2 ^ bit < 256 :=
  Nat.pow_lt_pow_right (by decide : 1 < 2) small

private theorem inverted_eq_xored (data : Bytes) (pos mask : Nat) :
    inverted data pos mask = data.xored (Bytes.marked data.length pos (UInt8.ofNat mask)) := by
  have long := Bytes.length_marked data.length pos (UInt8.ofNat mask)
  refine List.ext_getElem (by rw [length_inverted,Bytes.length_xored long]) fun i _ _ => ?_
  simp only [inverted,Bytes.xored,Bytes.marked,List.getElem_modify,List.getElem_zipWith,List.getElem_set,
    List.getElem_replicate]
  split
  · rfl
  · rw [UInt8.xor_zero]

section

variable [Source ρ σ]

/-- The byte and the place in it of a bit to flip. -/
def drawBit (length : Nat) : Action ρ σ (Nat × Nat) := do
  let pos ← Draw.numberBelow length
  let bit ← Draw.numberBelow 8
  pure (← Draw.index pos,← Draw.index bit)

/-- All bits that are flipped in a buffer of some length. -/
def drawBits (length : Nat) : Action ρ σ (List (Nat × Nat)) := Draw.several (min mostFlips (length * 8)) (drawBit length)

/-- All bytes that are flipped in a buffer of some length. -/
def drawPlaces (length : Nat) : Action ρ σ (List Nat) := Draw.several (min mostFlips length) (Draw.below length)

section

variable {length : Nat} (answers : Answering ρ sound) (some : 0 < length) (whole : data.length = length)

include answers some whole

private theorem follows_flipBit :
    Follows sound (drawBit length : Action ρ σ (Nat × Nat)) (fun place => place.1 < length ∧ place.2 < 8) (flipBit data)
      fun place => data.xored (bitMask length place) := by
  subst whole
  refine Follows.bind (Draw.yields_numberBelow answers some) ?_
  rintro _ ⟨pos,rfl,inside⟩
  refine Follows.bind (Draw.yields_numberBelow answers (by decide)) ?_
  rintro _ ⟨bit,rfl,small⟩
  simp only [Draw.index_whole,pure_bind,Int.toNat_natCast]
  rw [flipAt_eq_pure inside (mask_lt_byte small)]
  exact .pure ⟨inside,small⟩ (inverted_eq_xored data pos _)

private theorem follows_flipByte :
    Follows sound (Draw.below length : Action ρ σ Nat) (fun pos => pos < length) (flipByte data)
      fun pos => data.xored (byteMask length pos) := by
  subst whole
  have same : (Draw.below data.length : Action ρ σ Nat) = Draw.below data.length >>= pure := (bind_pure _).symm
  rw [same]
  refine Follows.bind (Draw.yields_below answers some) fun pos inside => ?_
  rw [flipAt_eq_pure inside (by decide)]
  exact .pure inside (inverted_eq_xored data pos _)

omit some in
/-- Steps that invert bits, whatever the others are, together invert those of all their masks in one. -/
theorem follows_xored {most : Int} (least : 1 ≤ most) {draw : Action ρ σ δ} {allowed : δ → Prop}
    {step : Bytes → Action ρ σ Bytes} {mask : δ → Bytes} (long : ∀ d, (mask d).length = length)
    (follows : ∀ now : Bytes, now.length = length → Follows sound draw allowed (step now) fun d => now.xored (mask d)) :
    Follows sound (Draw.several most draw) (fun ds => (1 ≤ ds.length ∧ ds.length ≤ most) ∧ ∀ d ∈ ds, allowed d)
      (Draw.between 1 most >>= fun count => Draw.times count step data)
      fun ds => data.xored (combined length (ds.map mask)) := by
  have keeps : ∀ (d : δ) (now : Bytes), allowed d → now.length = length → (now.xored (mask d)).length = length := by
    intro d now _ same
    rw [Bytes.length_xored ((long d).trans same.symm),same]
  have folded := Follows.several answers least follows keeps whole
  simpa only [Bytes.foldl_xored long _ whole] using folded

private theorem follows_bitFlips :
    Follows sound (drawBits length : Action ρ σ (List (Nat × Nat)))
      (fun places => 1 ≤ places.length ∧ places.length ≤ min 5 (8 * length) ∧
        ∀ place ∈ places, place.1 < length ∧ place.2 < 8)
      (bitFlips data) fun places => data.xored (combined length (places.map (bitMask length))) := by
  have least : 1 ≤ min (mostFlips : Int) (length * 8) := by
    simp only [mostFlips]
    omega
  rw [bitFlips,whole]
  refine (follows_xored answers whole least (Bytes.length_bitMask length) fun now => follows_flipBit answers some).mono ?_
  rintro places ⟨⟨one,most⟩,inside⟩
  simp only [mostFlips] at most
  exact ⟨one,by omega,inside⟩

private theorem follows_byteFlips :
    Follows sound (drawPlaces length : Action ρ σ (List Nat))
      (fun places => 1 ≤ places.length ∧ places.length ≤ min 5 length ∧ ∀ pos ∈ places, pos < length)
      (byteFlips data) fun places => data.xored (combined length (places.map (byteMask length))) := by
  have least : 1 ≤ min (mostFlips : Int) length := by
    simp only [mostFlips]
    omega
  rw [byteFlips,whole]
  refine (follows_xored answers whole least (Bytes.length_byteMask length) fun now => follows_flipByte answers some).mono ?_
  rintro places ⟨⟨one,most⟩,inside⟩
  simp only [mostFlips] at most
  exact ⟨one,by omega,inside⟩

end

theorem yields_bitFlips (answers : Answering ρ sound) (nonempty : 0 < data.length) :
    Yields sound (bitFlips data : Action ρ σ Bytes) fun out => out.length = data.length := by
  refine (follows_bitFlips answers nonempty rfl).yields.mono ?_
  rintro _ ⟨places,-,rfl⟩
  exact Bytes.length_xored (Bytes.length_combined (Bytes.length_bitMask data.length) places)

theorem yields_byteFlips (answers : Answering ρ sound) (nonempty : 0 < data.length) :
    Yields sound (byteFlips data : Action ρ σ Bytes) fun out => out.length = data.length := by
  refine (follows_byteFlips answers nonempty rfl).yields.mono ?_
  rintro _ ⟨places,-,rfl⟩
  exact Bytes.length_xored (Bytes.length_combined (Bytes.length_byteMask data.length) places)

/-- A mutator that inverts the bits of a mask, which its draws alone decide, gives the buffer back when the same is drawn for
    the result. -/
theorem guarded_xored (answers : Answering ρ sound) (nonempty : data ≠ []) {draws : Action ρ σ δ} {allowed : δ → Prop}
    {mutation : Bytes → Action ρ σ Bytes} {mask : δ → Bytes} (long : ∀ d, (mask d).length = data.length)
    (follows : ∀ now : Bytes, now.length = data.length →
      Follows sound draws allowed (mutation now) fun d => now.xored (mask d))
    (name : String) {s : σ} (good : sound s) :
    ∃ d s', sound s' ∧ draws s = ⟨.ok d,s',[]⟩ ∧ allowed d ∧
      guarded name mutation data s = ⟨.ok (data.xored (mask d)),s',[]⟩ ∧
      ∀ r r', sound r → draws r = ⟨.ok d,r',[]⟩ →
        guarded name mutation (data.xored (mask d)) r = ⟨.ok data,r',[]⟩ := by
  obtain ⟨d,s',drawn,good',fits,made⟩ := follows data rfl s good
  refine ⟨d,s',good',drawn,fits,guarded_apply_ok (answers.present s good) nonempty name made,?_⟩
  intro r r' fine again
  have kept := Bytes.length_xored (long d)
  obtain ⟨-,-,back⟩ := (follows (data.xored (mask d)) kept).apply fine again
  rw [Bytes.xored_xored (long d)] at back
  have there : data.xored (mask d) ≠ [] := by
    rw [← List.length_pos_iff,kept,List.length_pos_iff]
    exact nonempty
  exact guarded_apply_ok (answers.present r fine) there name back

/-- On a buffer that is not empty, flips of bits invert the mask of all bits that are drawn, and flips of bytes complement
    those that are drawn an odd number of times. From every state that the same is drawn from, the result becomes the
    buffer again. -/
theorem flips_masked [Quantity ρ] (answers : Answering ρ sound) (nonempty : data ≠ []) {s : σ} (good : sound s) :
    (∃ places s', sound s' ∧
      (drawBits data.length : Action ρ σ (List (Nat × Nat))) s = ⟨.ok places,s',[]⟩ ∧
      1 ≤ places.length ∧ places.length ≤ min 5 (8 * data.length) ∧
      (∀ place ∈ places, place.1 < data.length ∧ place.2 < 8) ∧
      ∃ out, (Builtin.bitFlip : Builtin ρ).mutate data s = ⟨.ok out,s',[]⟩ ∧ Bytes.Flipped places data out ∧
        ∀ r r', sound r → (drawBits out.length : Action ρ σ (List (Nat × Nat))) r = ⟨.ok places,r',[]⟩ →
          (Builtin.bitFlip : Builtin ρ).mutate out r = ⟨.ok data,r',[]⟩) ∧
    (∃ places s', sound s' ∧
      (drawPlaces data.length : Action ρ σ (List Nat)) s = ⟨.ok places,s',[]⟩ ∧
      1 ≤ places.length ∧ places.length ≤ min 5 data.length ∧ (∀ pos ∈ places, pos < data.length) ∧
      ∃ out, (Builtin.byteFlip : Builtin ρ).mutate data s = ⟨.ok out,s',[]⟩ ∧ Bytes.Complemented places data out ∧
        ∀ r r', sound r → (drawPlaces out.length : Action ρ σ (List Nat)) r = ⟨.ok places,r',[]⟩ →
          (Builtin.byteFlip : Builtin ρ).mutate out r = ⟨.ok data,r',[]⟩) := by
  have positive : 0 < data.length := List.length_pos_iff.mpr nonempty
  constructor
  · obtain ⟨places,s',good',drawn,⟨least,most,inside⟩,made,back⟩ := guarded_xored answers nonempty
      (Bytes.length_combined (Bytes.length_bitMask data.length)) (fun now => follows_bitFlips answers positive)
      (Builtin.bitFlip : Builtin ρ).name good
    have flipped := Bytes.flipped_xored inside
    refine ⟨places,s',good',drawn,least,most,inside,_,made,flipped,fun r r' fine again => back r r' fine ?_⟩
    rwa [flipped.length] at again
  · obtain ⟨places,s',good',drawn,⟨least,most,inside⟩,made,back⟩ := guarded_xored answers nonempty
      (Bytes.length_combined (Bytes.length_byteMask data.length)) (fun now => follows_byteFlips answers positive)
      (Builtin.byteFlip : Builtin ρ).name good
    have complemented := Bytes.complemented_xored inside
    refine ⟨places,s',good',drawn,least,most,inside,_,made,complemented,fun r r' fine again => back r r' fine ?_⟩
    rwa [complemented.length] at again

/-- Of five flips two meet in one bit, and so three bits change. -/
theorem flips_masked_meeting :
    ([7,0] : Bytes) ≠ [] ∧
    drawBits ([7,0] : Bytes).length (⟨4⟩ : Cycling) =
      (⟨.ok [(1,6),(1,0),(1,2),(1,4),(1,6)],⟨15⟩,[]⟩ : Trace Rat Cycling (List (Nat × Nat))) ∧
    (Builtin.bitFlip : Builtin Rat).mutate [7,0] (⟨4⟩ : Cycling) = ⟨.ok [7,21],⟨15⟩,[]⟩ ∧
    Bytes.Flipped [(1,6),(1,0),(1,2),(1,4),(1,6)] [7,0] [7,21] ∧
    (Builtin.bitFlip : Builtin Rat).mutate [7,21] (⟨4⟩ : Cycling) = ⟨.ok [7,0],⟨15⟩,[]⟩ ∧
    drawPlaces ([7,0] : Bytes).length (⟨4⟩ : Cycling) = (⟨.ok [1],⟨6⟩,[]⟩ : Trace Rat Cycling (List Nat)) ∧
    (Builtin.byteFlip : Builtin Rat).mutate [7,0] (⟨4⟩ : Cycling) = ⟨.ok [7,255],⟨6⟩,[]⟩ ∧
    Bytes.Complemented [1] [7,0] [7,255] ∧
    (Builtin.byteFlip : Builtin Rat).mutate [7,255] (⟨4⟩ : Cycling) = ⟨.ok [7,0],⟨6⟩,[]⟩ := by
  have answers : Answering Rat fun _ : Cycling => True := Cycling.supplying.toAnswering
  have nonempty : ([7,0] : Bytes) ≠ [] := List.cons_ne_nil _ _
  have bits : drawBits ([7,0] : Bytes).length (⟨4⟩ : Cycling) =
    (⟨.ok [(1,6),(1,0),(1,2),(1,4),(1,6)],⟨15⟩,[]⟩ : Trace Rat Cycling (List (Nat × Nat))) := rfl
  have flipped : (Builtin.bitFlip : Builtin Rat).mutate [7,0] (⟨4⟩ : Cycling) = ⟨.ok [7,21],⟨15⟩,[]⟩ := rfl
  have places : drawPlaces ([7,0] : Bytes).length (⟨4⟩ : Cycling) =
    (⟨.ok [1],⟨6⟩,[]⟩ : Trace Rat Cycling (List Nat)) := rfl
  have complemented : (Builtin.byteFlip : Builtin Rat).mutate [7,0] (⟨4⟩ : Cycling) = ⟨.ok [7,255],⟨6⟩,[]⟩ := rfl
  obtain ⟨⟨_,_,-,bits',-,-,-,_,flipped',inBits,backBits⟩,_,_,-,places',-,-,-,_,complemented',inBytes,backBytes⟩ :=
    flips_masked answers nonempty (s := ⟨4⟩) trivial
  rw [bits] at bits'
  cases bits'
  rw [flipped] at flipped'
  cases flipped'
  rw [places] at places'
  cases places'
  rw [complemented] at complemented'
  cases complemented'
  exact ⟨nonempty,bits,flipped,inBits,backBits _ _ trivial bits,places,complemented,inBytes,backBytes _ _ trivial places⟩

end

variable {length : Nat}

/-- Damage to a buffer, as it is drawn. -/
inductive Damage where
  | truncated (size : Nat)
  | spliced (pos : Nat) (garbage : Bytes)
  | flipped (places : List (Nat × Nat))
  deriving DecidableEq, Repr

namespace Damage

/-- Damage that can be drawn for a buffer of some length. -/
def Fits (length : Nat) : Damage → Prop
  | truncated size => size < length
  | spliced pos garbage => pos ≤ length ∧ 1 ≤ garbage.length ∧ garbage.length ≤ 5
  | flipped places => 1 ≤ places.length ∧ places.length ≤ 4 ∧ ∀ place ∈ places, place.1 < length ∧ place.2 < 8

def applied (data : Bytes) : Damage → Bytes
  | truncated size => data.take size
  | spliced pos garbage => data.inserted pos garbage
  | flipped places => data.xored (combined data.length (places.map (bitMask data.length)))

/-- What damage leaves of a buffer, by its shape. -/
def Shape (data out : Bytes) : Damage → Prop
  | truncated size => out = data.take size ∧ out ≠ data
  | spliced pos garbage => out = data.take pos ++ garbage ++ data.drop pos ∧ out ≠ data
  | flipped places => Flipped places data out

variable {damage : Damage}

theorem Fits.shape (fits : damage.Fits data.length) : damage.Shape data (damage.applied data) := by
  cases damage with
  | truncated size =>
    refine ⟨rfl,fun same => ?_⟩
    have short : size < data.length := fits
    have kept := congrArg List.length same
    rw [applied,List.length_take] at kept
    omega
  | spliced pos garbage =>
    obtain ⟨inside,some,-⟩ := fits
    refine ⟨rfl,fun same => ?_⟩
    have kept := congrArg List.length same
    rw [applied,Bytes.length_inserted inside] at kept
    omega
  | flipped places => exact Bytes.flipped_xored fits.2.2

/-- Nothing but garbage makes a buffer longer. -/
theorem Fits.length_applied_le (fits : damage.Fits data.length) :
    (damage.applied data).length ≤ data.length + mostSpliced := by
  cases damage with
  | truncated size =>
    rw [applied,List.length_take]
    omega
  | spliced pos garbage =>
    obtain ⟨inside,-,few⟩ := fits
    rw [applied,Bytes.length_inserted inside,mostSpliced]
    omega
  | flipped places =>
    rw [applied,Bytes.length_xored (Bytes.length_combined (Bytes.length_bitMask data.length) places)]
    omega

end Damage

variable [Source ρ σ]

def drawDamage (length : Nat) : Action ρ σ Damage := do
  match ← Draw.choose Corruption.all with
  | .truncate => Damage.truncated <$> Draw.below length
  | .splice => do
    let pos ← Draw.between 0 length
    let count ← Draw.between 1 mostSpliced
    Damage.spliced pos <$> Draw.eachByte count
  | .flip => Damage.flipped <$> Draw.several mostCorruptFlips (drawBit length)

/-- The byte is read between the two draws, and written back behind them. -/
private theorem follows_corruptBit (answers : Answering ρ sound) (some : 0 < length) (whole : data.length = length) :
    Follows sound (drawBit length : Action ρ σ (Nat × Nat)) (fun place => place.1 < length ∧ place.2 < 8) (corruptBit data)
      fun place => data.xored (bitMask length place) := by
  subst whole
  simp only [corruptBit,Draw.below,bind_assoc]
  refine Follows.bind (Draw.yields_numberBelow answers some) ?_
  rintro _ ⟨pos,rfl,inside⟩
  have read : (byteAt data pos : Action ρ σ UInt8) = pure data[pos] := by
    rw [byteAt,Draw.member,List.getElem?_eq_getElem inside]
  simp only [Draw.index_whole,pure_bind,Int.toNat_natCast,read]
  refine Follows.bind (Draw.yields_numberBelow answers (by decide)) ?_
  rintro _ ⟨bit,rfl,small⟩
  have written : (setAt data pos (data[pos].toNat ^^^ 2 ^ bit) : Action ρ σ Bytes) = pure (inverted data pos (2 ^ bit)) := by
    refine Action.eq_pure_of_yields fun _ => (yields_setAt inside (xor_lt_byte _ (mask_lt_byte small))).mono ?_
    rintro _ rfl
    exact set_xor_eq_inverted (List.getElem?_eq_getElem inside)
  simp only [Draw.index_whole,pure_bind,Int.toNat_natCast,written]
  exact .pure ⟨inside,small⟩ (inverted_eq_xored data pos _)

theorem follows_corruptWhole (answers : Answering ρ sound) (some : 0 < data.length) :
    Follows sound (drawDamage data.length : Action ρ σ Damage) (Damage.Fits data.length) (corruptWhole data)
      (Damage.applied data) := by
  refine Follows.bind (Draw.yields_choose answers (by decide)) fun kind _ => ?_
  cases kind with
  | truncate =>
    rw [map_eq_pure_bind]
    exact Follows.bind (Draw.yields_below answers some) fun size short => .pure short rfl
  | splice =>
    simp only [Draw.between,bind_assoc,map_eq_pure_bind]
    refine Follows.bind (Draw.yields_number answers (by omega)) ?_
    rintro _ ⟨pos,rfl,-,inside⟩
    simp only [Draw.index_whole,Draw.bound_whole,pure_bind,Int.toNat_natCast]
    refine Follows.bind (Draw.yields_number answers (by decide)) ?_
    rintro _ ⟨count,rfl,least,most⟩
    simp only [Draw.index_whole,pure_bind,Int.toNat_natCast]
    refine Follows.bind (Draw.yields_eachByte answers count) fun garbage full => ?_
    simp only [mostSpliced] at most
    exact .pure ⟨by omega,by omega,by omega⟩ rfl
  | flip =>
    have least : 1 ≤ (mostCorruptFlips : Int) := by decide
    refine Follows.map (follows_xored answers rfl least (Bytes.length_bitMask data.length)
      fun now => follows_corruptBit answers some) _ ?_ fun _ _ => rfl
    rintro places ⟨⟨least,most⟩,inside⟩
    simp only [mostCorruptFlips] at most
    exact ⟨least,by omega,inside⟩

theorem yields_corruptWhole (answers : Answering ρ sound) (some : 0 < data.length) :
    Yields sound (corruptWhole data : Action ρ σ Bytes) fun out =>
      ∃ damage : Damage, damage.Fits data.length ∧ out = damage.applied data :=
  (follows_corruptWhole answers some).yields

variable [Quantity ρ] {edits : List SerializedEdit} {s : σ}

private theorem follows_editSerialized (answers : Answering ρ sound) (some : 0 < data.length) (any : edits ≠ [])
    (only : ∀ edit ∈ edits, edit = .corruptWhole) (maxGrowth : Document ρ) :
    Follows sound (Draw.choose edits >>= fun _ => drawDamage data.length : Action ρ σ Damage) (Damage.Fits data.length)
      (editSerialized edits maxGrowth data) (Damage.applied data) := by
  refine Follows.bind (Draw.yields_choose answers any) fun edit listed => ?_
  rw [only edit listed]
  exact follows_corruptWhole answers some

/-- Deliberate damage to a buffer that is not empty leaves only a part of its front, or all of it with one to five bytes put
    in, or as many bytes with the bits of one to four masks inverted, by what is drawn. So does a mutator of serialized data
    that has no other edit. -/
theorem damage_shaped (answers : Answering ρ sound) (nonempty : data ≠ []) (edits : List SerializedEdit)
    (maxGrowth : Document ρ) (good : sound s) :
    (∃ damage s', sound s' ∧ (drawDamage data.length : Action ρ σ Damage) s = ⟨.ok damage,s',[]⟩ ∧
      damage.Fits data.length ∧
      ∃ out, (Builtin.serialized edits maxGrowth).corrupt data s = ⟨.ok out,s',[]⟩ ∧ damage.Shape data out) ∧
    (edits ≠ [] → (∀ edit ∈ edits, edit = .corruptWhole) →
      ∃ damage s', sound s' ∧
        (Draw.choose edits >>= fun _ => drawDamage data.length : Action ρ σ Damage) s = ⟨.ok damage,s',[]⟩ ∧
        damage.Fits data.length ∧
        ∃ out, (Builtin.serialized edits maxGrowth).mutate data s = ⟨.ok out,s',[]⟩ ∧ damage.Shape data out) := by
  have some : 0 < data.length := List.length_pos_iff.mpr nonempty
  have present := answers.present s good
  constructor
  · obtain ⟨damage,s',drawn,good',fits,made⟩ := follows_corruptWhole answers some s good
    exact ⟨damage,s',good',drawn,fits,_,guarded_apply_ok present nonempty _ made,fits.shape⟩
  · intro any only
    obtain ⟨damage,s',drawn,good',fits,made⟩ := follows_editSerialized answers some any only maxGrowth s good
    exact ⟨damage,s',good',drawn,fits,_,guarded_apply_ok present nonempty _ made,fits.shape⟩

/-- Two bytes are cut off at once, garbage comes to stand behind them, and three flips change the second one. -/
theorem damage_shaped_each :
    ([7,9] : Bytes) ≠ [] ∧
    (Builtin.serialized [.corruptWhole] (.whole 1) : Builtin Rat).corrupt [7,9] (⟨3⟩ : Cycling) = ⟨.ok [],⟨5⟩,[]⟩ ∧
    (Damage.truncated 0).Shape [7,9] [] ∧
    (Builtin.serialized [.corruptWhole] (.whole 1) : Builtin Rat).corrupt [7,9] (⟨1⟩ : Cycling) =
      ⟨.ok [7,9,4,5,6,7],⟨8⟩,[]⟩ ∧
    (Damage.spliced 2 [4,5,6,7]).Shape [7,9] [7,9,4,5,6,7] ∧
    ([.corruptWhole] : List SerializedEdit) ≠ [] ∧ (∀ edit ∈ [SerializedEdit.corruptWhole], edit = .corruptWhole) ∧
    (Builtin.serialized [.corruptWhole] (.whole 1) : Builtin Rat).mutate [7,9] (⟨4⟩ : Cycling) =
      ⟨.ok [7,28],⟨13⟩,[]⟩ ∧
    (Damage.flipped [(1,0),(1,2),(1,4)]).Shape [7,9] [7,28] := by
  have answers : Answering Rat fun _ : Cycling => True := Cycling.supplying.toAnswering
  have nonempty : ([7,9] : Bytes) ≠ [] := List.cons_ne_nil _ _
  have any : ([.corruptWhole] : List SerializedEdit) ≠ [] := List.cons_ne_nil _ _
  have only : ∀ edit ∈ [SerializedEdit.corruptWhole], edit = .corruptWhole := by decide
  have cut : (drawDamage ([7,9] : Bytes).length : Action Rat Cycling Damage) ⟨3⟩ = ⟨.ok (.truncated 0),⟨5⟩,[]⟩ := rfl
  have emptied : (Builtin.serialized [.corruptWhole] (.whole 1) : Builtin Rat).corrupt [7,9] (⟨3⟩ : Cycling) =
    ⟨.ok [],⟨5⟩,[]⟩ := rfl
  have put : (drawDamage ([7,9] : Bytes).length : Action Rat Cycling Damage) ⟨1⟩ =
    ⟨.ok (.spliced 2 [4,5,6,7]),⟨8⟩,[]⟩ := rfl
  have longer : (Builtin.serialized [.corruptWhole] (.whole 1) : Builtin Rat).corrupt [7,9] (⟨1⟩ : Cycling) =
    ⟨.ok [7,9,4,5,6,7],⟨8⟩,[]⟩ := rfl
  have marked : (Draw.choose [SerializedEdit.corruptWhole] >>= fun _ => drawDamage ([7,9] : Bytes).length :
    Action Rat Cycling Damage) ⟨4⟩ = ⟨.ok (.flipped [(1,0),(1,2),(1,4)]),⟨13⟩,[]⟩ := rfl
  have inverted : (Builtin.serialized [.corruptWhole] (.whole 1) : Builtin Rat).mutate [7,9] (⟨4⟩ : Cycling) =
    ⟨.ok [7,28],⟨13⟩,[]⟩ := rfl
  obtain ⟨⟨_,_,-,cut',-,_,emptied',first⟩,-⟩ :=
    damage_shaped answers nonempty [.corruptWhole] (.whole 1) (s := ⟨3⟩) trivial
  obtain ⟨⟨_,_,-,put',-,_,longer',second⟩,-⟩ :=
    damage_shaped answers nonempty [.corruptWhole] (.whole 1) (s := ⟨1⟩) trivial
  obtain ⟨_,_,-,marked',-,_,inverted',third⟩ :=
    (damage_shaped answers nonempty [.corruptWhole] (.whole 1) (s := ⟨4⟩) trivial).2 any only
  rw [cut] at cut'
  cases cut'
  rw [emptied] at emptied'
  cases emptied'
  rw [put] at put'
  cases put'
  rw [longer] at longer'
  cases longer'
  rw [marked] at marked'
  cases marked'
  rw [inverted] at inverted'
  cases inverted'
  exact ⟨nonempty,emptied,first,longer,second,any,only,inverted,third⟩

end Fuzzing.Mutation

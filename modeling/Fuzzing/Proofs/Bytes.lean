import Mathlib.Algebra.BigOperators.Group.Finset.Piecewise
import Mathlib.Algebra.Order.BigOperators.Group.Finset
import Mathlib.Data.List.Basic
import Mathlib.Data.List.GetD
import Mathlib.Data.List.ProdSigma
import Fuzzing.Bytes

/-!
Changes to byte strings. Writes that stay in a window keep all that lies outside of it (`SameOutside`), and so many
single bytes as are written, so many positions change at most (`Touched.length_changes_le`). A buffer may be seen as what
lies before a run, the run, and what lies behind it; what is done to the run leaves the other parts. Masks that each mark
one byte may meet, and then cancel out: of all that they mark, the combined mask marks what is marked an odd number of
times (`bit_combined`, `getD_combined`).
-/
namespace Fuzzing.Bytes

/-- Where a value is written its bytes are read. -/
theorem getElem?_overwritten {data value : Bytes} {pos i : Nat} (inside : pos ≤ data.length) (less : i < value.length) :
    (data.overwritten pos value)[pos + i]? = value[i]? := by
  have front : (data.take pos).length = pos := List.length_take_of_le inside
  rw [overwritten,replaced,List.append_assoc,List.getElem?_append_right (by omega),front,Nat.add_sub_cancel_left,
    List.getElem?_append_left less]

/-- Byte strings of one length with the same bytes before and behind a window. -/
structure SameOutside (pos size : Nat) (data out : Bytes) : Prop where
  length : out.length = data.length
  same : ∀ i, i < pos ∨ pos + size ≤ i → out[i]? = data[i]?

namespace SameOutside

variable {pos size : Nat} {data mid out : Bytes}

theorem refl (pos size : Nat) (data : Bytes) : SameOutside pos size data data := ⟨rfl,fun _ _ => rfl⟩

theorem trans (first : SameOutside pos size data mid) (second : SameOutside pos size mid out) :
    SameOutside pos size data out :=
  ⟨second.length.trans first.length,fun i outside => (second.same i outside).trans (first.same i outside)⟩

theorem mono {start count : Nat} (begins : start ≤ pos) (ends : pos + size ≤ start + count)
    (same : SameOutside pos size data out) : SameOutside start count data out :=
  ⟨same.length,fun i outside => same.same i (by omega)⟩

theorem set {i : Nat} (begins : pos ≤ i) (ends : i < pos + size) (b : UInt8) :
    SameOutside pos size data (data.set i b) where
  length := List.length_set
  same j outside := List.getElem?_set_ne (by omega)

theorem overwritten {value : Bytes} (fits : pos + value.length ≤ data.length) :
    SameOutside pos value.length data (data.overwritten pos value) where
  length := length_overwritten fits
  same i outside := by
    have front : (data.take pos).length = pos := List.length_take_of_le (by omega)
    rw [Bytes.overwritten,replaced]
    rcases outside with before | behind
    · rw [List.append_assoc,List.getElem?_append_left (by omega),List.getElem?_take_of_lt before]
    · rw [List.getElem?_append_right (by rw [List.length_append]; omega),List.getElem?_drop,List.length_append,front]
      congr 1
      omega

/-- What lies before the window is read as ever. -/
theorem slice_eq {start count : Nat} (before : start + count ≤ pos) (same : SameOutside pos size data out) :
    out.slice start count = data.slice start count := by
  apply List.ext_getElem?
  intro i
  rw [slice,slice]
  by_cases inside : i < count
  · rw [List.getElem?_take_of_lt inside,List.getElem?_take_of_lt inside,List.getElem?_drop,List.getElem?_drop]
    exact same.same _ (.inl (by omega))
  · rw [List.getElem?_take_eq_none (by omega),List.getElem?_take_eq_none (by omega)]

/-- Where all changes lie behind a position, the byte there stands as ever. -/
theorem getElem?_eq {i : Nat} (before : i < pos) (same : SameOutside pos size data out) : out[i]? = data[i]? :=
  same.same i (.inl before)

end SameOutside

/-- What is left of a byte string over which a value is written from a position on, as far as it fits. -/
structure Stamped (data : Bytes) (pos : Nat) (value out : Bytes) : Prop where
  outside : SameOutside pos (min value.length (data.length - pos)) data out
  inside : out.slice pos (min value.length (data.length - pos)) = value.take (min value.length (data.length - pos))

private theorem slice_overwritten {data value : Bytes} {pos : Nat} (inside : pos ≤ data.length) :
    (data.overwritten pos value).slice pos value.length = value := by
  have front : (data.take pos).length = pos := List.length_take_of_le inside
  rw [slice,overwritten,replaced,List.append_assoc,List.drop_left' front,List.take_left]

theorem stamped_stamped {data : Bytes} {pos : Nat} (inside : pos ≤ data.length) (value : Bytes) :
    Stamped data pos value (data.stamped pos value) := by
  have fits : (value.take (min value.length (data.length - pos))).length = min value.length (data.length - pos) := by
    simp
  have written : (data.stamped pos value).slice pos (value.take (min value.length (data.length - pos))).length =
      value.take (min value.length (data.length - pos)) := slice_overwritten inside
  have kept : SameOutside pos (value.take (min value.length (data.length - pos))).length data (data.stamped pos value) :=
    .overwritten (by omega)
  rw [fits] at written kept
  exact ⟨kept,written⟩

/-- The positions of a byte string at which another one differs from it. -/
def changes (data out : Bytes) : List Nat := (List.range data.length).filter fun i => out[i]? != data[i]?

private theorem mem_changes {data out : Bytes} {i : Nat} : i ∈ data.changes out ↔ i < data.length ∧ out[i]? ≠ data[i]? := by
  simp [changes]

private theorem changes_self (data : Bytes) : data.changes data = [] := by
  simp [changes]

private theorem changes_set_subset (data out : Bytes) (i : Nat) (b : UInt8) :
    data.changes (out.set i b) ⊆ i :: data.changes out := by
  intro j changed
  rw [mem_changes] at changed
  by_cases here : j = i
  · simp [here]
  · rw [List.getElem?_set_ne (Ne.symm here)] at changed
    exact List.mem_cons_of_mem i (mem_changes.mpr changed)

/-- What is left of a byte string after so many bytes of a window are overwritten, one after another. -/
inductive Touched (pos size : Nat) (data : Bytes) : Nat → Bytes → Prop where
  | none : Touched pos size data 0 data
  | set {count i : Nat} {out : Bytes} (before : Touched pos size data count out) (begins : pos ≤ i) (ends : i < pos + size)
      (b : UInt8) : Touched pos size data (count + 1) (out.set i b)

namespace Touched

variable {pos size count : Nat} {data out : Bytes}

theorem sameOutside (touched : Touched pos size data count out) : SameOutside pos size data out := by
  induction touched with
  | none => exact .refl pos size data
  | set _ begins ends b ih => exact ih.trans (.set begins ends b)

/-- No more positions change than are written to. -/
theorem length_changes_le (touched : Touched pos size data count out) : (data.changes out).length ≤ count := by
  induction touched with
  | none => simp [changes_self]
  | @set count i out _ _ _ b ih =>
    have distinct : (data.changes (out.set i b)).Nodup := List.nodup_range.filter _
    have fewer := List.Nodup.length_le_of_subset distinct (changes_set_subset data out i b)
    rw [List.length_cons] at fewer
    omega

theorem mem_changes (touched : Touched pos size data count out) : ∀ i ∈ data.changes out, pos ≤ i ∧ i < pos + size := by
  intro i changed
  by_contra outside
  exact (Bytes.mem_changes.mp changed).2 (touched.sameOutside.same i (by omega))

end Touched

/-- A byte string with the bytes at two positions exchanged, which may be one position. -/
structure Transposed (data : Bytes) (i j : Nat) (out : Bytes) : Prop where
  length : out.length = data.length
  first : out[i]? = data[j]?
  second : out[j]? = data[i]?
  others : ∀ k, k ≠ i → k ≠ j → out[k]? = data[k]?

theorem transposed_set_set {data : Bytes} {i j : Nat} {x y : UInt8} (first : data[i]? = some x) (second : data[j]? = some y) :
    Transposed data i j ((data.set i y).set j x) := by
  have inside := (List.getElem?_eq_some_iff.mp first).1
  have beside := (List.getElem?_eq_some_iff.mp second).1
  refine ⟨by simp,?_,?_,fun k other another => ?_⟩
  · by_cases same : i = j
    · subst same
      rw [List.getElem?_set_self (by simpa using inside),first]
    · rw [List.getElem?_set_ne (Ne.symm same),List.getElem?_set_self inside,second]
  · rw [List.getElem?_set_self (by simpa using beside),first]
  · rw [List.getElem?_set_ne (Ne.symm another),List.getElem?_set_ne (Ne.symm other)]

theorem Transposed.sameOutside {data out : Bytes} {i j pos size : Nat} (exchanged : Transposed data i j out)
    (first : pos ≤ i ∧ i < pos + size) (second : pos ≤ j ∧ j < pos + size) : SameOutside pos size data out :=
  ⟨exchanged.length,fun k outside => exchanged.others k (by omega) (by omega)⟩

variable {data : Bytes} {pos size : Nat}

private theorem exists_parts (fits : pos + size ≤ data.length) :
    ∃ front run back : Bytes, data = front ++ run ++ back ∧ front.length = pos ∧ run.length = size := by
  refine ⟨data.take pos,data.slice pos size,data.drop (pos + size),?_,List.length_take_of_le (by omega),length_slice fits⟩
  rw [slice,← List.take_add,List.take_append_drop]

private theorem removed_append (front run back : Bytes) : (front ++ run ++ back).removed front.length run.length = front ++ back := by
  rw [removed,replaced,List.append_nil,← List.length_append,List.drop_left,List.append_assoc,List.take_left]

theorem removed_inserted (inside : pos ≤ data.length) (run : Bytes) :
    (data.inserted pos run).removed pos run.length = data := by
  have undone := removed_append (data.take pos) run (data.drop pos)
  rwa [List.length_take_of_le inside,List.take_append_drop] at undone

private theorem reversedAt_append (front run back : Bytes) :
    (front ++ run ++ back).reversedAt front.length run.length = front ++ run.reverse ++ back := by
  have middle : (front ++ run ++ back).slice front.length run.length = run := by
    rw [slice,List.append_assoc,List.drop_left,List.take_left]
  rw [reversedAt,middle,replaced,← List.length_append,List.drop_left,List.append_assoc front run back,List.take_left]

theorem reversedAt_reversedAt (fits : pos + size ≤ data.length) : (data.reversedAt pos size).reversedAt pos size = data := by
  obtain ⟨front,run,back,rfl,rfl,rfl⟩ := exists_parts fits
  have again := reversedAt_append front run.reverse back
  rwa [List.length_reverse,List.reverse_reverse,← reversedAt_append] at again

theorem perm_reversedAt (fits : pos + size ≤ data.length) : (data.reversedAt pos size).Perm data := by
  obtain ⟨front,run,back,rfl,rfl,rfl⟩ := exists_parts fits
  rw [reversedAt_append]
  exact ((List.reverse_perm run).append_left front).append_right back

theorem sameOutside_reversedAt (fits : pos + size ≤ data.length) : SameOutside pos size data (data.reversedAt pos size) := by
  have long : (data.slice pos size).reverse.length = size := by rw [List.length_reverse,length_slice fits]
  have written : SameOutside pos (data.slice pos size).reverse.length data
      (data.overwritten pos (data.slice pos size).reverse) := .overwritten (by omega)
  rwa [overwritten,long] at written

variable {mask : Bytes} {length : Nat}

/-- What stands in a list an odd number of times is no more than the list is long, and less by an even number. -/
private theorem length_filter_odd {α : Type} [equal : BEq α] [LawfulBEq α] {all drawn : List α} (distinct : all.Nodup)
    (within : ∀ x ∈ drawn, x ∈ all) :
    (all.filter fun x => drawn.count x % 2 = 1).length ≤ drawn.length ∧
    (all.filter fun x => drawn.count x % 2 = 1).length % 2 = drawn.length % 2 := by
  classical
  obtain rfl : equal = instBEqOfDecidableEq := lawful_beq_subsingleton _ _
  have whole : ∑ x ∈ all.toFinset, drawn.count x = drawn.length := by
    have counted := Multiset.sum_count_eq_card (s := all.toFinset) (m := drawn) fun x mem =>
      List.mem_toFinset.mpr (within x mem)
    simpa only [Multiset.coe_count,Multiset.coe_card] using counted
  have odd : (all.filter fun x => drawn.count x % 2 = 1).length = ∑ x ∈ all.toFinset, drawn.count x % 2 := by
    rw [← List.toFinset_card_of_nodup (distinct.filter _),List.toFinset_filter,Finset.card_filter]
    refine Finset.sum_congr rfl fun x _ => ?_
    rcases Nat.mod_two_eq_zero_or_one (drawn.count x) with even | odd
    · rw [even]
      rfl
    · rw [odd]
      rfl
  constructor
  · rw [odd,← whole]
    exact Finset.sum_le_sum fun x _ => Nat.mod_le _ 2
  · rw [odd,← whole,← Finset.sum_nat_mod]

/-- A byte string with the bits of a mask inverted. -/
def xored (data mask : Bytes) : Bytes := List.zipWith (· ^^^ ·) data mask

/-- The mask of some bits in one byte. -/
def marked (length pos : Nat) (bits : UInt8) : Bytes := (List.replicate length 0).set pos bits

/-- The mask of one bit, by its byte and its place there. -/
def bitMask (length : Nat) (place : Nat × Nat) : Bytes := marked length place.1 (UInt8.ofNat (2 ^ place.2))

/-- The mask of one byte. -/
def byteMask (length pos : Nat) : Bytes := marked length pos 0xFF

/-- All of some masks in one. -/
def combined (length : Nat) (masks : List Bytes) : Bytes := masks.foldr xored (List.replicate length 0)

theorem length_marked (length pos : Nat) (bits : UInt8) : (marked length pos bits).length = length := by
  rw [marked,List.length_set,List.length_replicate]

theorem length_bitMask (length : Nat) (place : Nat × Nat) : (bitMask length place).length = length := length_marked ..

theorem length_byteMask (length pos : Nat) : (byteMask length pos).length = length := length_marked ..

private theorem combined_cons (length : Nat) (mask : Bytes) (rest : List Bytes) :
    combined length (mask :: rest) = mask.xored (combined length rest) := rfl

theorem length_xored (long : mask.length = data.length) : (data.xored mask).length = data.length := by
  rw [xored,List.length_zipWith,long,Nat.min_self]

theorem length_combined {δ : Type} {mask : δ → Bytes} (long : ∀ d, (mask d).length = length) (ds : List δ) :
    (combined length (ds.map mask)).length = length := by
  induction ds with
  | nil => exact List.length_replicate
  | cons d rest ih => exact (length_xored (ih.trans (long d).symm)).trans (long d)

private theorem xored_assoc (data mask other : Bytes) : (data.xored mask).xored other = data.xored (mask.xored other) := by
  refine List.ext_getElem (by simp only [xored,List.length_zipWith,Nat.min_assoc]) fun i _ _ => ?_
  simp only [xored,List.getElem_zipWith,UInt8.xor_assoc]

/-- To invert the same bits again undoes it. -/
theorem xored_xored (long : mask.length = data.length) : (data.xored mask).xored mask = data := by
  refine List.ext_getElem (by rw [xored_assoc]; simp [xored,long]) fun i _ _ => ?_
  simp only [xored,List.getElem_zipWith,UInt8.xor_assoc,UInt8.xor_self,UInt8.xor_zero]

private theorem xored_zero (data : Bytes) : data.xored (List.replicate data.length 0) = data := by
  refine List.ext_getElem (by simp [xored]) fun i _ _ => ?_
  simp only [xored,List.getElem_zipWith,List.getElem_replicate,UInt8.xor_zero]

/-- To invert the bits of masks one after another is to invert those of all masks in one. -/
theorem foldl_xored {δ : Type} {mask : δ → Bytes} (long : ∀ d, (mask d).length = length) (ds : List δ)
    (whole : data.length = length) :
    ds.foldl (fun now d => now.xored (mask d)) data = data.xored (combined length (ds.map mask)) := by
  induction ds generalizing data with
  | nil =>
    rw [← whole]
    exact (xored_zero data).symm
  | cons d rest ih =>
    have kept : (data.xored (mask d)).length = length := by rw [length_xored ((long d).trans whole.symm),whole]
    rw [List.foldl_cons,ih kept,xored_assoc,List.map_cons,combined_cons]

/-- One bit of the byte at a position, if there is one. -/
def bit (data : Bytes) (pos j : Nat) : Bool := (data.getD pos 0).toNat.testBit j

/-- The positions of bits at which a byte string differs from another one. -/
def bitChanges (data out : Bytes) : List (Nat × Nat) :=
  (List.range data.length ×ˢ List.range 8).filter fun place => out.bit place.1 place.2 != data.bit place.1 place.2

private theorem getD_xored (long : mask.length = data.length) (i : Nat) :
    (data.xored mask).getD i 0 = data.getD i 0 ^^^ mask.getD i 0 := by
  have kept := length_xored long
  by_cases inside : i < data.length
  · rw [List.getD_eq_getElem _ _ (by omega),List.getD_eq_getElem _ _ inside,List.getD_eq_getElem _ _ (by omega)]
    exact List.getElem_zipWith
  · rw [List.getD_eq_default _ _ (by omega),List.getD_eq_default _ _ (by omega),List.getD_eq_default _ _ (by omega)]
    rfl

private theorem bit_xored (long : mask.length = data.length) (i j : Nat) :
    (data.xored mask).bit i j = (data.bit i j ^^ mask.bit i j) := by
  rw [bit,getD_xored long,UInt8.toNat_xor,Nat.testBit_xor]
  rfl

private theorem changes_xored (long : mask.length = data.length) :
    data.changes (data.xored mask) = (List.range data.length).filter fun i => mask.getD i 0 != 0 := by
  refine List.filter_congr fun i listed => ?_
  have inside : i < data.length := List.mem_range.mp listed
  have there : i < mask.length := by omega
  have kept : i < (data.xored mask).length := by rw [length_xored long]; exact inside
  have read : (data.xored mask)[i] = data[i] ^^^ mask[i] := List.getElem_zipWith
  rw [List.getElem?_eq_getElem kept,List.getElem?_eq_getElem inside,List.getD_eq_getElem _ _ there,read]
  by_cases none : mask[i] = 0
  · simp [none]
  · have changed : data[i] ^^^ mask[i] ≠ data[i] := fun same =>
      none ((UInt8.xor_right_inj _).mp (same.trans UInt8.xor_zero.symm))
    rw [bne_iff_ne.mpr none,bne_iff_ne]
    exact fun same => changed (Option.some.inj same)

private theorem bitChanges_xored (long : mask.length = data.length) :
    data.bitChanges (data.xored mask) =
      (List.range data.length ×ˢ List.range 8).filter fun place => mask.bit place.1 place.2 := by
  refine List.filter_congr fun place _ => ?_
  rw [bit_xored long]
  cases data.bit place.1 place.2 <;> cases mask.bit place.1 place.2 <;> rfl

private theorem bitChanges_self (data : Bytes) : data.bitChanges data = [] := by
  simp [bitChanges]

private theorem getD_marked {pos : Nat} (inside : pos < length) (bits : UInt8) (i : Nat) :
    (marked length pos bits).getD i 0 = if pos = i then bits else 0 := by
  by_cases there : i < length
  · rw [List.getD_eq_getElem _ _ (by rwa [length_marked])]
    simp only [marked,List.getElem_set,List.getElem_replicate]
  · rw [List.getD_eq_default _ _ (by rw [length_marked]; omega),if_neg (by omega)]

private theorem bit_bitMask {place : Nat × Nat} (inside : place.1 < length) (small : place.2 < 8) (i j : Nat) :
    (bitMask length place).bit i j = decide (place = (i,j)) := by
  obtain ⟨pos,b⟩ := place
  have power : (UInt8.ofNat (2 ^ b)).toNat = 2 ^ b := by
    refine UInt8.toNat_ofNat_of_lt' ?_
    exact Nat.pow_lt_pow_right (by decide : 1 < 2) small
  rw [bit,bitMask,getD_marked inside]
  by_cases here : pos = i
  · rw [if_pos here,power,Nat.testBit_two_pow]
    simp [here]
  · rw [if_neg here]
    simp [here]

private theorem getD_zero (length i : Nat) : (List.replicate length 0 : Bytes).getD i 0 = 0 := by
  rw [List.getD_eq_getElem?_getD,List.getElem?_getD_replicate_default_eq]

/-- Of single bits, all the masks in one mark those that an odd number of them mark. -/
theorem bit_combined {places : List (Nat × Nat)} (inside : ∀ place ∈ places, place.1 < length ∧ place.2 < 8) (i j : Nat) :
    (combined length (places.map (bitMask length))).bit i j = decide (places.count (i,j) % 2 = 1) := by
  induction places with
  | nil =>
    rw [List.map_nil,combined,List.foldr_nil,bit,getD_zero]
    simp
  | cons place rest ih =>
    obtain ⟨⟨first,small⟩,later⟩ := List.forall_mem_cons.mp inside
    have long := length_combined (length_bitMask length) rest
    rw [List.map_cons,combined_cons,bit_xored (long.trans (length_bitMask length place).symm),bit_bitMask first small,
      ih later,List.count_cons]
    by_cases here : place = (i,j)
    · have same : (place == (i,j)) = true := beq_iff_eq.mpr here
      rw [if_pos same,decide_eq_true here,Bool.true_xor,← decide_not]
      exact decide_eq_decide.mpr (by omega)
    · have other : ¬ (place == (i,j)) = true := fun same => here (beq_iff_eq.mp same)
      rw [if_neg other,decide_eq_false here,Bool.false_xor,Nat.add_zero]

/-- Of whole bytes, all the masks in one mark those that an odd number of them mark. -/
theorem getD_combined {places : List Nat} (inside : ∀ pos ∈ places, pos < length) (i : Nat) :
    (combined length (places.map (byteMask length))).getD i 0 = if places.count i % 2 = 1 then 0xFF else 0 := by
  induction places with
  | nil => exact getD_zero length i
  | cons pos rest ih =>
    obtain ⟨first,later⟩ := List.forall_mem_cons.mp inside
    have long := length_combined (length_byteMask length) rest
    rw [List.map_cons,combined_cons,getD_xored (long.trans (length_byteMask length pos).symm),byteMask,getD_marked first,
      ih later,List.count_cons]
    by_cases here : pos = i
    · have same : (pos == i) = true := beq_iff_eq.mpr here
      rw [if_pos here,if_pos same]
      rcases Nat.mod_two_eq_zero_or_one (rest.count i) with even | odd
      · rw [if_neg (by omega),if_pos (by omega)]
        rfl
      · rw [if_pos odd,if_neg (by omega)]
        rfl
    · have other : ¬ (pos == i) = true := fun same => here (beq_iff_eq.mp same)
      rw [if_neg here,if_neg other,Nat.add_zero,UInt8.zero_xor]

/-- A byte string with the bits of some masks of one bit each inverted. -/
structure Flipped (places : List (Nat × Nat)) (data out : Bytes) : Prop where
  masked : out = data.xored (combined data.length (places.map (bitMask data.length)))
  length : out.length = data.length
  changed : ∀ i j, (i,j) ∈ data.bitChanges out ↔ i < data.length ∧ j < 8 ∧ places.count (i,j) % 2 = 1
  few : (data.bitChanges out).length ≤ places.length
  parity : (data.bitChanges out).length % 2 = places.length % 2
  odd : places.length % 2 = 1 → out ≠ data

/-- A byte string with some bytes complemented, each as often as its position is given. -/
structure Complemented (places : List Nat) (data out : Bytes) : Prop where
  masked : out = data.xored (combined data.length (places.map (byteMask data.length)))
  length : out.length = data.length
  each : ∀ i (inside : i < data.length),
    out[i]? = some (if places.count i % 2 = 1 then ~~~data[i] else data[i])
  changed : ∀ i, i ∈ data.changes out ↔ i < data.length ∧ places.count i % 2 = 1
  few : (data.changes out).length ≤ places.length
  parity : (data.changes out).length % 2 = places.length % 2

theorem flipped_xored {places : List (Nat × Nat)} (inside : ∀ place ∈ places, place.1 < data.length ∧ place.2 < 8) :
    Flipped places data (data.xored (combined data.length (places.map (bitMask data.length)))) := by
  have long := length_combined (length_bitMask data.length) places
  have changes : data.bitChanges (data.xored (combined data.length (places.map (bitMask data.length)))) =
      (List.range data.length ×ˢ List.range 8).filter fun place => places.count place % 2 = 1 := by
    rw [bitChanges_xored long]
    exact List.filter_congr fun place _ => bit_combined inside place.1 place.2
  have listed : ∀ i j, (i,j) ∈ List.range data.length ×ˢ List.range 8 ↔ i < data.length ∧ j < 8 := by
    intro i j
    exact List.pair_mem_product.trans (and_congr List.mem_range List.mem_range)
  obtain ⟨few,parity⟩ := length_filter_odd (List.nodup_range.product List.nodup_range) fun place mem =>
    (listed place.1 place.2).mpr (inside place mem)
  rw [← changes] at few parity
  refine ⟨rfl,length_xored long,fun i j => ?_,few,parity,fun odd same => ?_⟩
  · rw [changes,List.mem_filter,listed,decide_eq_true_iff,and_assoc]
  · rw [same,bitChanges_self,odd] at parity
    exact absurd parity (by decide)

theorem complemented_xored {places : List Nat} (inside : ∀ pos ∈ places, pos < data.length) :
    Complemented places data (data.xored (combined data.length (places.map (byteMask data.length)))) := by
  have long := length_combined (length_byteMask data.length) places
  have changes : data.changes (data.xored (combined data.length (places.map (byteMask data.length)))) =
      (List.range data.length).filter fun i => places.count i % 2 = 1 := by
    rw [changes_xored long]
    refine List.filter_congr fun i _ => ?_
    rw [getD_combined inside]
    by_cases odd : places.count i % 2 = 1
    · rw [if_pos odd,decide_eq_true odd]
      rfl
    · rw [if_neg odd,decide_eq_false odd]
      rfl
  obtain ⟨few,parity⟩ := length_filter_odd List.nodup_range fun pos mem => List.mem_range.mpr (inside pos mem)
  rw [← changes] at few parity
  refine ⟨rfl,length_xored long,fun i within => ?_,fun i => ?_,few,parity⟩
  · have kept : i < (data.xored (combined data.length (places.map (byteMask data.length)))).length := by
      rwa [length_xored long]
    have read := getD_xored long i
    rw [List.getD_eq_getElem _ _ kept,List.getD_eq_getElem _ _ within,getD_combined inside] at read
    rw [List.getElem?_eq_getElem kept,read]
    split
    · exact congrArg some UInt8.xor_neg_one
    · exact congrArg some UInt8.xor_zero
  · rw [changes,List.mem_filter,List.mem_range,decide_eq_true_iff]

end Fuzzing.Bytes

import Mathlib.Tactic.Tauto
import Fuzzing.Proofs.CompactInt.Encoding

/-!
Which field a search finds: none where the buffer has no field that is sought, and otherwise the one that comes first in
cyclic order from the start, wherever among the integers the start lies (`first_field_found`). A search from the offset
of a field finds that field, so none is out of reach.
-/
namespace Fuzzing.CompactInt

variable {α : Type} {at? : Nat → Bytes → Option α}

/-- The answer at an offset of a buffer. -/
def atOffset (at? : Nat → Bytes → Option α) (data : Bytes) (offset : Nat) : Option α := at? offset (data.drop offset)

private theorem firstFrom_cases (at? : Nat → Bytes → Option α) (offset : Nat) (data : Bytes) :
    (firstFrom at? offset data = none ∧ ∀ i < data.length, at? (offset + i) (data.drop i) = none) ∨
      ∃ x, firstFrom at? offset data = some x ∧ ∃ i < data.length, at? (offset + i) (data.drop i) = some x ∧
        ∀ k < i, at? (offset + k) (data.drop k) = none := by
  induction data generalizing offset with
  | nil => exact .inl ⟨rfl,by simp⟩
  | cons b rest ih =>
    have shifted (i : Nat) :
        at? (offset + (i + 1)) ((b :: rest).drop (i + 1)) = at? (offset + 1 + i) (rest.drop i) := by
      rw [List.drop_succ_cons,show offset + (i + 1) = offset + 1 + i by omega]
    rw [firstFrom]
    split
    next x here => exact .inr ⟨x,rfl,0,by simp,here,by simp⟩
    next here =>
      rcases ih (offset + 1) with ⟨nothing,all⟩ | ⟨x,found,i,inside,there,before⟩
      · refine .inl ⟨nothing,fun i inside => ?_⟩
        cases i with
        | zero => exact here
        | succ i => exact (shifted i).trans (all i (by simpa using inside))
      · refine .inr ⟨x,found,i + 1,by simpa using inside,(shifted i).trans there,fun k less => ?_⟩
        cases k with
        | zero => exact here
        | succ k => exact (shifted k).trans (before k (by omega))

private theorem firstFrom_drop_cases (at? : Nat → Bytes → Option α) (data : Bytes) (start : Nat) :
    (firstFrom at? start (data.drop start) = none ∧
        ∀ i, start + i < data.length → atOffset at? data (start + i) = none) ∨
      ∃ x, firstFrom at? start (data.drop start) = some x ∧ ∃ i, start + i < data.length ∧
        atOffset at? data (start + i) = some x ∧ ∀ k < i, atOffset at? data (start + k) = none := by
  have answer (i : Nat) : at? (start + i) ((data.drop start).drop i) = atOffset at? data (start + i) := by
    rw [List.drop_drop,atOffset]
  rcases firstFrom_cases at? start (data.drop start) with ⟨nothing,all⟩ | ⟨x,found,i,inside,there,before⟩
  · rw [List.length_drop] at all
    exact .inl ⟨nothing,fun i inside => (answer i).symm.trans (all i (by omega))⟩
  · rw [List.length_drop] at inside
    exact .inr ⟨x,found,i,by omega,(answer i).symm.trans there,fun k less => (answer k).symm.trans (before k less)⟩

/-- A search in cyclic order finds the answer at the first offset that has one, or no offset has one. -/
theorem firstCyclic_cases (at? : Nat → Bytes → Option α) {data : Bytes} {start : Nat} (inside : start < data.length) :
    (firstCyclic at? data start = none ∧ ∀ j, atOffset at? data ((start + j) % data.length) = none) ∨
      ∃ x, firstCyclic at? data start = some x ∧ ∃ j < data.length,
        atOffset at? data ((start + j) % data.length) = some x ∧
        ∀ k < j, atOffset at? data ((start + k) % data.length) = none := by
  have ahead {j : Nat} (less : start + j < data.length) : (start + j) % data.length = start + j := Nat.mod_eq_of_lt less
  have wrapped {j : Nat} (more : data.length ≤ start + j) (less : start + j - data.length < data.length) :
      (start + j) % data.length = start + j - data.length := by
    rw [Nat.mod_eq_sub_mod more,Nat.mod_eq_of_lt less]
  have fromFront := firstFrom_drop_cases at? data 0
  simp only [List.drop_zero,Nat.zero_add] at fromFront
  rw [firstCyclic]
  rcases firstFrom_drop_cases at? data start with ⟨nothing,behind⟩ | ⟨x,found,i,within,there,before⟩
  · rw [nothing]
    rcases fromFront with ⟨nothing,all⟩ | ⟨x,found,i,within,there,before⟩
    · exact .inl ⟨nothing,fun j => all _ (Nat.mod_lt _ (by omega))⟩
    · -- What lies behind the start has no answer, so the first one is in front of it.
      have front : i < start := by
        refine Nat.lt_of_not_le fun late => ?_
        have none := behind (i - start) (by omega)
        rw [show start + (i - start) = i by omega,there] at none
        cases none
      refine .inr ⟨x,found,data.length - start + i,by omega,?_,fun k less => ?_⟩
      · rw [wrapped (by omega) (by omega),show start + (data.length - start + i) - data.length = i by omega,there]
      · by_cases near : start + k < data.length
        · rw [ahead near,behind k near]
        · rw [wrapped (by omega) (by omega),before _ (by omega)]
  · rw [found]
    refine .inr ⟨x,rfl,i,by omega,by rw [ahead within,there],fun k less => ?_⟩
    rw [ahead (by omega),before k less]

private theorem at?_of_firstFrom {data : Bytes} {start : Nat} {x : α} (found : firstFrom at? start (data.drop start) = some x) :
    ∃ i, i < data.length ∧ at? i (data.drop i) = some x := by
  rcases firstFrom_drop_cases at? data start with ⟨nothing,-⟩ | ⟨y,first,i,within,there,-⟩
  · rw [nothing] at found
    cases found
  · obtain rfl : y = x := Option.some.inj (first.symm.trans found)
    exact ⟨start + i,within,there⟩

theorem at?_of_firstCyclic {data : Bytes} {start : Nat} {x : α} (found : firstCyclic at? data start = some x) :
    ∃ i, i < data.length ∧ at? i (data.drop i) = some x := by
  unfold firstCyclic at found
  split at found
  next y behind =>
    cases found
    exact at?_of_firstFrom behind
  next => exact at?_of_firstFrom found

/-- A field of a buffer: the length that is read at its offset, and a payload that lies in the buffer. -/
structure Field.In (data : Bytes) (f : Field) : Prop where
  reads : read? data f.offset = some (f.length,f.header)
  fits : f.payload + f.length ≤ data.length

private theorem in_of_fieldAt? {data : Bytes} {needsPayload : Bool} {offset : Nat} {f : Field}
    (found : fieldAt? data.length needsPayload offset (data.drop offset) = some f) :
    f.In data ∧ (needsPayload = true → 0 < f.length) := by
  unfold fieldAt? at found
  split at found
  · cases found
  · rename_i length header read
    split at found
    · cases found
    · rename_i wanted
      split at found
      · rename_i fits
        obtain rfl : ⟨offset,header,length⟩ = f := Option.some.inj found
        refine ⟨⟨by rw [read?_natCast,read],fits⟩,fun needs => Nat.pos_of_ne_zero fun zero => wanted ?_⟩
        simp only at zero
        simp [needs,zero]
      · cases found

theorem in_of_findField? {data : Bytes} {start : Int} {needsPayload : Bool} {f : Field}
    (found : findField? data start needsPayload = some f) :
    f.In data ∧ (needsPayload = true → 0 < f.length) := by
  obtain ⟨offset,_,there⟩ := at?_of_firstCyclic found
  exact in_of_fieldAt? there

variable {data : Bytes} {start : Int} {needsPayload : Bool} {f g : Field}

/-- A field of a buffer, with a payload where one is needed. -/
structure Field.Sought (data : Bytes) (needsPayload : Bool) (f : Field) : Prop extends f.In data where
  payload : needsPayload = true → 0 < f.length

private theorem Field.Sought.eq_of_offset_eq (first : f.Sought data needsPayload) (second : g.Sought data needsPayload)
    (same : f.offset = g.offset) : f = g := by
  have reads := first.reads
  rw [same,second.reads] at reads
  cases f
  cases g
  simp_all

theorem Field.Sought.offset_lt (sought : f.Sought data needsPayload) : f.offset < data.length := by
  have size := (size_of_read? sought.reads).1
  have fits := sought.fits
  simp only [Field.payload] at fits
  omega

private theorem atOffset_fieldAt?_eq_some_iff {offset : Nat} :
    atOffset (fieldAt? data.length needsPayload) data offset = some f ↔
      f.offset = offset ∧ f.Sought data needsPayload := by
  constructor
  · intro found
    obtain ⟨lies,wanted⟩ := in_of_fieldAt? found
    refine ⟨?_,{ lies with payload := wanted }⟩
    unfold atOffset fieldAt? at found
    grind
  · rintro ⟨rfl,sought⟩
    have reads := sought.reads
    rw [read?_natCast] at reads
    have wanted : ¬ (needsPayload && f.length == 0) = true := by
      intro empty
      simp only [Bool.and_eq_true,beq_iff_eq] at empty
      exact Nat.ne_of_gt (sought.payload empty.1) empty.2
    have fits : f.offset + f.header + f.length ≤ data.length := sought.fits
    simp only [atOffset,fieldAt?,reads]
    rw [if_neg wanted,if_pos fits]

private theorem atOffset_fieldAt?_eq_none_iff {offset : Nat} :
    atOffset (fieldAt? data.length needsPayload) data offset = none ↔
      ∀ f : Field, f.Sought data needsPayload → f.offset ≠ offset := by
  rw [Option.eq_none_iff_forall_ne_some]
  exact forall_congr' fun f => by rw [Ne,atOffset_fieldAt?_eq_some_iff]; tauto

/-- A field that is sought and comes before every other one in cyclic order from a start. -/
structure Field.First (data : Bytes) (start : Int) (needsPayload : Bool) (f : Field) : Prop
    extends f.Sought data needsPayload where
  leads : ∃ j : Nat, j < data.length ∧ (f.offset : Int) = (start + j) % data.length ∧
    ∀ i : Nat, i < j → ∀ g : Field, g.Sought data needsPayload → (g.offset : Int) ≠ (start + i) % data.length

private theorem Field.First.eq (first : f.First data start needsPayload) (second : g.First data start needsPayload) :
    f = g := by
  obtain ⟨j,-,atJ,beforeJ⟩ := first.leads
  obtain ⟨k,-,atK,beforeK⟩ := second.leads
  rcases Nat.lt_trichotomy j k with less | rfl | more
  · exact absurd atJ (beforeK j less f first.toSought)
  · exact first.eq_of_offset_eq second.toSought (Int.ofNat_inj.mp (atJ.trans atK.symm))
  · exact absurd atK (beforeJ k more g second.toSought)

private theorem Field.Sought.first (sought : f.Sought data needsPayload) : f.First data f.offset needsPayload where
  toSought := sought
  leads := by
    have inside := sought.offset_lt
    refine ⟨0,by omega,?_,fun i none => absurd none (Nat.not_lt_zero i)⟩
    rw [Int.natCast_zero,Int.add_zero,Int.emod_eq_of_lt (by omega) (by omega)]

private theorem cast_toNat_emod_add_mod (start : Int) {size : Nat} (inhabited : 0 < size) (j : Nat) :
    ((((start % size).toNat + j) % size : Nat) : Int) = (start + j) % size := by
  rw [Int.natCast_emod,Int.natCast_add,Int.toNat_of_nonneg (Int.emod_nonneg _ (by omega)),Int.emod_add_emod]

private theorem findField?_nil (start : Int) (needsPayload : Bool) : findField? [] start needsPayload = none := by
  rw [findField?,firstCyclic,List.drop_nil,firstFrom,firstFrom]

/-- A search finds no field where none is sought, and the one that comes first otherwise. -/
theorem findField?_cases (data : Bytes) (start : Int) (needsPayload : Bool) :
    (findField? data start needsPayload = none ∧ ∀ f : Field, ¬ f.Sought data needsPayload) ∨
      ∃ f : Field, findField? data start needsPayload = some f ∧ f.First data start needsPayload := by
  rcases Nat.eq_zero_or_pos data.length with empty | inhabited
  · obtain rfl := List.eq_nil_of_length_eq_zero empty
    exact .inl ⟨findField?_nil start needsPayload,fun f sought => Nat.not_lt_zero _ sought.offset_lt⟩
  · have inside : (start % data.length).toNat < data.length := by
      have less := Int.emod_lt_of_pos start (Int.natCast_pos.mpr inhabited)
      omega
    have step := cast_toNat_emod_add_mod start inhabited
    rcases firstCyclic_cases (fieldAt? data.length needsPayload) inside with
      ⟨nothing,all⟩ | ⟨f,found,j,short,there,before⟩
    · refine .inl ⟨nothing,fun f sought => ?_⟩
      -- The offset of a field would be one of those that the search has been at.
      have answer := all (data.length - (start % data.length).toNat + f.offset)
      rw [show (start % data.length).toNat + (data.length - (start % data.length).toNat + f.offset) =
        data.length + f.offset by omega,Nat.add_mod_left,Nat.mod_eq_of_lt sought.offset_lt] at answer
      exact atOffset_fieldAt?_eq_none_iff.mp answer f sought rfl
    · obtain ⟨place,sought⟩ := atOffset_fieldAt?_eq_some_iff.mp there
      refine .inr ⟨f,found,{ sought with leads := ⟨j,short,?_,fun i less g wanted same => ?_⟩ }⟩
      · rw [place,step j]
      · exact atOffset_fieldAt?_eq_none_iff.mp (before i less) g wanted (Int.ofNat_inj.mp (same.trans (step i).symm))

/-- A search of a buffer from any integer finds no field exactly where none is sought, as in the empty buffer; it finds
    a field exactly where that one is sought and comes first in cyclic order from the start; and every field that is
    sought is found from some start. -/
theorem first_field_found (data : Bytes) (start : Int) (needsPayload : Bool) :
    findField? [] start needsPayload = none ∧
    (findField? data start needsPayload = none ↔ ∀ f : Field, ¬ f.Sought data needsPayload) ∧
    (∀ f : Field, findField? data start needsPayload = some f ↔ f.First data start needsPayload) ∧
    (∀ f : Field, f.Sought data needsPayload → ∃ start : Int, findField? data start needsPayload = some f) := by
  have exactly (start : Int) (f : Field) :
      findField? data start needsPayload = some f ↔ f.First data start needsPayload := by
    rcases findField?_cases data start needsPayload with ⟨nothing,unsought⟩ | ⟨g,found,first⟩
    · rw [nothing]
      exact ⟨(nomatch ·),fun first => absurd first.toSought (unsought f)⟩
    · rw [found,Option.some.injEq]
      exact ⟨fun same => same ▸ first,first.eq⟩
  refine ⟨findField?_nil start needsPayload,⟨fun nothing => ?_,fun unsought => ?_⟩,exactly start,
    fun f sought => ⟨f.offset,(exactly f.offset f).mpr sought.first⟩⟩
  · rcases findField?_cases data start needsPayload with ⟨-,unsought⟩ | ⟨g,found,-⟩
    · exact unsought
    · rw [nothing] at found
      cases found
  · rcases findField?_cases data start needsPayload with ⟨nothing,-⟩ | ⟨g,-,first⟩
    · exact nothing
    · exact absurd first.toSought (unsought g)

/-- The end of the buffer cuts the marker at its last byte off, the payload at the byte before lies beyond the end, and
    the field at the front has none. -/
theorem first_field_found_wrapping :
    (⟨1,3,1⟩ : Field).Sought [0x00,0xFD,0x01,0x00,0x07,0xFF] true ∧
    findField? [0x00,0xFD,0x01,0x00,0x07,0xFF] (-2) true = some ⟨1,3,1⟩ ∧
    (⟨1,3,1⟩ : Field).First [0x00,0xFD,0x01,0x00,0x07,0xFF] (-2) true ∧
    ∃ start : Int, findField? [0x00,0xFD,0x01,0x00,0x07,0xFF] start true = some ⟨1,3,1⟩ :=
  have found := first_field_found [0x00,0xFD,0x01,0x00,0x07,0xFF] (-2) true
  have here : findField? [0x00,0xFD,0x01,0x00,0x07,0xFF] (-2) true = some ⟨1,3,1⟩ := by decide
  have first := (found.2.2.1 ⟨1,3,1⟩).mp here
  ⟨first.toSought,here,first,found.2.2.2 ⟨1,3,1⟩ first.toSought⟩

end Fuzzing.CompactInt

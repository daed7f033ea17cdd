import Mathlib.Tactic.SplitIfs
import Fuzzing.CompactInt

/-!
The written forms of compact integers. What `encode` writes is read back at its place whatever stands before and behind
it (`read?_append_encode`), and no encoding goes on another one (`encode_eq_of_prefix`). `Written` says which byte strings
stand for a number; exactly these are read from the head of a byte string (`Written.ofHead?_append`,
`written_of_ofHead?`), and of all forms of a number the encoding alone is the shortest (`Written.eq_encode_or_longer`).
-/
namespace Fuzzing.CompactInt

private theorem width_of_lt {first : UInt8} (small : first.toNat < leastMarker) : width first = 0 := by
  have unlisted : widths.lookup first.toNat = none := by
    rw [List.lookup_eq_none_iff]
    intro entry listed
    have least : ∀ entry ∈ widths, leastMarker ≤ entry.1 := by decide
    exact bne_iff_ne.mpr (Nat.ne_of_lt (Nat.lt_of_lt_of_le small (least entry listed)))
  rw [width,unlisted]
  rfl

private theorem ofHead?_of_lt {first : UInt8} (small : first.toNat < leastMarker) (rest : Bytes) :
    ofHead? (first :: rest) = some (first.toNat,1) := by
  simp [ofHead?,width_of_lt small]

private theorem ofHead?_marker {marker : UInt8} {size : Nat} (positive : size ≠ 0) (wide : width marker = size)
    (n : Nat) (rest : Bytes) :
    ofHead? (marker :: (toLittleEndian size n ++ rest)) = some (n % 256 ^ size,1 + size) := by
  have taken : (toLittleEndian size n ++ rest).take size = toLittleEndian size n :=
    List.take_left' (length_toLittleEndian size n)
  simp [ofHead?,wide,positive,taken,ofLittleEndian_toLittleEndian]

private theorem ofHead?_encode_append (n : Nat) (rest : Bytes) :
    ofHead? (encode n ++ rest) = some (n % 2 ^ (64 : Nat),(encode n).length) := by
  unfold encode
  split_ifs with one two four
  · have byte : (UInt8.ofNat n).toNat = n := by simp; omega
    have small : (UInt8.ofNat n).toNat < leastMarker := by rw [byte]; exact one
    rw [List.singleton_append,ofHead?_of_lt small,byte,Nat.mod_eq_of_lt (by omega)]
    rfl
  · rw [List.cons_append,ofHead?_marker (by decide : 2 ≠ 0) rfl]
    rw [Nat.mod_eq_of_lt (by omega),Nat.mod_eq_of_lt (by omega)]
    simp
  · rw [List.cons_append,ofHead?_marker (by decide : 4 ≠ 0) rfl]
    rw [Nat.mod_eq_of_lt (by omega),Nat.mod_eq_of_lt (by omega)]
    simp
  · rw [List.cons_append,ofHead?_marker (by decide : 8 ≠ 0) rfl]
    simp

/-- An encoding takes at least one byte, and at most a marker and eight bytes behind it. -/
theorem length_encode (n : Nat) : 1 ≤ (encode n).length ∧ (encode n).length ≤ 9 := by
  unfold encode
  split_ifs <;> simp

private theorem size_of_ofHead? {here : Bytes} {value size : Nat} (found : ofHead? here = some (value,size)) :
    0 < size ∧ size ≤ here.length := by
  cases here with
  | nil => simp [ofHead?] at found
  | cons first rest =>
    by_cases plain : width first = 0
    · obtain ⟨-,rfl⟩ : first.toNat = value ∧ 1 = size := by simpa [ofHead?,plain] using found
      simp
    · by_cases short : (rest.take (width first)).length < width first
      · simp only [ofHead?,plain,short,if_true,if_false] at found
        cases found
      · obtain ⟨-,rfl⟩ : ofLittleEndian (rest.take (width first)) = value ∧ 1 + width first = size := by
          simpa only [ofHead?,plain,short,if_false,Option.some.injEq,Prod.mk.injEq] using found
        simp only [List.length_take] at short
        simp only [List.length_cons]
        omega

theorem read?_natCast (data : Bytes) (offset : Nat) : read? data offset = ofHead? (data.drop offset) := by
  rw [read?,if_neg (by omega),Int.toNat_natCast]

private theorem read?_append (before here : Bytes) : read? (before ++ here) before.length = ofHead? here := by
  simp [read?_natCast]

/-- What is read at an offset has a size, and all of it lies in the buffer. -/
theorem size_of_read? {data : Bytes} {offset value size : Nat} (found : read? data offset = some (value,size)) :
    0 < size ∧ offset + size ≤ data.length := by
  rw [read?_natCast] at found
  obtain ⟨positive,fits⟩ := size_of_ofHead? found
  simp only [List.length_drop] at fits
  exact ⟨positive,by omega⟩

private theorem read?_length (data : Bytes) : read? data data.length = none := by
  simp [read?_natCast,ofHead?]

theorem read?_append_encode (before after : Bytes) (n : Nat) :
    read? (before ++ encode n ++ after) before.length = some (n % 2 ^ (64 : Nat),(encode n).length) := by
  rw [List.append_assoc,read?_append,ofHead?_encode_append]

/-- Reads one number after another from an offset on, each behind the one before: the numbers, and the offset where
    no further one is found. -/
def readAll (data : Bytes) (offset : Nat) : List Nat × Nat :=
  match found : read? data offset with
  | none => ([],offset)
  | some (value,size) =>
    have := size_of_read? found
    let (values,stop) := readAll data (offset + size)
    (value :: values,stop)
termination_by data.length - offset
decreasing_by omega

private theorem readAll_of_none {data : Bytes} {offset : Nat} (nothing : read? data offset = none) :
    readAll data offset = ([],offset) := by
  rw [readAll]
  split
  · rfl
  · rename_i found
    rw [nothing] at found
    cases found

private theorem readAll_of_some {data : Bytes} {offset value size : Nat} (there : read? data offset = some (value,size)) :
    readAll data offset = (value :: (readAll data (offset + size)).1,(readAll data (offset + size)).2) := by
  conv => lhs; rw [readAll]
  split
  · rename_i found
    rw [there] at found
    cases found
  · rename_i found
    rw [there] at found
    cases found
    rfl

/-- From any offset at which a row of encodings starts and the rest of the buffer is that row, the numbers are read
    in order up to the end of the buffer. -/
private theorem readAll_append_encodings (before : Bytes) (values : List Nat) :
    readAll (before ++ values.flatMap encode) before.length =
      (values.map (· % 2 ^ (64 : Nat)),(before ++ values.flatMap encode).length) := by
  induction values generalizing before with
  | nil => simpa using readAll_of_none (read?_length before)
  | cons n rest ih =>
    have row : before ++ (n :: rest).flatMap encode = before ++ encode n ++ rest.flatMap encode := by simp
    have there := read?_append_encode before (rest.flatMap encode) n
    have tail := ih (before ++ encode n)
    rw [List.length_append] at tail
    rw [row,readAll_of_some there,tail,List.map_cons]

/-- An encoding that goes on another one is that one: both are read alike, and so end at the same byte. -/
theorem encode_eq_of_prefix {m n : Nat} (goes : encode m <+: encode n) : encode m = encode n := by
  obtain ⟨more,whole⟩ := goes
  have short := ofHead?_encode_append m more
  have long := ofHead?_encode_append n []
  rw [List.append_nil,← whole,short] at long
  have lengths : (encode m).length = (encode m ++ more).length := (Prod.mk.inj (Option.some.inj long)).2
  have none : more = [] := by
    rw [List.length_append] at lengths
    exact List.eq_nil_of_length_eq_zero (by omega)
  rw [← whole,none,List.append_nil]

/-- Every number that is not negative has an encoding, which is read back modulo `2 ^ 64` and with its size wherever
    it stands in a buffer; a row of encodings of numbers below `2 ^ 64` is read back as those numbers, up to the end
    of the buffer; and no encoding is a proper part of another one from the front. -/
theorem encode_round_trip {ρ : Type} :
    (∀ (n : Nat) (before after : Bytes),
      (encode? n : Except (Failure ρ) Bytes) = .ok (encode n) ∧
      read? (before ++ encode n ++ after) before.length = some (n % 2 ^ (64 : Nat),(encode n).length) ∧
      (n < 2 ^ (64 : Nat) → read? (before ++ encode n ++ after) before.length = some (n,(encode n).length))) ∧
    (∀ values : List Nat, (∀ n ∈ values, n < 2 ^ (64 : Nat)) →
      readAll (values.flatMap encode) 0 = (values,(values.flatMap encode).length)) ∧
    (∀ m n : Nat, encode m <+: encode n → encode m = encode n) := by
  refine ⟨fun n before after => ⟨?_,read?_append_encode before after n,fun small => ?_⟩,fun values small => ?_,
    fun m n => encode_eq_of_prefix⟩
  · simp [encode?]
  · rw [read?_append_encode,Nat.mod_eq_of_lt small]
  · have row := readAll_append_encodings [] values
    rw [List.nil_append,List.length_nil] at row
    have same : values.map (· % 2 ^ (64 : Nat)) = values := by
      have kept : ∀ n ∈ values, n % 2 ^ (64 : Nat) = id n := fun n member => Nat.mod_eq_of_lt (small n member)
      rw [List.map_congr_left kept,List.map_id]
    rw [row,same]

/-- The row of both sides of every change of width. -/
theorem encode_round_trip_boundaries :
    (∀ n ∈ [0,0xFC,0xFD,0xFFFF,0x10000,0xFFFFFFFF,0x100000000,0xFFFFFFFFFFFFFFFF], n < 2 ^ (64 : Nat)) ∧
    0xFFFFFFFFFFFFFFFF < 2 ^ (64 : Nat) ∧ encode 7 <+: encode 7 ∧
    readAll ([0,0xFC,0xFD,0xFFFF,0x10000,0xFFFFFFFF,0x100000000,0xFFFFFFFFFFFFFFFF].flatMap encode) 0 =
      ([0,0xFC,0xFD,0xFFFF,0x10000,0xFFFFFFFF,0x100000000,0xFFFFFFFFFFFFFFFF],36) ∧
    read? ([0xFD] ++ encode 0xFFFFFFFFFFFFFFFF ++ [0xFE]) 1 = some (0xFFFFFFFFFFFFFFFF,9) ∧ encode 7 = encode 7 :=
  have bounded : ∀ n ∈ [0,0xFC,0xFD,0xFFFF,0x10000,0xFFFFFFFF,0x100000000,0xFFFFFFFFFFFFFFFF], n < 2 ^ (64 : Nat) := by decide
  have last : 0xFFFFFFFFFFFFFFFF < 2 ^ (64 : Nat) := by decide
  ⟨bounded,last,List.prefix_rfl,encode_round_trip (ρ := Nat).2.1 _ bounded,
    (encode_round_trip (ρ := Nat).1 _ [0xFD] [0xFE]).2.2 last,encode_round_trip (ρ := Nat).2.2 7 7 List.prefix_rfl⟩

private theorem ofLittleEndian_lt (digits : Bytes) : ofLittleEndian digits < 256 ^ digits.length := by
  induction digits with
  | nil => simp [ofLittleEndian]
  | cons b rest ih =>
    have byte := b.toNat_lt
    simp only [ofLittleEndian,List.length_cons,Nat.pow_succ]
    omega

private theorem toLittleEndian_ofLittleEndian (digits : Bytes) :
    toLittleEndian digits.length (ofLittleEndian digits) = digits := by
  induction digits with
  | nil => rfl
  | cons b rest ih =>
    have byte := b.toNat_lt
    have lowest : (b.toNat + 256 * ofLittleEndian rest) % 256 = b.toNat := by omega
    have others : (b.toNat + 256 * ofLittleEndian rest) / 256 = ofLittleEndian rest := by omega
    rw [List.length_cons,ofLittleEndian,toLittleEndian,lowest,others,UInt8.ofNat_toNat,ih]

/-- The forms of a number: a byte below the markers stands for itself, and behind a marker stand as many bytes as it
    announces, the lowest first. -/
inductive Written : Nat → Bytes → Prop where
  | plain {b : UInt8} (small : b.toNat < leastMarker) : Written b.toNat [b]
  | marked {marker : UInt8} {digits : Bytes} (listed : (marker.toNat,digits.length) ∈ widths) :
      Written (ofLittleEndian digits) (marker :: digits)

variable {n size : Nat} {form here : Bytes}

private theorem width_eq_of_mem {marker : UInt8} (listed : (marker.toNat,size) ∈ widths) : width marker = size := by
  simp only [widths,List.mem_cons,Prod.mk.injEq,List.not_mem_nil,or_false] at listed
  obtain ⟨same,rfl⟩ | ⟨same,rfl⟩ | ⟨same,rfl⟩ := listed <;> rw [width,same] <;> rfl

private theorem small_or_listed (first : UInt8) : first.toNat < leastMarker ∨ ∃ size, (first.toNat,size) ∈ widths := by
  by_cases small : first.toNat < leastMarker
  · exact .inl small
  · have byte := first.toNat_lt
    simp only [leastMarker] at small
    have marker : first.toNat = 0xFD ∨ first.toNat = 0xFE ∨ first.toNat = 0xFF := by omega
    rcases marker with same | same | same <;> simp [widths,same]

private theorem pos_of_mem_widths {marker : Nat} (listed : (marker,size) ∈ widths) : size ≠ 0 := by
  have announces : ∀ entry ∈ widths, entry.2 ≠ 0 := by decide
  exact announces _ listed

private theorem Written.length_mem (written : Written n form) : form.length ∈ [1,3,5,9] := by
  cases written with
  | plain small => simp
  | @marked marker digits listed =>
    have sizes : ∀ entry ∈ widths, 1 + entry.2 ∈ [1,3,5,9] := by decide
    simpa only [List.length_cons,Nat.add_comm] using sizes _ listed

private theorem Written.lt (written : Written n form) : n < 2 ^ (64 : Nat) := by
  cases written with
  | plain small =>
    simp only [leastMarker] at small
    omega
  | @marked marker digits listed =>
    have ranges : ∀ entry ∈ widths, 256 ^ entry.2 ≤ 2 ^ (64 : Nat) := by decide
    exact Nat.lt_of_lt_of_le (ofLittleEndian_lt digits) (ranges _ listed)

/-- A form is read to its end and no further, whatever follows it. -/
theorem Written.ofHead?_append (written : Written n form) (rest : Bytes) :
    ofHead? (form ++ rest) = some (n,form.length) := by
  cases written with
  | plain small => exact ofHead?_of_lt small rest
  | @marked marker digits listed =>
    have read := ofHead?_marker (pos_of_mem_widths listed) (width_eq_of_mem listed) (ofLittleEndian digits) rest
    rw [toLittleEndian_ofLittleEndian,Nat.mod_eq_of_lt (ofLittleEndian_lt digits)] at read
    rw [List.cons_append,read,List.length_cons,Nat.add_comm]

private theorem ofHead?_listed {marker : UInt8} (listed : (marker.toNat,size) ∈ widths) (rest : Bytes) :
    ofHead? (marker :: rest) = if rest.length < size then none else some (ofLittleEndian (rest.take size),1 + size) := by
  have short : (rest.take size).length < size ↔ rest.length < size := by
    rw [List.length_take]
    omega
  simp only [ofHead?,width_eq_of_mem listed,if_neg (pos_of_mem_widths listed),short]

/-- What is read from the head of a byte string is a form that stands there. -/
theorem written_of_ofHead? (found : ofHead? here = some (n,size)) : size ≤ here.length ∧ Written n (here.take size) := by
  cases here with
  | nil => simp [ofHead?] at found
  | cons first rest =>
    rcases small_or_listed first with small | ⟨width,listed⟩
    · rw [ofHead?_of_lt small] at found
      obtain ⟨rfl,rfl⟩ := Prod.mk.inj (Option.some.inj found)
      exact ⟨by simp,.plain small⟩
    · rw [ofHead?_listed listed] at found
      split at found
      · cases found
      · rename_i long
        obtain ⟨rfl,rfl⟩ := Prod.mk.inj (Option.some.inj found)
        have whole : (rest.take width).length = width := List.length_take_of_le (by omega)
        refine ⟨by rw [List.length_cons]; omega,?_⟩
        rw [Nat.add_comm,List.take_succ_cons]
        exact .marked (whole.symm ▸ listed)

/-- The first byte decides how long a number is, and whether it is there depends on how many bytes follow only. -/
private theorem ofHead?_size_eq {first : UInt8} {rest other : Bytes} (long : other.length = rest.length)
    (found : ofHead? (first :: rest) = some (n,size)) : ∃ m, ofHead? (first :: other) = some (m,size) := by
  rcases small_or_listed first with small | ⟨width,listed⟩
  · rw [ofHead?_of_lt small] at found ⊢
    exact ⟨n,found⟩
  · rw [ofHead?_listed listed] at found ⊢
    rw [long]
    split at found
    · cases found
    · rename_i whole
      obtain ⟨-,rfl⟩ := Prod.mk.inj (Option.some.inj found)
      exact ⟨_,if_neg whole⟩

theorem read?_size_eq {data out : Bytes} {offset : Nat} (long : out.length = data.length)
    (first : out[offset]? = data[offset]?) (found : read? data offset = some (n,size)) :
    ∃ m, read? out offset = some (m,size) := by
  have inside : offset < data.length := by
    have bounds := size_of_read? found
    omega
  rw [read?_natCast] at found ⊢
  rw [List.drop_eq_getElem_cons inside] at found
  rw [List.drop_eq_getElem_cons (by omega : offset < out.length)]
  rw [List.getElem?_eq_getElem inside,List.getElem?_eq_getElem (by omega),Option.some.injEq] at first
  rw [first]
  exact ofHead?_size_eq (by simp [long]) found

theorem read?_of_lt {data : Bytes} {offset : Nat} {b : UInt8} (there : data[offset]? = some b)
    (small : b.toNat < leastMarker) : read? data offset = some (b.toNat,1) := by
  obtain ⟨inside,rfl⟩ := List.getElem?_eq_some_iff.mp there
  rw [read?_natCast,List.drop_eq_getElem_cons inside,ofHead?_of_lt small]

private theorem ofHead?_eq_none_iff : ofHead? here = none ↔
    here = [] ∨ ∃ marker rest size, here = marker :: rest ∧ (marker.toNat,size) ∈ widths ∧ rest.length < size := by
  cases here with
  | nil => simp [ofHead?]
  | cons first rest =>
    rcases small_or_listed first with small | ⟨size,listed⟩
    · have unlisted (size : Nat) : ¬ (first.toNat,size) ∈ widths := fun listed =>
        pos_of_mem_widths listed ((width_eq_of_mem listed).symm.trans (width_of_lt small))
      simp [ofHead?_of_lt small,unlisted]
    · rw [ofHead?_listed listed]
      constructor
      · intro nothing
        split at nothing
        · rename_i short
          exact .inr ⟨first,rest,size,rfl,listed,short⟩
        · cases nothing
      · rintro (empty | ⟨marker,_,other,same,again,short⟩)
        · cases empty
        · obtain ⟨rfl,rfl⟩ := List.cons.inj same
          obtain rfl : other = size := (width_eq_of_mem again).symm.trans (width_eq_of_mem listed)
          rw [if_pos short]

private theorem encode_eq_or_shorter {marker : UInt8} (listed : (marker.toNat,size) ∈ widths) (fits : n < 256 ^ size) :
    encode n = marker :: toLittleEndian size n ∨ (encode n).length < 1 + size := by
  simp only [widths,List.mem_cons,Prod.mk.injEq,List.not_mem_nil,or_false] at listed
  have byte {b : UInt8} (same : marker.toNat = b.toNat) : marker = b := UInt8.toNat_inj.mp same
  unfold encode
  obtain ⟨same,rfl⟩ | ⟨same,rfl⟩ | ⟨same,rfl⟩ := listed
  · obtain rfl := byte (b := 0xFD) same
    split_ifs with one two
    · exact .inr (by simp)
    · exact .inl rfl
    all_goals omega
  · obtain rfl := byte (b := 0xFE) same
    split_ifs with one two four
    · exact .inr (by simp)
    · exact .inr (by simp)
    · exact .inl rfl
    · omega
  · obtain rfl := byte (b := 0xFF) same
    split_ifs with one two four
    · exact .inr (by simp)
    · exact .inr (by simp)
    · exact .inr (by simp)
    · exact .inl rfl

/-- A form is the encoding of its number, or longer than that. -/
theorem Written.eq_encode_or_longer (written : Written n form) : form = encode n ∨ (encode n).length < form.length := by
  cases written with
  | @plain b small =>
    left
    have alone : b.toNat < 0xFD := small
    rw [encode,if_pos alone,UInt8.ofNat_toNat]
  | @marked marker digits listed =>
    rcases encode_eq_or_shorter listed (ofLittleEndian_lt digits) with same | shorter
    · left
      rw [same,toLittleEndian_ofLittleEndian]
    · right
      rw [List.length_cons]
      omega

private theorem Written.length_encode_le (written : Written n form) : (encode n).length ≤ form.length := by
  rcases written.eq_encode_or_longer with rfl | longer
  · exact Nat.le_refl _
  · exact Nat.le_of_lt longer

private theorem Written.length_encode_eq_iff (written : Written n form) : (encode n).length = form.length ↔ form = encode n := by
  rcases written.eq_encode_or_longer with rfl | longer
  · exact iff_of_true rfl rfl
  · refine ⟨fun equal => absurd equal (Nat.ne_of_lt longer),?_⟩
    rintro rfl
    rfl

private theorem written_encode (small : n < 2 ^ (64 : Nat)) : Written n (encode n) := by
  have read := ofHead?_encode_append n []
  rw [List.append_nil,Nat.mod_eq_of_lt small] at read
  have written := (written_of_ofHead? read).2
  rwa [List.take_length] at written

/-- A marker at an offset with fewer bytes behind it than it announces. -/
def CutOff (data : Bytes) (offset : Int) : Prop :=
  ∃ marker rest size, data.drop offset.toNat = marker :: rest ∧
    (marker.toNat,size) ∈ [(0xFD,2),(0xFE,4),(0xFF,8)] ∧ rest.length < size

private theorem read?_eq_none_iff (data : Bytes) (offset : Int) :
    read? data offset = none ↔ offset < 0 ∨ data.length ≤ offset ∨ CutOff data offset := by
  rw [read?]
  split
  · simp_all
  · rename_i inside
    have behind : data.drop offset.toNat = [] ↔ (data.length : Int) ≤ offset := by
      rw [List.drop_eq_nil_iff]
      omega
    rw [ofHead?_eq_none_iff,behind,or_iff_right inside]
    rfl

/-- What is known of a number that is read at an offset: where it lies, that nothing else of the buffer counts, and that
    no form of the number is shorter than its encoding, nor as short unless it is the encoding. -/
structure Reading (data : Bytes) (offset : Int) (value size : Nat) : Prop where
  size_mem : size ∈ [1,3,5,9]
  nonneg : 0 ≤ offset
  fits : offset + size ≤ data.length
  small : value < 2 ^ (64 : Nat)
  elsewhere : ∀ (other : Bytes) (place : Nat), other.slice place size = data.slice offset.toNat size →
    read? other place = some (value,size)
  shortest : (encode value).length ≤ size
  only : (encode value).length = size ↔ data.slice offset.toNat size = encode value

private theorem written_of_read? {data : Bytes} {offset : Int} (found : read? data offset = some (n,size)) :
    0 ≤ offset ∧ offset.toNat + size ≤ data.length ∧ Written n (data.slice offset.toNat size) := by
  rw [read?] at found
  split at found
  · cases found
  · rename_i inside
    obtain ⟨fits,written⟩ := written_of_ofHead? found
    have least := written.length_mem
    rw [List.length_drop] at fits
    rw [List.length_take,List.length_drop] at least
    simp only [List.mem_cons,List.not_mem_nil,or_false] at least
    exact ⟨by omega,by omega,written⟩

theorem reading_of_read? {data : Bytes} {offset : Int} (found : read? data offset = some (n,size)) :
    Reading data offset n size := by
  obtain ⟨inside,fits,written⟩ := written_of_read? found
  have whole : (data.slice offset.toNat size).length = size := Bytes.length_slice fits
  refine ⟨whole ▸ written.length_mem,inside,by omega,written.lt,fun other place same => ?_,?_,?_⟩
  · have there := written.ofHead?_append ((other.drop place).drop size)
    rw [whole,← same] at there
    rw [read?_natCast]
    rwa [Bytes.slice,List.take_append_drop] at there
  · exact Nat.le_trans written.length_encode_le (Nat.le_of_eq whole)
  · rw [← written.length_encode_eq_iff,whole]

/-- Nothing is read exactly outside of a buffer and at a marker that its end cuts off. What is read lies in the buffer,
    fits into eight bytes and depends on its own bytes alone; these are not fewer than those of the encoding of the
    number, and are as many only if they are the encoding. So among all byte strings from which a number is read its
    encoding is the only one of the least length. -/
theorem decoding_exact :
    (∀ (data : Bytes) (offset : Int),
      read? data offset = none ↔ offset < 0 ∨ data.length ≤ offset ∨ CutOff data offset) ∧
    (∀ (data : Bytes) (offset : Int) (value size : Nat), read? data offset = some (value,size) →
      Reading data offset value size) ∧
    (∀ value < 2 ^ (64 : Nat), read? (encode value) 0 = some (value,(encode value).length) ∧
      ∀ (form : Bytes) (size : Nat), read? form 0 = some (value,size) →
        (encode value).length ≤ form.length ∧ (form.length = (encode value).length → form = encode value)) := by
  refine ⟨read?_eq_none_iff,fun data offset value size => reading_of_read?,fun value small => ⟨?_,?_⟩⟩
  · have there := (written_encode small).ofHead?_append []
    rwa [List.append_nil] at there
  · intro form size found
    have reading := reading_of_read? found
    have fits := reading.fits
    have shortest := reading.shortest
    refine ⟨by omega,fun equal => ?_⟩
    have whole : size = form.length := by omega
    have same := reading.only.mp (by omega)
    rwa [whole,Bytes.slice,Int.toNat_zero,List.drop_zero,List.take_length] at same

/-- An overlong form behind a plain byte, in front of a marker that the end cuts off. -/
theorem decoding_exact_overlong :
    read? [0x07,0xFD,0x05,0x00,0xFF,0x01] 1 = some (5,3) ∧ Reading [0x07,0xFD,0x05,0x00,0xFF,0x01] 1 5 3 ∧
    CutOff [0x07,0xFD,0x05,0x00,0xFF,0x01] 4 ∧ read? [0x07,0xFD,0x05,0x00,0xFF,0x01] 4 = none ∧
    5 < 2 ^ (64 : Nat) ∧ read? [0xFD,0x05,0x00] 0 = some (5,3) ∧ (encode 5).length ≤ [0xFD,0x05,0x00].length ∧
    (([0x05] : Bytes).length = (encode 5).length → [0x05] = encode 5) :=
  have overlong : read? [0x07,0xFD,0x05,0x00,0xFF,0x01] 1 = some (5,3) := by decide
  have alone : read? [0xFD,0x05,0x00] 0 = some (5,3) := by decide
  have cut : CutOff [0x07,0xFD,0x05,0x00,0xFF,0x01] 4 := ⟨0xFF,[0x01],8,by decide,by decide,by decide⟩
  have small : 5 < 2 ^ (64 : Nat) := by decide
  have forms := (decoding_exact.2.2 5 small).2
  ⟨overlong,decoding_exact.2.1 _ _ _ _ overlong,cut,(decoding_exact.1 _ _).mpr (.inr (.inr cut)),small,alone,
    (forms _ _ alone).1,(forms [0x05] 1 (by decide)).2⟩

end Fuzzing.CompactInt

import Fuzzing.Proofs.Mutation.Serialized

/-!
Edits of a field, one way after the other. Another length in the place of the marker leaves what stands in front of the
old header and behind it (`header_rewritten`). Damage to the payload stays in the payload, unless malformed text starts at
its last byte: then its second byte comes to stand behind it (`poisoned_sameOutside_iff`). An edit of arrays overwrites a
few bytes of the payload, or lets two of them change places (`elements_confined`). `Located` says which field is found,
and which way of editing it is drawn.
-/
namespace Fuzzing.Mutation

open Fuzzing.Action (Ensures Gives Yields)
open Fuzzing.Bytes (SameOutside Transposed)
open CompactInt (Field)

variable {ρ σ : Type} [Quantity ρ] [Source ρ σ] {sound : σ → Prop} {data out : Bytes} {needsPayload : Bool} {field : Field}
  {way pos : Nat} {s s₁ : σ}

/-- From a place that it draws, an edit of fields finds a field, and then draws a way of editing it. -/
def Located (ρ : Type) [Source ρ σ] (data : Bytes) (needsPayload : Bool) (s : σ) (field : Field) (way : Nat)
    (s' : σ) : Prop :=
  ∃ start s₁, (Draw.below data.length : Action ρ σ Nat).Returns s start s₁ ∧
    CompactInt.findField? data start needsPayload = some field ∧
    (Draw.numberBelow 3 : Action ρ σ (Amount ρ)).Returns s₁ (.whole way) s'

omit [Quantity ρ] in
private theorem Located.lies (located : Located ρ data needsPayload s field way s₁) : field.In data := by
  obtain ⟨start,s₂,-,found,-⟩ := located
  exact (CompactInt.in_of_findField? found).1

omit [Quantity ρ] in
private theorem Located.payload_pos (located : Located ρ data true s field way s₁) : 0 < field.length := by
  obtain ⟨start,s₂,-,found,-⟩ := located
  exact (CompactInt.in_of_findField? found).2 rfl

omit [Quantity ρ] in
private theorem Located.leaves_sound (answers : Answering ρ sound) (good : sound s)
    (located : Located ρ data needsPayload s field way s₁) : sound s₁ ∧ way < 3 := by
  have lies := located.lies
  obtain ⟨start,s₂,began,-,drawn⟩ := located
  have nonempty : 0 < data.length := by
    have header := (CompactInt.size_of_read? lies.reads).1
    have fits : field.offset + field.header + field.length ≤ data.length := lies.fits
    omega
  have good₂ := (start_lt answers nonempty good began).2
  exact (way_lt answers good₂ drawn).symm

private theorem Located.ensures (located : Located ρ data needsPayload s field way s₁) {other : Field → Action ρ σ Bytes}
    {post : Bytes → σ → Prop}
    (goesOn : Ensures (if way = 0 then jitterLength data field.offset field.header field.length
      else if way = 1 then corruptPayload field.payload field.length data else other field) s₁ post) :
    Ensures (editLocated needsPayload other data) s post := by
  obtain ⟨start,s₂,began,found,drawn⟩ := located
  rw [editLocated_eq]
  refine ensures_found began found drawn ?_
  have isZero : Amount.isWhole 0 (.whole way : Amount ρ) = true ↔ way = 0 := isWhole_natCast 0 way
  have isOne : Amount.isWhole 1 (.whole way : Amount ρ) = true ↔ way = 1 := isWhole_natCast 1 way
  simpa only [editField,isZero,isOne] using goesOn

omit [Quantity ρ] in
private theorem exists_located (answers : Answering ρ sound) (good : sound s) (sought : field.Sought data needsPayload) :
    ∃ (other : Field) (way : Nat) (s₁ : σ), Located ρ data needsPayload s other way s₁ := by
  obtain ⟨start,s₁,began,-,good₁⟩ := exists_start answers (Nat.zero_lt_of_lt sought.offset_lt) good
  obtain ⟨way,s₂,drawn,-⟩ := exists_way answers good₁
  rcases CompactInt.findField?_cases data start needsPayload with ⟨-,unsought⟩ | ⟨other,found,-⟩
  · exact absurd sought (unsought field)
  · exact ⟨other,way,s₂,start,s₁,began,found,drawn⟩

private theorem ensures_unlocated (answers : Answering ρ sound) (good : sound s) (nonempty : 0 < data.length)
    (unsought : ∀ field : Field, ¬ field.Sought data needsPayload) (other : Field → Action ρ σ Bytes) :
    Ensures (editLocated needsPayload other data) s fun out s' =>
      sound s' ∧ out.length = data.length ∧ (data.changes out).length ≤ 1 := by
  obtain ⟨start,s₁,began,-,good₁⟩ := exists_start answers nonempty good
  rw [editLocated_eq]
  refine ensures_overwritten answers nonempty good₁ began ?_
  rcases CompactInt.findField?_cases data start needsPayload with ⟨nothing,-⟩ | ⟨field,-,first⟩
  · exact nothing
  · exact absurd first.toSought (unsought field)

/-- A buffer with another length in the place of a marker: the number is close to the old length, and its encoding stands
    where the marker stood, with the same bytes in front of it and behind it. -/
structure Relabelled (data : Bytes) (offset header length n : Nat) (out : Bytes) : Prop where
  least : max 0 ((length : Int) - 5) ≤ n
  most : n ≤ length + 5
  whole : out = data.take offset ++ CompactInt.encode n ++ data.drop (offset + header)
  reads : length + 5 < 2 ^ (64 : Nat) → CompactInt.read? out offset = some (n,(CompactInt.encode n).length)
  behind : out.drop (offset + (CompactInt.encode n).length) = data.drop (offset + header)

private theorem relabelled {offset header length n : Nat} (inside : offset ≤ data.length) (least : length - lengthJitter ≤ n)
    (most : n ≤ length + lengthJitter) :
    Relabelled data offset header length n (data.replaced offset header (CompactInt.encode n)) := by
  have jitter : lengthJitter = 5 := rfl
  have front : (data.take offset).length = offset := List.length_take_of_le inside
  refine ⟨by omega,by omega,rfl,fun small => ?_,?_⟩
  · have read := CompactInt.read?_append_encode (data.take offset) (data.drop (offset + header)) n
    rwa [front,Nat.mod_eq_of_lt (by omega)] at read
  · rw [Bytes.replaced]
    exact List.drop_left' (by rw [List.length_append,front])

private theorem Relabelled.payload_eq {n : Nat} {out : Bytes}
    (relabelled : Relabelled data field.offset field.header field.length n out) :
    out.slice (field.offset + (CompactInt.encode n).length) field.length = data.slice field.payload field.length := by
  rw [Bytes.slice,Bytes.slice,relabelled.behind,Field.payload]

omit [Quantity ρ] in
private theorem ensures_jitterLength (answers : Answering ρ sound) (good : sound s) {offset header : Nat}
    (inside : offset + header ≤ data.length) (length : Nat) :
    Ensures (jitterLength data offset header length : Action ρ σ Bytes) s fun out s' =>
      sound s' ∧ ∃ n, Relabelled data offset header length n out := by
  refine (Ensures.of_yields (yields_jitterLength answers data offset header length) good).mono ?_
  rintro _ s' ⟨good',n,least,most,rfl⟩
  exact ⟨good',n,relabelled (by omega) least most⟩

private theorem Located.ensures_relabelled (answers : Answering ρ sound) (good : sound s)
    (located : Located ρ data needsPayload s field 0 s₁) (other : Field → Action ρ σ Bytes) :
    Ensures (editLocated needsPayload other data) s fun out s' =>
      sound s' ∧ ∃ n, Relabelled data field.offset field.header field.length n out ∧
        out.slice (field.offset + (CompactInt.encode n).length) field.length = data.slice field.payload field.length := by
  have fits : field.offset + field.header + field.length ≤ data.length := located.lies.fits
  have good₁ := (located.leaves_sound answers good).1
  refine located.ensures ?_
  rw [if_pos rfl]
  refine (ensures_jitterLength answers good₁ (by omega) field.length).mono ?_
  rintro out s' ⟨good',n,relabelled⟩
  exact ⟨good',n,relabelled,relabelled.payload_eq⟩

/-- Another length in the place of a marker is off by at most five, is read back where the marker stood, and changes
    nothing else. Fields of bytes and arrays that are edited in this way keep their payload right behind the new header,
    however long that is. -/
theorem header_rewritten (answers : Answering ρ sound) (data : Bytes) {s : σ} (good : sound s) :
    (∀ offset header length : Nat, offset + header ≤ data.length →
      Ensures (jitterLength data offset header length : Action ρ σ Bytes) s fun out s' =>
        sound s' ∧ ∃ n, Relabelled data offset header length n out) ∧
    (∀ (edit : SerializedEdit) (needsPayload : Bool), (edit,needsPayload) ∈ [(.bytesField,false),(.arrayField,true)] →
      ∀ (maxGrowth : Document ρ) (field : Field) (s₁ : σ), Located ρ data needsPayload s field 0 s₁ →
        Ensures (edit.perform maxGrowth data) s fun out s' =>
          sound s' ∧ ∃ n, Relabelled data field.offset field.header field.length n out ∧
            out.slice (field.offset + (CompactInt.encode n).length) field.length =
              data.slice field.payload field.length) := by
  refine ⟨fun offset header length inside => ensures_jitterLength answers good inside length,?_⟩
  intro edit needsPayload listed maxGrowth field s₁ located
  simp only [List.mem_cons,Prod.mk.injEq,List.not_mem_nil,or_false] at listed
  obtain ⟨rfl,rfl⟩ | ⟨rfl,rfl⟩ := listed
  · rw [SerializedEdit.perform,editBytesField_eq]
    exact located.ensures_relabelled answers good _
  · rw [SerializedEdit.perform,editArrayField_eq]
    exact located.ensures_relabelled answers good _

/-- A header of one byte becomes one of three, and an overlong one of three bytes becomes one of one byte. -/
theorem header_rewritten_overlong :
    0 + 1 ≤ ([0xFC,0x61] : Bytes).length ∧
    jitterLength [0xFC,0x61] 0 1 252 (⟨10⟩ : Cycling) = (⟨.ok [0xFD,0x01,0x01,0x61],⟨11⟩,[]⟩ : Trace Rat Cycling Bytes) ∧
    Ensures (jitterLength [0xFC,0x61] 0 1 252 : Action Rat Cycling Bytes) ⟨10⟩ (fun out _ =>
      ∃ n, Relabelled [0xFC,0x61] 0 1 252 n out) ∧
    Located Rat [0xFD,0x03,0x00,0x61,0x62,0x63,0x64] false (⟨14⟩ : Cycling) ⟨0,3,3⟩ 0 ⟨16⟩ ∧
    SerializedEdit.bytesField.perform .null [0xFD,0x03,0x00,0x61,0x62,0x63,0x64] (⟨14⟩ : Cycling) =
      (⟨.ok [0x07,0x61,0x62,0x63,0x64],⟨17⟩,[]⟩ : Trace Rat Cycling Bytes) ∧
    Ensures (SerializedEdit.bytesField.perform .null [0xFD,0x03,0x00,0x61,0x62,0x63,0x64] : Action Rat Cycling Bytes) ⟨14⟩
      (fun out _ => ∃ n, Relabelled [0xFD,0x03,0x00,0x61,0x62,0x63,0x64] 0 3 3 n out ∧
        out.slice (0 + (CompactInt.encode n).length) 3 = [0x61,0x62,0x63]) := by
  have answers : Answering Rat fun _ : Cycling => True := Cycling.supplying.toAnswering
  have located : Located Rat [0xFD,0x03,0x00,0x61,0x62,0x63,0x64] false (⟨14⟩ : Cycling) ⟨0,3,3⟩ 0 ⟨16⟩ :=
    ⟨0,⟨15⟩,⟨[],rfl⟩,by decide,[],rfl⟩
  refine ⟨by decide,rfl,?_,located,rfl,?_⟩
  · exact ((header_rewritten answers [0xFC,0x61] trivial).1 0 1 252 (by decide)).mono fun _ _ => And.right
  · exact ((header_rewritten answers _ trivial).2 .bytesField false (by decide) .null _ _ located).mono fun _ _ => And.right

omit [Quantity ρ] [Source ρ σ] in
private theorem reads_of_sameOutside (lies : field.In data) {size : Nat} (same : SameOutside field.payload size data out) :
    CompactInt.read? out field.offset = some (field.length,field.header) :=
  (CompactInt.reading_of_read? lies.reads).elsewhere out field.offset (same.slice_eq (Nat.le_refl _))

/-- The text goes on behind the payload and changes the byte there: it starts at the last byte of the payload, and the
    buffer goes on with a byte that is not the second one of the text. -/
def Leaks (data : Bytes) (field : Field) (pos : Nat) : Prop :=
  pos + 1 = field.length ∧ ∃ b, data[field.payload + field.length]? = some b ∧ b ≠ 0xAF

private theorem poisoned_sameOutside {size : Nat} (room : pos + 2 ≤ size) :
    SameOutside field.payload size data (poisoned data field pos) := by
  have two : Catalog.invalidText.length = 2 := rfl
  rw [poisoned]
  split
  · rename_i fits
    exact (SameOutside.overwritten fits).mono (by omega) (by omega)
  · exact .refl _ _ data

/-- Behind text that starts at the last byte of the payload stands its second byte, if anything does. -/
private theorem getElem?_poisoned_behind (last : pos + 1 = field.length) {b : UInt8}
    (there : data[field.payload + field.length]? = some b) :
    (poisoned data field pos)[field.payload + field.length]? = some 0xAF := by
  have two : Catalog.invalidText.length = 2 := rfl
  have inside := (List.getElem?_eq_some_iff.mp there).1
  rw [poisoned,if_pos (by omega),← last,← Nat.add_assoc]
  exact Bytes.getElem?_overwritten (by omega) (by decide)

theorem poisoned_sameOutside_iff (inside : pos < field.length) :
    SameOutside field.payload field.length data (poisoned data field pos) ↔ ¬ Leaks data field pos := by
  by_cases last : pos + 1 = field.length
  · constructor
    · rintro same ⟨-,b,there,other⟩
      have kept := same.same (field.payload + field.length) (.inr (Nat.le_refl _))
      rw [getElem?_poisoned_behind last there,there] at kept
      exact other (Option.some.inj kept).symm
    · intro stays
      have near : SameOutside field.payload (field.length + 1) data (poisoned data field pos) :=
        poisoned_sameOutside (by omega)
      refine ⟨near.length,fun i outside => ?_⟩
      by_cases behind : i = field.payload + field.length
      · subst behind
        cases there : data[field.payload + field.length]? with
        | none =>
          rw [List.getElem?_eq_none_iff] at there ⊢
          rwa [near.length]
        | some b =>
          rw [getElem?_poisoned_behind last there]
          exact Classical.byContradiction fun other => stays ⟨last,b,there,fun same => other (by rw [same])⟩
      · exact near.same i (by omega)
  · exact iff_of_true (poisoned_sameOutside (by omega)) fun leaks => last leaks.1

private theorem ensures_poisonPayload (answers : Answering ρ sound) (good : sound s) (data : Bytes) (some : 1 ≤ field.length) :
    Ensures (poisonPayload data field : Action ρ σ Bytes) s fun out s' => sound s' ∧ ∃ pos, pos < field.length ∧
      (Draw.numberBelow field.length : Action ρ σ (Amount ρ)).Returns s (.whole pos) s' ∧ out = poisoned data field pos := by
  obtain ⟨_,s',ran,good',pos,rfl,small⟩ := Draw.yields_numberBelow answers (by omega : 0 < field.length) s good
  refine ⟨poisoned data field pos,s',?_,good',pos,small,⟨[],ran⟩,rfl⟩
  rw [poisonPayload,Nat.max_eq_right some,Action.returns_bind]
  refine ⟨_,s',⟨[],ran⟩,?_⟩
  rw [poisonAt_whole]
  exact Action.returns_pure.mpr ⟨rfl,rfl⟩

/-- What damage to the payload of a field makes of a buffer: at most one byte behind the payload is another one, and that
    only where malformed text has been drawn to a position from which it leaks. -/
structure Damaged (ρ : Type) [Source ρ σ] (data : Bytes) (field : Field) (way : Nat) (s₁ : σ) (out : Bytes)
    (s' : σ) : Prop where
  reads : CompactInt.read? out field.offset = some (field.length,field.header)
  near : SameOutside field.payload (field.length + 1) data out
  random : way = 1 → SameOutside field.payload field.length data out
  text : way = 2 → ∃ pos, pos < field.length ∧
    (Draw.numberBelow field.length : Action ρ σ (Amount ρ)).Returns s₁ (.whole pos) s' ∧
    out = poisoned data field pos ∧ (SameOutside field.payload field.length data out ↔ ¬ Leaks data field pos)

/-- A field of bytes whose payload is damaged is read as ever, in a buffer as long as ever. Random bytes change nothing
    outside of the payload. Malformed text does not either, unless it starts at the last byte of the payload and the buffer
    goes on behind it with another byte than the second one of the text, which is the only byte that is lost then. -/
theorem damage_confined_iff (answers : Answering ρ sound) (data : Bytes) {s : σ} (good : sound s) (maxGrowth : Document ρ)
    (field : Field) (way : Nat) (s₁ : σ) (located : Located ρ data false s field way s₁) (some : 1 ≤ field.length)
    (damages : way ≠ 0) :
    Ensures (SerializedEdit.bytesField.perform maxGrowth data) s fun out s' =>
      sound s' ∧ Damaged ρ data field way s₁ out s' := by
  have lies := located.lies
  have fits : field.payload + field.length ≤ data.length := lies.fits
  obtain ⟨good₁,few⟩ := located.leaves_sound answers good
  rw [SerializedEdit.perform,editBytesField_eq]
  refine located.ensures ?_
  rw [if_neg damages]
  split
  · rename_i one
    refine (Ensures.of_yields (yields_corruptPayload answers (by omega) fits) good₁).mono ?_
    rintro out s' ⟨good',-,kept⟩
    have same := kept some
    exact ⟨good',reads_of_sameOutside lies same,same.mono (Nat.le_refl _) (by omega),fun _ => same,fun two => by omega⟩
  · rename_i other
    refine (ensures_poisonPayload answers good₁ data some).mono ?_
    rintro _ s' ⟨good',pos,inside,drawn,rfl⟩
    have near : SameOutside field.payload (field.length + 1) data (poisoned data field pos) :=
      poisoned_sameOutside (by omega)
    exact ⟨good',reads_of_sameOutside lies near,near,fun one => absurd one other,
      fun _ => ⟨pos,inside,drawn,rfl,poisoned_sameOutside_iff inside⟩⟩

/-- Text at the first of three bytes stays in the payload. -/
theorem damage_confined_iff_text :
    1 ≤ (⟨0,1,3⟩ : Field).length ∧ (2 : Nat) ≠ 0 ∧
    Located Rat [0x03,0x61,0x62,0x63,0x64] false (⟨10⟩ : Cycling) ⟨0,1,3⟩ 2 ⟨12⟩ ∧
    SerializedEdit.bytesField.perform .null [0x03,0x61,0x62,0x63,0x64] (⟨10⟩ : Cycling) =
      (⟨.ok [0x03,0xC0,0xAF,0x63,0x64],⟨13⟩,[]⟩ : Trace Rat Cycling Bytes) ∧
    Ensures (SerializedEdit.bytesField.perform .null [0x03,0x61,0x62,0x63,0x64] : Action Rat Cycling Bytes) ⟨10⟩
      (Damaged Rat [0x03,0x61,0x62,0x63,0x64] ⟨0,1,3⟩ 2 ⟨12⟩) := by
  have answers : Answering Rat fun _ : Cycling => True := Cycling.supplying.toAnswering
  have located : Located Rat [0x03,0x61,0x62,0x63,0x64] false (⟨10⟩ : Cycling) ⟨0,1,3⟩ 2 ⟨12⟩ :=
    ⟨0,⟨11⟩,⟨[],rfl⟩,by decide,[],rfl⟩
  refine ⟨by decide,by decide,located,rfl,?_⟩
  exact (damage_confined_iff answers _ trivial .null _ 2 _ located (by decide) (by decide)).mono fun _ _ => And.right

/-- A payload of one byte with another field behind it: the text overwrites the length of that field, so that it is no
    field any more. -/
theorem damage_beyond_payload :
    Answering Rat (fun _ : Cycling => True) ∧
    Located Rat [0x01,0x61,0x01,0x62] false (⟨4⟩ : Cycling) ⟨0,1,1⟩ 2 ⟨6⟩ ∧
    SerializedEdit.bytesField.perform .null [0x01,0x61,0x01,0x62] (⟨4⟩ : Cycling) =
      (⟨.ok [0x01,0xC0,0xAF,0x62],⟨7⟩,[]⟩ : Trace Rat Cycling Bytes) ∧
    ¬ SameOutside (⟨0,1,1⟩ : Field).payload (⟨0,1,1⟩ : Field).length [0x01,0x61,0x01,0x62] [0x01,0xC0,0xAF,0x62] ∧
    (⟨2,1,1⟩ : Field).In [0x01,0x61,0x01,0x62] ∧ CompactInt.read? [0x01,0xC0,0xAF,0x62] 2 = some (0xAF,1) := by
  refine ⟨Cycling.supplying.toAnswering,⟨0,⟨5⟩,⟨[],rfl⟩,by decide,[],rfl⟩,rfl,fun same => ?_,⟨by decide,by decide⟩,by decide⟩
  exact absurd (same.same 2 (.inr (by decide))) (by decide)

/-- What is left of a buffer after the payload of an array is edited: few bytes are other ones, or two are exchanged. -/
structure Rearranged (data : Bytes) (field : Field) (way : Nat) (out : Bytes) : Prop where
  length : out.length = data.length
  reads : CompactInt.read? out field.offset = some (field.length,field.header)
  few : way = 1 → (data.changes out).length ≤ min field.length 5
  confined : way = 1 → ∀ i ∈ data.changes out, field.payload ≤ i ∧ i < field.payload + field.length
  exchanged : way = 2 → ∃ i j, i < field.length ∧ j < field.length ∧
    Transposed data (field.payload + i) (field.payload + j) out

omit [Quantity ρ] [Source ρ σ] in
private theorem rearranged_of_touched (lies : field.In data)
    (touched : Bytes.Touched field.payload field.length data (min field.length mostPayloadEdits) out) :
    Rearranged data field 1 out where
  length := touched.sameOutside.length
  reads := reads_of_sameOutside lies touched.sameOutside
  few _ := touched.length_changes_le
  confined _ := touched.mem_changes
  exchanged two := by contradiction

omit [Quantity ρ] [Source ρ σ] in
private theorem rearranged_of_transposed (lies : field.In data) {i j : Nat} (first : i < field.length) (second : j < field.length)
    (exchanged : Transposed data (field.payload + i) (field.payload + j) out) : Rearranged data field 2 out where
  length := exchanged.length
  reads := by
    have same : SameOutside field.payload field.length data out := exchanged.sameOutside (by omega) (by omega)
    exact reads_of_sameOutside lies same
  few one := by contradiction
  confined one := by contradiction
  exchanged _ := ⟨i,j,first,second,exchanged⟩

omit [Quantity ρ] in
private theorem ensures_swapInPayload (answers : Answering ρ sound) (good : sound s) (lies : field.In data)
    (some : 0 < field.length) :
    Ensures (swapInPayload data field : Action ρ σ Bytes) s fun out s' => sound s' ∧ Rearranged data field 2 out := by
  refine (Ensures.of_yields (yields_swapInPayload answers lies) good).mono ?_
  rintro out s' ⟨good',rfl | ⟨i,j,first,second,exchanged⟩⟩
  · -- Nothing is exchanged, as if the first element changed places with itself.
    exact ⟨good',rearranged_of_transposed lies some some ⟨rfl,rfl,rfl,fun _ _ _ => rfl⟩⟩
  · exact ⟨good',rearranged_of_transposed lies first second exchanged⟩

private theorem Located.ensures_rearranged (answers : Answering ρ sound) (good : sound s)
    (located : Located ρ data true s field way s₁) (kept : way ≠ 0) :
    Ensures (editLocated true (swapInPayload data) data : Action ρ σ Bytes) s fun out s' =>
      sound s' ∧ Rearranged data field way out := by
  have lies := located.lies
  have some := located.payload_pos
  obtain ⟨good₁,small⟩ := located.leaves_sound answers good
  refine located.ensures ?_
  rw [if_neg kept]
  by_cases one : way = 1
  · rw [if_pos one,one]
    refine (Ensures.of_yields (yields_corruptPayload_touched answers some lies.fits) good₁).mono ?_
    rintro out s' ⟨good',touched⟩
    exact ⟨good',rearranged_of_touched lies touched⟩
  · obtain rfl : way = 2 := by omega
    rw [if_neg one]
    exact ensures_swapInPayload answers good₁ lies some

/-- Where a buffer has no field with a payload, an edit of arrays changes one byte at most. Otherwise it finds such a field
    and draws what to do. Unless that is to rewrite the marker, the field is read as ever: the edit overwrites at most five
    bytes of the payload, or exchanges two of them. -/
theorem elements_confined (answers : Answering ρ sound) (data : Bytes) (nonempty : data ≠ []) {s : σ} (good : sound s)
    (maxGrowth : Document ρ) :
    ((∀ field : Field, ¬ field.Sought data true) →
      Ensures (SerializedEdit.arrayField.perform maxGrowth data) s fun out s' =>
        sound s' ∧ out.length = data.length ∧ (data.changes out).length ≤ 1) ∧
    ((∃ field : Field, field.Sought data true) →
      ∃ (field : Field) (way : Nat) (s₁ : σ), Located ρ data true s field way s₁ ∧ way < 3) ∧
    (∀ (field : Field) (way : Nat) (s₁ : σ), Located ρ data true s field way s₁ → way ≠ 0 →
      Ensures (SerializedEdit.arrayField.perform maxGrowth data) s fun out s' =>
        sound s' ∧ Rearranged data field way out) := by
  rw [SerializedEdit.perform,editArrayField_eq]
  refine ⟨fun unsought => ?_,?_,fun field way s₁ located => located.ensures_rearranged answers good⟩
  · exact ensures_unlocated answers good (List.length_pos_iff.mpr nonempty) unsought _
  · rintro ⟨somewhere,sought⟩
    obtain ⟨field,way,s₁,located⟩ := exists_located answers good sought
    exact ⟨field,way,s₁,located,(located.leaves_sound answers good).2⟩

/-- A search from the second of three bytes wraps, and finds the array at the front. Its two elements change places. In
    the other buffer no marker has a payload. -/
theorem elements_confined_wrapping :
    (⟨0,1,2⟩ : Field).Sought [0x02,0x61,0x62] true ∧
    Located Rat [0x02,0x61,0x62] true (⟨1⟩ : Cycling) ⟨0,1,2⟩ 2 ⟨3⟩ ∧
    SerializedEdit.arrayField.perform .null [0x02,0x61,0x62] (⟨1⟩ : Cycling) =
      (⟨.ok [0x02,0x62,0x61],⟨5⟩,[]⟩ : Trace Rat Cycling Bytes) ∧
    (∃ (field : Field) (way : Nat) (s₁ : Cycling), Located Rat [0x02,0x61,0x62] true (⟨1⟩ : Cycling) field way s₁ ∧ way < 3) ∧
    Ensures (SerializedEdit.arrayField.perform .null [0x02,0x61,0x62] : Action Rat Cycling Bytes) ⟨1⟩
      (fun out _ => Rearranged [0x02,0x61,0x62] ⟨0,1,2⟩ 2 out) ∧
    (∀ field : Field, ¬ field.Sought [0x00,0xFD,0x01] true) ∧
    Ensures (SerializedEdit.arrayField.perform .null [0x00,0xFD,0x01] : Action Rat Cycling Bytes) ⟨3⟩
      (fun out _ => out.length = 3 ∧ (Bytes.changes [0x00,0xFD,0x01] out).length ≤ 1) := by
  have answers : Answering Rat fun _ : Cycling => True := Cycling.supplying.toAnswering
  have sought : (⟨0,1,2⟩ : Field).Sought [0x02,0x61,0x62] true := ⟨⟨by decide,by decide⟩,fun _ => by decide⟩
  have located : Located Rat [0x02,0x61,0x62] true (⟨1⟩ : Cycling) ⟨0,1,2⟩ 2 ⟨3⟩ := ⟨1,⟨2⟩,⟨[],rfl⟩,by decide,[],rfl⟩
  have unsought : ∀ field : Field, ¬ field.Sought [0x00,0xFD,0x01] true := by
    rcases CompactInt.findField?_cases [0x00,0xFD,0x01] 0 true with ⟨-,unsought⟩ | ⟨field,found,-⟩
    · exact unsought
    · have nothing : CompactInt.findField? [0x00,0xFD,0x01] 0 true = none := by decide
      rw [nothing] at found
      cases found
  have array := elements_confined answers [0x02,0x61,0x62] (by decide) (s := ⟨1⟩) trivial .null
  refine ⟨sought,located,rfl,array.2.1 ⟨_,sought⟩,?_,unsought,?_⟩
  · exact (array.2.2 _ 2 _ located (by decide)).mono fun _ _ => And.right
  · exact ((elements_confined answers [0x00,0xFD,0x01] (by decide) trivial .null).1 unsought).mono fun _ _ => And.right

end Fuzzing.Mutation

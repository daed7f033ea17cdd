import Fuzzing.Proofs.CompactInt.Field
import Fuzzing.Proofs.Mutation.Masked

/-!
What edits of length prefixes make of a buffer that is not empty. All of them succeed: a marker or a field that is
found lies in the buffer, so that every byte written later lies in it too, and a length that replaces another one is
never negative. Where the search finds nothing, one random byte is overwritten (`ensures_overwritten`); otherwise one of
three ways to edit what it found is drawn, and the edit goes on in that way (`ensures_found`).
-/
namespace Fuzzing.Mutation

open Fuzzing.Action (Ensures Gives Yields)
open Fuzzing.Bytes (SameOutside Touched Transposed)
open CompactInt (Field)

variable {ρ σ : Type} [Source ρ σ] {sound : σ → Prop}

private theorem yields_overwriteRandomByte (answers : Answering ρ sound) {data : Bytes} (nonempty : 0 < data.length) :
    Yields sound (overwriteRandomByte data : Action ρ σ Bytes) fun out =>
      ∃ pos b, pos < data.length ∧ out = data.set pos b := by
  refine (Draw.yields_numberBelow answers (by decide)).bind ?_
  rintro _ ⟨value,rfl,small⟩
  refine (Draw.yields_numberBelow answers nonempty).bind ?_
  rintro _ ⟨pos,rfl,inside⟩
  simp only [Draw.index_whole,pure_bind,Int.toNat_natCast]
  exact (yields_setAt inside small).mono fun out same => ⟨pos,_,inside,same⟩

/-- The new length is close to the old one and not negative, so that it has an encoding, which takes the place of the
    old marker. -/
theorem yields_jitterLength (answers : Answering ρ sound) (data : Bytes) (offset header length : Nat) :
    Yields sound (jitterLength data offset header length : Action ρ σ Bytes) fun out =>
      ∃ n : Nat, length - lengthJitter ≤ n ∧ n ≤ length + lengthJitter ∧
        out = data.replaced offset header (CompactInt.encode n) := by
  refine (Draw.yields_number answers (by omega)).bind ?_
  rintro _ ⟨n,rfl,least,most⟩
  have written : (CompactInt.encode? (n : Int) : Except (Failure ρ) Bytes) = .ok (CompactInt.encode n) := by
    rw [CompactInt.encode?,if_neg (by omega),Int.toNat_natCast]
  simp only [Amount.index?,Action.ofExcept_ok,pure_bind,written]
  refine .pure ⟨n,by omega,by omega,?_⟩
  rw [Bytes.replacedBetween_natCast]

private theorem yields_corruptPayloadByte (answers : Answering ρ sound) {data : Bytes} {payload length : Nat}
    (nonempty : 0 < length) (fits : payload + length ≤ data.length) :
    Yields sound (corruptPayloadByte payload length data : Action ρ σ Bytes) fun out =>
      ∃ pos b, payload ≤ pos ∧ pos < payload + length ∧ out = data.set pos b := by
  refine (Draw.yields_numberBelow answers (by decide)).bind ?_
  rintro _ ⟨value,rfl,small⟩
  refine (Draw.yields_numberBelow answers nonempty).bind ?_
  rintro _ ⟨pos,rfl,inside⟩
  simp only [Draw.index_whole,pure_bind,Int.toNat_natCast]
  exact (yields_setAt (by omega) small).mono fun out same => ⟨payload + pos,_,by omega,by omega,same⟩

theorem yields_corruptPayload_touched (answers : Answering ρ sound) {data : Bytes} {payload length : Nat}
    (some : 0 < length) (fits : payload + length ≤ data.length) :
    Yields sound (corruptPayload payload length data : Action ρ σ Bytes)
      (Touched payload length data (min length mostPayloadEdits)) := by
  have step : ∀ (k : Nat) (now : Bytes), Touched payload length data k now →
      Yields sound (corruptPayloadByte payload length now : Action ρ σ Bytes) (Touched payload length data (k + 1)) := by
    intro k now touched
    have long := touched.sameOutside.length
    refine (yields_corruptPayloadByte answers some (by omega)).mono ?_
    rintro _ ⟨pos,b,begins,ends,rfl⟩
    exact touched.set begins ends b
  have counted := Yields.times_counted step (min length mostPayloadEdits) .none
  rw [Nat.zero_add] at counted
  rwa [corruptPayload,if_neg (Nat.ne_of_gt some)]

/-- A payload that is not empty keeps all that happens in itself. -/
theorem yields_corruptPayload (answers : Answering ρ sound) {data : Bytes} {payload length : Nat}
    (nonempty : 0 < data.length) (fits : payload + length ≤ data.length) :
    Yields sound (corruptPayload payload length data : Action ρ σ Bytes) fun out =>
      out.length = data.length ∧ (0 < length → SameOutside payload length data out) := by
  by_cases some : 0 < length
  · refine (yields_corruptPayload_touched answers some fits).mono fun out touched => ?_
    exact ⟨touched.sameOutside.length,fun _ => touched.sameOutside⟩
  · rw [corruptPayload,if_pos (by omega)]
    refine (yields_overwriteRandomByte answers nonempty).mono ?_
    rintro _ ⟨pos,b,_,rfl⟩
    exact ⟨List.length_set,fun positive => absurd positive some⟩

private theorem yields_randomizeRun (answers : Answering ρ sound) {pos size : Nat} {data : Bytes}
    (fits : pos + size ≤ data.length) :
    Yields sound (randomizeRun pos size data : Action ρ σ Bytes) (SameOutside pos size data) := by
  induction size generalizing pos data with
  | zero => exact .pure (.refl pos 0 data)
  | succ size ih =>
    refine (Draw.yields_below answers (by decide)).bind fun value small => ?_
    refine (yields_setAt (by omega) small).bind ?_
    rintro _ rfl
    refine (ih (by rw [List.length_set]; omega)).mono fun out same => ?_
    have first : SameOutside pos (size + 1) data (data.set pos (UInt8.ofNat value)) :=
      .set (Nat.le_refl pos) (by omega) _
    exact first.trans (same.mono (by omega) (by omega))

omit [Source ρ σ] in
private theorem yields_swapBytes {data : Bytes} {i j : Nat} (first : i < data.length) (second : j < data.length) :
    Yields sound (swapBytes data i j : Action ρ σ Bytes) fun out =>
      ∃ x y, data[i]? = some x ∧ data[j]? = some y ∧ out = (data.set i y).set j x := by
  refine (yields_byteAt second).bind fun y at_j => ?_
  refine (yields_byteAt first).bind fun x at_i => .pure ?_
  exact ⟨x,y,at_i,at_j,rfl⟩

/-- Another marker in front of what follows the old one. -/
def newMarker (data : Bytes) (offset : Nat) : Action ρ σ Bytes := do
  let marker ← Draw.below CompactInt.widths.length
  setAt data offset (CompactInt.leastMarker + marker)

/-- Another value behind the same marker, or another byte that stands for itself. -/
def newValue (data : Bytes) (offset header : Nat) : Action ρ σ Bytes :=
  if header = 1 then do
    let value ← Draw.below CompactInt.leastMarker
    setAt data offset value
  else randomizeRun (offset + 1) (header - 1) data

/-- There are as many markers as widths, and the last one is the greatest byte. -/
theorem yields_newMarker (answers : Answering ρ sound) {data : Bytes} {offset : Nat} (inside : offset < data.length) :
    Yields sound (newMarker data offset : Action ρ σ Bytes) fun out =>
      ∃ marker ∈ ([0xFD,0xFE,0xFF] : Bytes), out = data.set offset marker := by
  have least : CompactInt.leastMarker = 253 := rfl
  have three : CompactInt.widths.length = 3 := rfl
  have markers : ∀ marker < 3, UInt8.ofNat (253 + marker) ∈ ([0xFD,0xFE,0xFF] : Bytes) := by decide
  refine (Draw.yields_below answers (by decide)).bind fun marker few => ?_
  refine (yields_setAt inside (by omega)).mono ?_
  rintro _ rfl
  exact ⟨_,markers marker few,by rw [least]⟩

/-- Another value stays in the header, which is read as one of the same size. -/
theorem yields_newValue (answers : Answering ρ sound) {data : Bytes} {offset value header : Nat}
    (reads : CompactInt.read? data offset = some (value,header)) :
    Yields sound (newValue data offset header : Action ρ σ Bytes) fun out =>
      SameOutside offset header data out ∧ ∃ n, CompactInt.read? out offset = some (n,header) := by
  have least : CompactInt.leastMarker = 253 := rfl
  obtain ⟨positive,fits⟩ := CompactInt.size_of_read? reads
  refine .ite (fun plain => ?_) fun marked => ?_
  · subst plain
    refine (Draw.yields_below answers (by decide)).bind fun value small => ?_
    refine (yields_setAt (by omega) (by omega)).mono ?_
    rintro _ rfl
    have byte : (UInt8.ofNat value).toNat < CompactInt.leastMarker := by
      rw [UInt8.toNat_ofNat']
      omega
    exact ⟨.set (Nat.le_refl offset) (by omega) _,_,CompactInt.read?_of_lt (List.getElem?_set_self (by omega)) byte⟩
  · refine (yields_randomizeRun answers (by omega)).mono fun out same => ?_
    exact ⟨same.mono (by omega) (by omega),CompactInt.read?_size_eq same.length (same.getElem?_eq (by omega)) reads⟩

section

variable {α : Type} {data : Bytes} {find : Nat → Option α} {edit : α → Amount ρ → Action ρ σ Bytes}

/-- The edit of what a search finds from a place that is drawn, in a way that is drawn. Where it finds nothing, one byte is
    overwritten. -/
def editFound (find : Nat → Option α) (edit : α → Amount ρ → Action ρ σ Bytes) (data : Bytes) : Action ρ σ Bytes := do
  let start ← Draw.below data.length
  match find start with
  | none => overwriteRandomByte data
  | some x => edit x (← Draw.numberBelow 3)

private theorem yields_editFound (answers : Answering ρ sound) (nonempty : 0 < data.length) {post : Bytes → Prop}
    (overwritten : ∀ pos b, post (data.set pos b))
    (edited : ∀ (start : Nat) (x : α) (way : Nat), find start = some x → Yields sound (edit x (.whole way)) post) :
    Yields sound (editFound find edit data) post := by
  refine (Draw.yields_below answers nonempty).bind fun start _ => ?_
  cases found : find start with
  | none =>
    refine (yields_overwriteRandomByte answers nonempty).mono ?_
    rintro _ ⟨pos,b,-,rfl⟩
    exact overwritten pos b
  | some x =>
    refine (Draw.yields_numberBelow answers (by decide)).bind ?_
    rintro _ ⟨way,rfl,-⟩
    exact edited start x way found

end

section

variable [Quantity ρ]

omit [Quantity ρ] [Source ρ σ] in
theorem serializedCatalog_ne_nil : serializedCatalog ≠ [] := by
  simp [serializedCatalog,Catalog.interesting]

omit [Source ρ σ] [Quantity ρ] in
private theorem reads_of_findMarker? {data : Bytes} {start offset header : Nat}
    (found : findMarker? data start = some (offset,header)) :
    ∃ value, CompactInt.read? data offset = some (value,header) := by
  obtain ⟨i,-,there⟩ := CompactInt.at?_of_firstCyclic found
  obtain ⟨⟨value,size⟩,read,same⟩ := Option.map_eq_some_iff.mp there
  obtain ⟨rfl,rfl⟩ := Prod.mk.inj same
  exact ⟨value,by rw [CompactInt.read?_natCast,read]⟩

/-- How an edit of markers goes on with a compact integer, in a way that is drawn. -/
def editFoundMarker (data : Bytes) (place : Nat × Nat) (way : Amount ρ) : Action ρ σ Bytes :=
  if way.isWhole 0 then newMarker data place.1
  else if way.isWhole 1 then newValue data place.1 place.2
  else do
    let value ← Draw.choose serializedCatalog
    pure (data.stamped place.1 value)

theorem editMarker_eq (data : Bytes) :
    (editMarker data : Action ρ σ Bytes) = editFound (findMarker? data) (editFoundMarker data) data := by
  unfold editMarker editFound
  congr 1
  funext start
  cases findMarker? data start with
  | none => rfl
  | some place => rfl

theorem yields_editMarker (answers : Answering ρ sound) {data : Bytes} (nonempty : 0 < data.length) :
    Yields sound (editMarker data : Action ρ σ Bytes) fun out => out.length = data.length := by
  rw [editMarker_eq]
  refine yields_editFound answers nonempty (fun _ _ => List.length_set) ?_
  rintro start ⟨offset,header⟩ way found
  obtain ⟨value,reads⟩ := reads_of_findMarker? found
  have inside := CompactInt.size_of_read? reads
  refine .ite (fun _ => ?_) fun _ => .ite (fun _ => ?_) fun _ => ?_
  · refine (yields_newMarker answers (by omega)).mono ?_
    rintro _ ⟨marker,-,rfl⟩
    exact List.length_set
  · exact (yields_newValue answers reads).mono fun _ kept => kept.1.length
  · refine (Draw.yields_choose answers serializedCatalog_ne_nil).bind fun value _ => .pure ?_
    exact Bytes.length_stamped (by omega) value

/-- The most bytes that an edit of serialized data adds: by as much the largest header is longer than the smallest one,
    and no value of the catalog is longer. -/
def mostAdded : Nat := 8

/-- An edit leaves something of a buffer, and does not add too much to it. -/
private structure Stays (data out : Bytes) : Prop where
  some : 1 ≤ out.length
  most : out.length ≤ data.length + mostAdded

omit [Source ρ σ] [Quantity ρ] in
private theorem Stays.of_length_eq {data out : Bytes} (nonempty : 0 < data.length) (kept : out.length = data.length) :
    Stays data out := ⟨by omega,by omega⟩

omit [Source ρ σ] [Quantity ρ] in
private theorem Stays.replaced {data : Bytes} {field : Field} (lies : field.In data) (n : Nat) :
    Stays data (data.replaced field.offset field.header (CompactInt.encode n)) := by
  have fits : field.offset + field.header ≤ data.length := by
    have whole : field.offset + field.header + field.length ≤ data.length := lies.fits
    omega
  obtain ⟨positive,-⟩ := CompactInt.size_of_read? lies.reads
  obtain ⟨least,most⟩ := CompactInt.length_encode n
  have changed := Bytes.length_replaced fits (CompactInt.encode n)
  exact ⟨by omega,by rw [mostAdded]; omega⟩

/-- The edit of a field that is found from a place that is drawn: its length, its payload, or something else. Fields of
    bytes and arrays differ in what else there is, and in whether they need a payload. -/
def editLocated (needsPayload : Bool) (other : Field → Action ρ σ Bytes) (data : Bytes) : Action ρ σ Bytes := do
  let start ← Draw.below data.length
  match CompactInt.findField? data start needsPayload with
  | none => overwriteRandomByte data
  | some field =>
    let way ← Draw.numberBelow 3
    if way.isWhole 0 then jitterLength data field.offset field.header field.length
    else if way.isWhole 1 then corruptPayload field.payload field.length data
    else other field

/-- Malformed text at a position that was drawn in a payload, if the buffer does not end before the text does. -/
def poisonAt (data : Bytes) (field : Field) (drawn : Amount ρ) : Action ρ σ Bytes :=
  let pos := (Amount.whole field.payload).plus drawn
  if (pos.plus (.whole Catalog.invalidText.length)).isAtMost (.whole data.length) then do
    pure (data.overwritten (← Draw.bound pos) Catalog.invalidText)
  else pure data

def poisonPayload (data : Bytes) (field : Field) : Action ρ σ Bytes := do
  poisonAt data field (← Draw.numberBelow (max 1 field.length))

/-- What malformed text at a position of a payload makes of a buffer. -/
def poisoned (data : Bytes) (field : Field) (pos : Nat) : Bytes :=
  if field.payload + pos + Catalog.invalidText.length ≤ data.length then
    data.overwritten (field.payload + pos) Catalog.invalidText
  else data

/-- Exchanges two bytes of a payload, if it has as many. -/
def swapInPayload (data : Bytes) (field : Field) : Action ρ σ Bytes :=
  if 2 ≤ field.length then do
    let i ← Draw.numberBelow field.length
    let j ← Draw.numberBelow field.length
    swapBytes data (field.payload + (← Draw.index i)) (field.payload + (← Draw.index j))
  else pure data

theorem editBytesField_eq (data : Bytes) :
    (editBytesField data : Action ρ σ Bytes) = editLocated false (poisonPayload data) data := rfl

theorem editArrayField_eq (data : Bytes) :
    (editArrayField data : Action ρ σ Bytes) = editLocated true (swapInPayload data) data := rfl

/-- How an edit of fields goes on with a field, in a way that is drawn. -/
def editField (data : Bytes) (other : Field → Action ρ σ Bytes) (field : Field) (way : Amount ρ) : Action ρ σ Bytes :=
  if way.isWhole 0 then jitterLength data field.offset field.header field.length
  else if way.isWhole 1 then corruptPayload field.payload field.length data
  else other field

theorem editLocated_eq (needsPayload : Bool) (other : Field → Action ρ σ Bytes) (data : Bytes) :
    editLocated needsPayload other data =
      editFound (CompactInt.findField? data · needsPayload) (editField data other) data := by
  unfold editLocated editFound
  congr 1
  funext start
  cases found : CompactInt.findField? data start needsPayload with
  | none => simp only [found]
  | some field => simp only [found]; rfl

private theorem yields_editLocated (answers : Answering ρ sound) {data : Bytes} (nonempty : 0 < data.length)
    {needsPayload : Bool} {other : Field → Action ρ σ Bytes}
    (otherwise : ∀ field : Field, field.In data → (needsPayload = true → 0 < field.length) →
      Yields sound (other field) (Stays data)) :
    Yields sound (editLocated needsPayload other data) (Stays data) := by
  rw [editLocated_eq]
  refine yields_editFound answers nonempty (fun _ _ => .of_length_eq nonempty List.length_set) ?_
  intro start field way found
  obtain ⟨lies,wanted⟩ := CompactInt.in_of_findField? found
  refine .ite (fun _ => ?_) fun _ => .ite (fun _ => ?_) fun _ => otherwise field lies wanted
  · refine (yields_jitterLength answers data field.offset field.header field.length).mono ?_
    rintro _ ⟨n,_,_,rfl⟩
    exact .replaced lies n
  · exact (yields_corruptPayload answers nonempty lies.fits).mono fun _ kept => .of_length_eq nonempty kept.1

omit [Source ρ σ] in
theorem poisonAt_whole (data : Bytes) (field : Field) (pos : Nat) :
    (poisonAt data field (.whole pos) : Action ρ σ Bytes) = pure (poisoned data field pos) := by
  simp only [poisonAt,poisoned,Amount.plus_whole,Amount.isAtMost_whole,decide_eq_true_iff,Draw.bound_whole,pure_bind]
  split
  · rw [if_pos (by omega)]
    rfl
  · rw [if_neg (by omega)]

omit [Quantity ρ] [Source ρ σ] in
private theorem length_poisoned (data : Bytes) (field : Field) (pos : Nat) : (poisoned data field pos).length = data.length := by
  rw [poisoned]
  split
  · rename_i room
    exact Bytes.length_overwritten room
  · rfl

private theorem yields_poisonPayload (answers : Answering ρ sound) (data : Bytes) (field : Field) :
    Yields sound (poisonPayload data field : Action ρ σ Bytes) fun out =>
      ∃ pos, pos < max 1 field.length ∧ out = poisoned data field pos := by
  refine (Draw.yields_numberBelow answers (by omega)).bind ?_
  rintro _ ⟨pos,rfl,small⟩
  rw [poisonAt_whole]
  exact .pure ⟨pos,small,rfl⟩

omit [Quantity ρ] in
/-- A payload of a single byte has nothing to exchange. -/
theorem yields_swapInPayload (answers : Answering ρ sound) {data : Bytes} {field : Field} (lies : field.In data) :
    Yields sound (swapInPayload data field : Action ρ σ Bytes) fun out =>
      out = data ∨ ∃ i j, i < field.length ∧ j < field.length ∧
        Transposed data (field.payload + i) (field.payload + j) out := by
  have fits := lies.fits
  refine .ite (fun long => ?_) fun _ => .pure (.inl rfl)
  refine (Draw.yields_numberBelow answers (by omega)).bind ?_
  rintro _ ⟨i,rfl,first⟩
  refine (Draw.yields_numberBelow answers (by omega)).bind ?_
  rintro _ ⟨j,rfl,second⟩
  simp only [Draw.index_whole,pure_bind,Int.toNat_natCast]
  refine (yields_swapBytes (by omega) (by omega)).mono ?_
  rintro _ ⟨x,y,atFirst,atSecond,rfl⟩
  exact .inr ⟨i,j,first,second,Bytes.transposed_set_set atFirst atSecond⟩

private theorem yields_editBytesField (answers : Answering ρ sound) {data : Bytes} (nonempty : 0 < data.length) :
    Yields sound (editBytesField data : Action ρ σ Bytes) (Stays data) := by
  refine yields_editLocated answers nonempty fun field _ _ => (yields_poisonPayload answers data field).mono ?_
  rintro _ ⟨pos,_,rfl⟩
  exact .of_length_eq nonempty (length_poisoned data field pos)

private theorem yields_editArrayField (answers : Answering ρ sound) {data : Bytes} (nonempty : 0 < data.length) :
    Yields sound (editArrayField data : Action ρ σ Bytes) (Stays data) := by
  refine yields_editLocated answers nonempty fun field lies _ => (yields_swapInPayload answers lies).mono ?_
  rintro _ (rfl | ⟨i,j,-,-,exchanged⟩)
  · exact .of_length_eq nonempty rfl
  · exact .of_length_eq nonempty exchanged.length

/-- A cap that is a number, in any form. -/
def IsCap : Document ρ → Prop
  | .whole _ | .bool _ | .real _ => True
  | _ => False

omit [Source ρ σ] in
private theorem exceeds?_of_isCap {maxGrowth : Document ρ} (cap : IsCap maxGrowth) (count : Int) :
    ∃ above, maxGrowth.exceeds? count = .ok above := by
  cases maxGrowth with
  | whole n => exact ⟨_,rfl⟩
  | bool b => exact ⟨_,rfl⟩
  | real x => exact ⟨_,rfl⟩
  | _ => exact absurd cap (by simp [IsCap])

theorem yields_insertValue (answers : Answering ρ sound) {maxGrowth : Document ρ} (cap : IsCap maxGrowth)
    {data : Bytes} (nonempty : 0 < data.length) :
    Yields sound (insertValue maxGrowth data : Action ρ σ Bytes) fun out =>
      ∃ value ∈ serializedCatalog, ∃ pos, pos < data.length ∧
        (out = data.inserted pos value ∧ maxGrowth.exceeds? (data.length + value.length : Nat) = .ok true ∨
          out = data.stamped pos value) := by
  refine (Draw.yields_choose answers serializedCatalog_ne_nil).bind fun value listed => ?_
  refine (Draw.yields_numberBelow answers nonempty).bind ?_
  rintro _ ⟨pos,rfl,inside⟩
  refine (Draw.yields_numberBelow answers (by decide)).bind ?_
  rintro _ ⟨side,rfl,_⟩
  obtain ⟨above,compared⟩ := exceeds?_of_isCap cap (data.length + value.length : Nat)
  simp only [compared,Action.ofExcept_ok,Draw.index_whole,pure_bind,Int.toNat_natCast]
  have stamped : Yields sound (pure (data.stamped pos value) : Action ρ σ Bytes) fun out =>
      ∃ value ∈ serializedCatalog, ∃ pos, pos < data.length ∧
        (out = data.inserted pos value ∧ maxGrowth.exceeds? (data.length + value.length : Nat) = .ok true ∨
          out = data.stamped pos value) := .pure ⟨value,listed,pos,inside,.inr rfl⟩
  refine .ite (fun _ => .ite (fun below => .pure ?_) fun _ => stamped) fun _ =>
    .ite (fun no => by cases no) fun _ => stamped
  exact ⟨value,listed,pos,inside,.inl ⟨rfl,by rw [compared,below]⟩⟩

/-- Every edit succeeds on every buffer that is not empty. -/
theorem yields_editSerialized (answers : Answering ρ sound) {edits : List SerializedEdit} (some : edits ≠ [])
    {maxGrowth : Document ρ} (cap : IsCap maxGrowth) {data : Bytes} (nonempty : 0 < data.length) :
    Yields sound (editSerialized edits maxGrowth data : Action ρ σ Bytes) fun _ => True := by
  refine (Draw.yields_choose answers some).bind fun edit _ => ?_
  cases edit with
  | marker => exact (yields_editMarker answers nonempty).mono fun _ _ => trivial
  | bytesField => exact (yields_editBytesField answers nonempty).mono fun _ _ => trivial
  | arrayField => exact (yields_editArrayField answers nonempty).mono fun _ _ => trivial
  | insertValue => exact (yields_insertValue answers cap nonempty).mono fun _ _ => trivial
  | corruptWhole => exact (yields_corruptWhole answers nonempty).mono fun _ _ => trivial

omit [Source ρ σ] [Quantity ρ] in
private theorem length_of_mem_serializedCatalog : ∀ value ∈ serializedCatalog, value.length ≤ mostAdded := by decide

private theorem gives_insertValue (answers : Answering ρ sound) (maxGrowth : Document ρ) {data : Bytes}
    (nonempty : 0 < data.length) : Gives sound (insertValue maxGrowth data : Action ρ σ Bytes) (Stays data) := by
  refine (Gives.of_yields (Draw.yields_choose answers serializedCatalog_ne_nil)).bind fun value listed => ?_
  have short := length_of_mem_serializedCatalog value listed
  refine (Gives.of_yields (Draw.yields_numberBelow answers nonempty)).bind ?_
  rintro _ ⟨pos,rfl,inside⟩
  refine (Gives.of_yields (Draw.yields_numberBelow answers (by decide))).bind fun side _ => ?_
  have written (inserts : Bool) : Gives sound (do
      let pos ← Draw.index (.whole pos)
      if inserts then pure (data.inserted pos value) else pure (data.stamped pos value) : Action ρ σ Bytes)
      (Stays data) := by
    rw [Draw.index_whole,pure_bind,Int.toNat_natCast]
    refine .ite (fun _ => .pure ?_) fun _ => .pure (.of_length_eq nonempty (Bytes.length_stamped (by omega) value))
    have longer := Bytes.length_inserted (Nat.le_of_lt inside) value
    exact ⟨by omega,by omega⟩
  exact .ite (fun _ => (Gives.ofExcept _).bind fun inserts _ => written inserts) fun _ => written false

/-- An edit that returns adds at most eight bytes, and leaves at least one unless it damages the whole buffer. -/
theorem gives_perform (answers : Answering ρ sound) (edit : SerializedEdit) (maxGrowth : Document ρ) {data : Bytes}
    (nonempty : 0 < data.length) :
    Gives sound (edit.perform maxGrowth data : Action ρ σ Bytes) fun out =>
      out.length ≤ data.length + mostAdded ∧ (edit ≠ .corruptWhole → 1 ≤ out.length) := by
  have stays {out : Bytes} (stays : Stays data out) :
      out.length ≤ data.length + mostAdded ∧ (edit ≠ .corruptWhole → 1 ≤ out.length) :=
    ⟨stays.most,fun _ => stays.some⟩
  cases edit with
  | marker => exact .of_yields ((yields_editMarker answers nonempty).mono fun _ kept => stays (.of_length_eq nonempty kept))
  | bytesField => exact .of_yields ((yields_editBytesField answers nonempty).mono fun _ => stays)
  | arrayField => exact .of_yields ((yields_editArrayField answers nonempty).mono fun _ => stays)
  | insertValue => exact (gives_insertValue answers maxGrowth nonempty).mono fun _ => stays
  | corruptWhole =>
    refine .of_yields ((yields_corruptWhole answers nonempty).mono ?_)
    rintro _ ⟨damage,fits,rfl⟩
    have few : mostSpliced ≤ mostAdded := by decide
    exact ⟨Nat.le_trans fits.length_applied_le (Nat.add_le_add_left few _),fun other => absurd rfl other⟩

end

variable {α : Type} {data : Bytes} {find : Nat → Option α} {edit : α → Amount ρ → Action ρ σ Bytes} {s s₁ s₂ : σ}
  {start : Nat}

theorem exists_start (answers : Answering ρ sound) (nonempty : 0 < data.length) (good : sound s) :
    ∃ start s₁, (Draw.below data.length : Action ρ σ Nat).Returns s start s₁ ∧ start < data.length ∧ sound s₁ := by
  obtain ⟨start,s₁,ran,good₁,inside⟩ := Draw.yields_below answers nonempty s good
  exact ⟨start,s₁,⟨[],ran⟩,inside,good₁⟩

theorem exists_way (answers : Answering ρ sound) (good : sound s) :
    ∃ (way : Nat) (s₁ : σ), (Draw.numberBelow 3 : Action ρ σ (Amount ρ)).Returns s (.whole way) s₁ ∧ way < 3 ∧
      sound s₁ := by
  obtain ⟨_,s₁,ran,good₁,way,rfl,few⟩ := Draw.yields_numberBelow answers (by decide : 0 < 3) s good
  exact ⟨way,s₁,⟨[],ran⟩,few,good₁⟩

theorem start_lt (answers : Answering ρ sound) (nonempty : 0 < data.length) (good : sound s)
    (began : (Draw.below data.length : Action ρ σ Nat).Returns s start s₁) : start < data.length ∧ sound s₁ := by
  obtain ⟨good₁,inside⟩ := Gives.of_yields (Draw.yields_below answers nonempty) _ _ _ good began
  exact ⟨inside,good₁⟩

theorem way_lt (answers : Answering ρ sound) (good : sound s) {way : Nat}
    (drawn : (Draw.numberBelow 3 : Action ρ σ (Amount ρ)).Returns s (.whole way) s₁) : way < 3 ∧ sound s₁ := by
  obtain ⟨good₁,n,same,few⟩ := Gives.of_yields (Draw.yields_numberBelow answers (by decide)) _ _ _ good drawn
  cases same
  exact ⟨few,good₁⟩

theorem ensures_overwritten (answers : Answering ρ sound) (nonempty : 0 < data.length) (good : sound s₁)
    (began : (Draw.below data.length : Action ρ σ Nat).Returns s start s₁) (nothing : find start = none) :
    Ensures (editFound find edit data) s fun out s' =>
      sound s' ∧ out.length = data.length ∧ (data.changes out).length ≤ 1 := by
  obtain ⟨_,s',made,good',pos,b,inside,rfl⟩ :=
    Ensures.of_yields (yields_overwriteRandomByte answers nonempty) good
  have one : Bytes.Touched 0 data.length data 1 (data.set pos b) := .set .none (Nat.zero_le pos) (by omega) b
  refine ⟨data.set pos b,s',?_,good',one.sameOutside.length,one.length_changes_le⟩
  rw [editFound,Action.returns_bind]
  refine ⟨start,s₁,began,?_⟩
  rwa [nothing]

theorem ensures_found {x : α} {way : Amount ρ} {post : Bytes → σ → Prop}
    (began : (Draw.below data.length : Action ρ σ Nat).Returns s start s₁) (found : find start = some x)
    (drawn : (Draw.numberBelow 3 : Action ρ σ (Amount ρ)).Returns s₁ way s₂) (goesOn : Ensures (edit x way) s₂ post) :
    Ensures (editFound find edit data) s post := by
  obtain ⟨out,s',made,holds⟩ := goesOn
  refine ⟨out,s',?_,holds⟩
  rw [editFound,Action.returns_bind]
  refine ⟨start,s₁,began,?_⟩
  rw [found,Action.returns_bind]
  exact ⟨way,s₂,drawn,made⟩

omit [Source ρ σ] in
/-- Whether a number that is drawn is a certain way. -/
theorem isWhole_natCast [Quantity ρ] (n way : Nat) : Amount.isWhole n (.whole way : Amount ρ) = true ↔ way = n := by
  rw [Amount.isWhole_whole,beq_iff_eq]
  omega

end Fuzzing.Mutation

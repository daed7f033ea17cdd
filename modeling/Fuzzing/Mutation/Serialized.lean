import Fuzzing.CompactInt
import Fuzzing.Mutation.Buffer

/-!
Changes that know about length prefixes. A field is a compact length marker whose payload
fits into the buffer; marker and payload are edited independently, so that a decoder meets a
well-formed header with the wrong amount of data, or the reverse. Where there is no field, a
single random byte is overwritten. A further edit damages the buffer as a whole.
-/
namespace Fuzzing.Mutation

/-- The edits of serialized data. -/
inductive SerializedEdit where
  | marker
  | bytesField
  | arrayField
  | insertValue
  | corruptWhole
  deriving DecidableEq, Repr

/-- All edits, in the order in which they are drawn. -/
def SerializedEdit.all : List SerializedEdit := [.marker,.bytesField,.arrayField,.insertValue,.corruptWhole]

/-- The name of an edit. -/
def SerializedEdit.text : SerializedEdit → String
  | .marker => "modify_varint"
  | .bytesField => "modify_var_bytes"
  | .arrayField => "modify_array"
  | .insertValue => "insert_interesting_value"
  | .corruptWhole => "corrupt_format"

/-- The ways to damage a whole buffer. -/
inductive Corruption where
  | truncate
  | splice
  | flip
  deriving DecidableEq, Repr

/-- All ways, in the order in which they are drawn. -/
def Corruption.all : List Corruption := [.truncate,.splice,.flip]

def Corruption.text : Corruption → String
  | .truncate => "truncate"
  | .splice => "splice_garbage"
  | .flip => "flip_bits"

/-- The values that are written into serialized data. -/
def serializedCatalog : List Bytes := Catalog.interesting ++ Catalog.special

/-- How far a length that is put in place of another is off at most. -/
def lengthJitter : Nat := 5

def mostPayloadEdits : Nat := 5

def mostSpliced : Nat := 5

/-- The most bits that a corruption flips. -/
def mostCorruptFlips : Nat := 4

/-- A compact integer together with its place. -/
def markerAt? (offset : Nat) (here : Bytes) : Option (Nat × Nat) :=
  (CompactInt.ofHead? here).map fun decoded => (offset,decoded.2)

/-- The offset and size of the first compact integer in cyclic order from a start. -/
def findMarker? (data : Bytes) (start : Nat) : Option (Nat × Nat) :=
  CompactInt.firstCyclic markerAt? data (start % data.length)

variable {ρ σ : Type} [Quantity ρ] [Source ρ σ]

omit [Quantity ρ] in
/-- Overwrites one byte. -/
def overwriteRandomByte (data : Bytes) : Action ρ σ Bytes := do
  let value ← Draw.numberBelow 256
  let pos ← Draw.numberBelow data.length
  setAt data (← Draw.index pos) (← Draw.index value)

/-- Puts a length close to the right one in the place of a marker. The payload stays. -/
def jitterLength (data : Bytes) (offset header length : Int) : Action ρ σ Bytes := do
  let drawn ← Draw.number (length - lengthJitter).toNat (length + lengthJitter)
  let written ← .ofExcept (CompactInt.encode? (← .ofExcept drawn.index?))
  pure (data.replacedBetween offset (offset + header) written)

/-- Overwrites one byte of a payload. -/
def corruptPayloadByte (payload length : Nat) (data : Bytes) : Action ρ σ Bytes := do
  let value ← Draw.numberBelow 256
  let pos ← Draw.numberBelow length
  setAt data (payload + (← Draw.index pos)) (← Draw.index value)

/-- Overwrites a few bytes of a payload. -/
def corruptPayload (payload length : Nat) (data : Bytes) : Action ρ σ Bytes :=
  if length = 0 then overwriteRandomByte data
  else Draw.times (min length mostPayloadEdits) (corruptPayloadByte payload length) data

def randomizeRun (pos : Nat) : Nat → Bytes → Action ρ σ Bytes
  | 0, data => pure data
  | size + 1, data => do
    let value ← Draw.below 256
    let data ← setAt data pos value
    randomizeRun (pos + 1) size data

def swapBytes (data : Bytes) (i j : Nat) : Action ρ σ Bytes := do
  let y ← byteAt data j
  let x ← byteAt data i
  pure ((data.set i y).set j x)

/-- Edits a compact integer: another marker, another value behind the same marker, or a value of
    the catalog over it and what follows. -/
def editMarker (data : Bytes) : Action ρ σ Bytes := do
  let start ← Draw.below data.length
  match findMarker? data start with
  | none => overwriteRandomByte data
  | some (offset,header) =>
    let way ← Draw.numberBelow 3
    if way.isWhole 0 then do
      let marker ← Draw.below CompactInt.widths.length
      setAt data offset (CompactInt.leastMarker + marker)
    else if way.isWhole 1 then
      if header = 1 then do
        let value ← Draw.below CompactInt.leastMarker
        setAt data offset value
      else randomizeRun (offset + 1) (header - 1) data
    else do
      let value ← Draw.choose serializedCatalog
      pure (data.stamped offset value)

/-- Edits a field of bytes: its length, its payload, or malformed text inside of it. -/
def editBytesField (data : Bytes) : Action ρ σ Bytes := do
  let start ← Draw.below data.length
  match CompactInt.findField? data start false with
  | none => overwriteRandomByte data
  | some field =>
    let way ← Draw.numberBelow 3
    if way.isWhole 0 then jitterLength data field.offset field.header field.length
    else if way.isWhole 1 then corruptPayload field.payload field.length data
    else do
      let pos := (Amount.whole field.payload).plus (← Draw.numberBelow (max 1 field.length))
      if (pos.plus (.whole Catalog.invalidText.length)).isAtMost (.whole data.length) then
        pure (data.overwritten (← Draw.bound pos) Catalog.invalidText)
      else pure data

/-- Edits an array: its length, its payload, or the order of two of its bytes. -/
def editArrayField (data : Bytes) : Action ρ σ Bytes := do
  let start ← Draw.below data.length
  match CompactInt.findField? data start true with
  | none => overwriteRandomByte data
  | some field =>
    let way ← Draw.numberBelow 3
    if way.isWhole 0 then jitterLength data field.offset field.header field.length
    else if way.isWhole 1 then corruptPayload field.payload field.length data
    else if 2 ≤ field.length then do
      let i ← Draw.numberBelow field.length
      let j ← Draw.numberBelow field.length
      swapBytes data (field.payload + (← Draw.index i)) (field.payload + (← Draw.index j))
    else pure data

/-- Inserts a value of the catalog, or writes it over what is there; always the latter where the
    buffer would reach the cap. The cap may be of any form, and is not looked at where nothing is to be inserted. -/
def insertValue (maxGrowth : Document ρ) (data : Bytes) : Action ρ σ Bytes := do
  let value ← Draw.choose serializedCatalog
  let pos ← Draw.numberBelow data.length
  let side ← Draw.numberBelow 2
  let inserts ←
    if side.isWhole 0 then .ofExcept (maxGrowth.exceeds? (data.length + value.length : Nat)) else pure false
  let pos ← Draw.index pos
  if inserts then pure (data.inserted pos value)
  else pure (data.stamped pos value)

/-- Inverts one bit somewhere in the buffer. -/
def corruptBit (data : Bytes) : Action ρ σ Bytes := do
  let pos ← Draw.below data.length
  let b ← byteAt data pos
  let bit ← Draw.below 8
  setAt data pos (b.toNat ^^^ 2 ^ bit)

/-- Damages the whole buffer: cuts it off, splices garbage in, or flips scattered bits. -/
def corruptWhole (data : Bytes) : Action ρ σ Bytes := do
  match ← Draw.choose Corruption.all with
  | .truncate => do
    let size ← Draw.below data.length
    pure (data.take size)
  | .splice => do
    let pos ← Draw.number 0 data.length
    let count ← Draw.number 1 mostSpliced
    let garbage ← Draw.eachByte (← Draw.index count)
    pure (data.inserted (← Draw.bound pos) garbage)
  | .flip => do
    let flips ← Draw.between 1 mostCorruptFlips
    Draw.times flips corruptBit data

def SerializedEdit.perform (maxGrowth : Document ρ) : SerializedEdit → Bytes → Action ρ σ Bytes
  | .marker => editMarker
  | .bytesField => editBytesField
  | .arrayField => editArrayField
  | .insertValue => Mutation.insertValue maxGrowth
  | .corruptWhole => Mutation.corruptWhole

def editSerialized (edits : List SerializedEdit) (maxGrowth : Document ρ) (data : Bytes) :
    Action ρ σ Bytes := do
  let edit ← Draw.choose edits
  edit.perform maxGrowth data

end Fuzzing.Mutation

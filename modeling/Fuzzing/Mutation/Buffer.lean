import Fuzzing.Randomness

/-!
Changes to a buffer as plain bytes: single bits, whole bytes and the byte order of short spans are changed in
place, values of a catalog are written over it, and runs of bytes come in, go out or change places. Positions are drawn
independently, so that two changes may meet and cancel out. Buffers too short for an edit stay as they are.
-/
namespace Fuzzing.Mutation

variable {ρ σ : Type}

def byteAt (data : Bytes) (pos : Nat) : Action ρ σ UInt8 := Draw.member .growing data pos

def setAt (data : Bytes) (pos value : Nat) : Action ρ σ Bytes := do
  let b ← Draw.asByte value
  let _ ← byteAt data pos
  pure (data.set pos b)

/-- Inverts the bits of a mask in the byte at a position. -/
def flipAt (data : Bytes) (pos mask : Nat) : Action ρ σ Bytes := do
  let b ← byteAt data pos
  setAt data pos (b.toNat ^^^ mask)

section

variable [Source ρ σ]

def mostFlips : Nat := 5

def flipBit (data : Bytes) : Action ρ σ Bytes := do
  let pos ← Draw.numberBelow data.length
  let bit ← Draw.numberBelow 8
  flipAt data (← Draw.index pos) (2 ^ (← Draw.index bit))

def bitFlips (data : Bytes) : Action ρ σ Bytes := do
  let flips ← Draw.between 1 (min mostFlips (data.length * 8))
  Draw.times flips flipBit data

def flipByte (data : Bytes) : Action ρ σ Bytes := do
  let pos ← Draw.below data.length
  flipAt data pos 0xFF

def byteFlips (data : Bytes) : Action ρ σ Bytes := do
  let flips ← Draw.between 1 (min mostFlips data.length)
  Draw.times flips flipByte data

/-- The widths of integers whose byte order is swapped. -/
def swapWidths : List Nat := [2,4,8]

/-- Turns one span around. A span too wide for the buffer becomes one of two bytes. -/
def swapSpan (data : Bytes) : Action ρ σ Bytes := do
  let drawn ← Draw.choose swapWidths
  let width := if data.length < drawn then 2 else drawn
  let pos ← Draw.between 0 (data.length - width)
  pure (data.reversedAt pos width)

def endianSwaps (data : Bytes) : Action ρ σ Bytes :=
  if data.length < 2 then pure data
  else do
    let swaps ← Draw.between 1 (min mostFlips (data.length / 2))
    Draw.times swaps swapSpan data

def mostReplacements : Nat := 3

/-- Writes one value of a catalog at a place where all of it fits. -/
def replaceOnce (catalog : List Bytes) (data : Bytes) : Action ρ σ Bytes := do
  let value ← Draw.choose catalog
  if data.length < value.length then pure data
  else do
    let pos ← Draw.between 0 (data.length - value.length)
    pure (data.overwritten pos value)

def replaceValues (catalog : List Bytes) (data : Bytes) : Action ρ σ Bytes := do
  let count ← Draw.between 1 mostReplacements
  Draw.times count (replaceOnce catalog) data

end

/-- The edits of segments. -/
inductive SegmentEdit where
  | insert
  | delete
  | duplicate
  | swap
  deriving DecidableEq, Repr

/-- All edits, in the order in which they are drawn. -/
def SegmentEdit.all : List SegmentEdit := [.insert,.delete,.duplicate,.swap]

/-- The name of an edit. -/
def SegmentEdit.text : SegmentEdit → String
  | .insert => "insert"
  | .delete => "delete"
  | .duplicate => "duplicate"
  | .swap => "swap"

/-- A segment of a buffer. -/
structure Segment where
  pos : Nat
  size : Nat
  deriving DecidableEq, Repr

/-- Exchanges two segments, given in order. -/
def exchanged (data : Bytes) (first second : Segment) : Bytes :=
  data.take first.pos ++ data.slice second.pos second.size ++
    (data.take second.pos).drop (first.pos + first.size) ++
    data.slice first.pos first.size ++ data.drop (second.pos + second.size)

variable [Quantity ρ]

/-- Where a segment of a size can start without touching one at a position: the first and the
    last position before it, and the first and the last behind it. -/
def roomBeside (length : Nat) (pos taken size : Amount ρ) : List (Amount ρ × Amount ρ) :=
  let behind := pos.plus taken
  (if size.isAtMost pos then [(.whole 0,pos.minus size)] else []) ++
  (if (behind.plus size).isAtMost (.whole length) then [(behind,(Amount.whole length).minus size)] else [])

variable [Source ρ σ]

omit [Quantity ρ] in
/-- A segment whose numbers have to be whole. -/
def segment (pos size : Amount ρ) : Action ρ σ Segment := do pure ⟨← Draw.bound pos,← Draw.bound size⟩

/-- The most bytes that are inserted, and the largest segment that is swapped. -/
def mostInserted : Nat := 10

def insertRandom (data : Bytes) : Action ρ σ Bytes := do
  let count ← Draw.number 1 mostInserted
  let pos ← Draw.number 0 data.length
  let fresh ← Draw.eachByte (← Draw.index count)
  pure (data.inserted (← Draw.bound pos) fresh)

/-- Deletes a run of at most half of the buffer. -/
def deleteRun (data : Bytes) : Action ρ σ Bytes :=
  if data.length < 2 then pure data
  else do
    let count ← Draw.number 1 (max 1 (data.length / 2))
    let pos ← Draw.span (.whole 0) ((Amount.whole data.length).minus count)
    let run ← segment pos count
    pure (data.removed run.pos run.size)

/-- Copies a segment of at most half of the buffer to another place. -/
def duplicateSegment (data : Bytes) : Action ρ σ Bytes :=
  if data.length < 2 then pure data
  else do
    let size ← Draw.number 1 (max 1 (data.length / 2))
    let pos ← Draw.span (.whole 0) ((Amount.whole data.length).minus size)
    let target ← Draw.number 0 data.length
    let copied ← segment pos size
    pure (data.inserted (← Draw.bound target) (data.slice copied.pos copied.size))

/-- Exchanges two segments that do not overlap. Neither is larger than a quarter of the buffer, so
    that there is always room for the second on one side of the first. -/
def swapSegments (data : Bytes) : Action ρ σ Bytes :=
  if data.length < 4 then pure data
  else do
    let limit := max 1 (min (data.length / 4) mostInserted)
    let size₁ ← Draw.number 1 limit
    let pos₁ ← Draw.span (.whole 0) ((Amount.whole data.length).minus size₁)
    let size₂ ← Draw.number 1 limit
    let room := roomBeside data.length pos₁ size₁ size₂
    if room.isEmpty then .fail (.noSwapRoom data.length pos₁.document size₁.document size₂.document)
    else do
      let (first,last) ← Draw.choose room
      let pos₂ ← Draw.span first last
      let one ← segment pos₁ size₁
      let other ← segment pos₂ size₂
      if one.pos < other.pos ∨ (one.pos = other.pos ∧ one.size ≤ other.size) then
        pure (exchanged data one other)
      else pure (exchanged data other one)

/-- Makes one edit. -/
def SegmentEdit.perform : SegmentEdit → Bytes → Action ρ σ Bytes
  | .insert => insertRandom
  | .delete => deleteRun
  | .duplicate => duplicateSegment
  | .swap => swapSegments

/-- Makes an edit that is drawn. -/
def editSegments (data : Bytes) : Action ρ σ Bytes := do
  let edit ← Draw.choose SegmentEdit.all
  edit.perform data

end Fuzzing.Mutation

import Fuzzing.Bytes
import Fuzzing.Failure

/-!
Compact integers of variable length. A value below `0xFD` is one byte; a larger one is a
marker byte followed by the value in two, four or eight bytes, the lowest first. `encode`
writes the shortest form, `read?` reads any form at an offset of a buffer. `Catalog` lists byte strings that are worth
trying: the ends of the integer ranges, numbers that stress decoders of length prefixes, and malformed text.
-/
namespace Fuzzing

namespace CompactInt

/-- The markers and the number of bytes that follow each. -/
def widths : List (Nat × Nat) := [(0xFD,2),(0xFE,4),(0xFF,8)]

/-- The least marker; smaller bytes stand for themselves. -/
def leastMarker : Nat := 0xFD

/-- The number of bytes behind a first byte. -/
def width (first : UInt8) : Nat := (widths.lookup first.toNat).getD 0

def ofLittleEndian : Bytes → Nat
  | [] => 0
  | b :: rest => b.toNat + 256 * ofLittleEndian rest

/-- The lowest bytes of a number, the lowest first. -/
def toLittleEndian : Nat → Nat → Bytes
  | 0, _ => []
  | size + 1, n => UInt8.ofNat (n % 256) :: toLittleEndian size (n / 256)

@[simp] theorem length_toLittleEndian (size n : Nat) : (toLittleEndian size n).length = size := by
  induction size generalizing n with
  | zero => rfl
  | succ size ih => simp [toLittleEndian,ih]

/-- Reading what was written gives the number modulo the range of the width. -/
theorem ofLittleEndian_toLittleEndian (size n : Nat) :
    ofLittleEndian (toLittleEndian size n) = n % 256 ^ size := by
  induction size generalizing n with
  | zero => simp [toLittleEndian,ofLittleEndian,Nat.mod_one]
  | succ size ih =>
    have byte : (UInt8.ofNat (n % 256)).toNat = n % 256 := by simp
    rw [toLittleEndian,ofLittleEndian,ih,byte,Nat.pow_succ',Nat.mod_mul]

/-- The compact integer at the head of a byte string, and its size. -/
def ofHead? : Bytes → Option (Nat × Nat)
  | [] => none
  | first :: rest =>
    let size := width first
    if size = 0 then some (first.toNat,1)
    else if (rest.take size).length < size then none
    else some (ofLittleEndian (rest.take size),1 + size)

/-- The compact integer at an offset of a buffer, and its size; none outside of the buffer, and
    where the buffer ends inside the number. -/
def read? (data : Bytes) (offset : Int) : Option (Nat × Nat) :=
  if offset < 0 then none else ofHead? (data.drop offset.toNat)

/-- The shortest form of a natural number. Of a number beyond eight bytes the lowest eight are kept. -/
def encode (n : Nat) : Bytes :=
  if n < 0xFD then [UInt8.ofNat n]
  else if n ≤ 0xFFFF then 0xFD :: toLittleEndian 2 n
  else if n ≤ 0xFFFFFFFF then 0xFE :: toLittleEndian 4 n
  else 0xFF :: toLittleEndian 8 n

/-- The shortest form of an integer that is not negative. -/
def encode? {ρ : Type} (n : Int) : Except (Failure ρ) Bytes :=
  if n < 0 then .error .negativeInteger else .ok (encode n.toNat)

/-- A length marker whose payload lies in the buffer. -/
structure Field where
  offset : Nat
  header : Nat
  length : Nat
  deriving DecidableEq, Repr

/-- Where the payload starts. -/
def Field.payload (f : Field) : Nat := f.offset + f.header

/-- The field at an offset of a buffer of the given size, read from the bytes that start there. -/
def fieldAt? (size : Nat) (needsPayload : Bool) (offset : Nat) (here : Bytes) : Option Field :=
  match ofHead? here with
  | none => none
  | some (length,header) =>
    if needsPayload && length == 0 then none
    else if offset + header + length ≤ size then some ⟨offset,header,length⟩
    else none

/-- The first answer along the suffixes of a byte string, each with its offset. -/
def firstFrom {α : Type} (at? : Nat → Bytes → Option α) : Nat → Bytes → Option α
  | _, [] => none
  | offset, b :: rest =>
    match at? offset (b :: rest) with
    | some found => some found
    | none => firstFrom at? (offset + 1) rest

/-- The first answer along the offsets of a buffer in cyclic order from a start. What lies behind
    the start has been tried when the search begins anew at the front. -/
def firstCyclic {α : Type} (at? : Nat → Bytes → Option α) (data : Bytes) (start : Nat) : Option α :=
  match firstFrom at? start (data.drop start) with
  | some found => some found
  | none => firstFrom at? 0 data

/-- The first field in cyclic order from a start, which may lie outside of the buffer. -/
def findField? (data : Bytes) (start : Int) (needsPayload : Bool) : Option Field :=
  firstCyclic (fieldAt? data.length needsPayload) data (start % data.length).toNat

end CompactInt

end Fuzzing

namespace Fuzzing.Catalog

/-- Zero, the greatest unsigned, and the greatest and least signed number of a width, the highest
    byte first. -/
def limits (width : Nat) : List Bytes :=
  [List.replicate width 0x00,List.replicate width 0xFF,
   0x7F :: List.replicate (width - 1) 0xFF,0x80 :: List.replicate (width - 1) 0x00]

/-- The limits of integers of one, two, four and eight bytes. -/
def special : List Bytes := limits 1 ++ limits 2 ++ limits 4 ++ limits 8

/-- An integer in two's complement, the lowest byte first. -/
def signed (width : Nat) (n : Int) : Bytes := CompactInt.toLittleEndian width (n % 256 ^ width).toNat

def greatest (width : Nat) : Int := 2 ^ (8 * width - 1) - 1

def least (width : Nat) : Int := -2 ^ (8 * width - 1)

/-- Values that stress decoders: signed limits, small numbers, markers of compact integers with
    the largest value behind them, and text that is no UTF-8. -/
def interesting : List Bytes :=
  [signed 4 (greatest 4),signed 4 (least 4),signed 8 (greatest 8),signed 8 (least 8),
   signed 4 0,signed 4 1,signed 4 (-1),
   List.replicate 8 0xFF,0xFD :: List.replicate 2 0xFF,0xFE :: List.replicate 4 0xFF,
   [0x49,0x4F],[0xC0,0xAF,0xE0]]

/-- An overlong encoding of two bytes, which is no UTF-8. -/
def invalidText : Bytes := [0xC0,0xAF]

end Fuzzing.Catalog

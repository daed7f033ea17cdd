import Fuzzing.CompactInt
import Fuzzing.Document.Argument

/-!
Compact integers where numbers and positions may be of any form. A value that does not serve is refused where it is
used: a fractional number only once it is to be written, or to be a position in the buffer.
`writing?_whole` says that integers are written as ever.
-/
namespace Fuzzing.CompactInt

/-- Why a fractional number that is not negative is not written: each width stores its numbers in a way of its
    own, and eight bytes are cut out first. -/
private def unwritable (x : Float) : Failure Float :=
  if x < 253.0 then .notAnIndex "float" else if x ≤ 4294967295.0 then .notStorable else .noOperation "&" "float" "int"

/-- The shortest form of a value, which has to be an integer that is not negative. -/
def writing? (d : Document Float) : Except (Failure Float) Bytes := do
  if ← d.isNegative? then .error .negativeInteger
  else
    match d with
    | .real x => .error (unwritable x)
    | d => .ok (encode (d.integer?.getD 0).toNat)

theorem writing?_whole (n : Int) : writing? (.whole n) = encode? n := by
  by_cases negative : n < 0 <;>
    simp [writing?,encode?,Document.isNegative?,Document.integer?,negative,bind,Except.bind]

/-- Whether a number lies behind the last position of a buffer. -/
private def isBehind (size : Nat) : Document Float → Bool
  | .real x => Quantity.ofInt size ≤ x
  | d => (size : Int) ≤ d.integer?.getD 0

/-- The compact integer at an offset of a buffer, and its size. -/
def readAt? (data : Option Bytes) (offset : Document Float) : Except (Failure Float) (Option (Nat × Nat)) := do
  if ← offset.isNegative? then pure none
  else
    match data with
    | none => .error (.noLength "NoneType")
    | some data =>
      if isBehind data.length offset then pure none
      else
        match offset.integer? with
        | some pos => pure (read? data pos)
        | none => .error (.notAPosition "byte" offset.form)

/-- Why there is no search from a start that is no integer. -/
private def unusableStart (start : Document Float) : Failure Float :=
  match start with
  | .real _ => .notAPosition "bytearray" start.form
  | .text _ | .list _ => .notAppendable start.form "int"
  | d => .noOperation "+" d.form "int"

/-- The first field in cyclic order from a start. Nothing is searched where there are no bytes. -/
def findFrom? (data : Bytes) (start : Document Float) (needsPayload : Bool) :
    Except (Failure Float) (Option Field) :=
  if data.isEmpty then .ok none
  else
    match start.integer? with
    | some pos => .ok (findField? data pos needsPayload)
    | none => .error (unusableStart start)

end Fuzzing.CompactInt

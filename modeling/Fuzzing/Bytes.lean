import Fuzzing.Text

/-!
Byte strings and the ways to cut and mend them. Positions past the end of a byte string mean
its end, so that every operation is total: `replaced` is the general one, and its length is
given by `length_replaced`.
-/
namespace Fuzzing

abbrev Bytes := List UInt8

namespace Bytes

/-- The bytes from a position on, as many as asked for. -/
def slice (data : Bytes) (pos size : Nat) : Bytes := (data.drop pos).take size

/-- Puts a value in the place of a run of bytes. -/
def replaced (data : Bytes) (pos size : Nat) (value : Bytes) : Bytes :=
  data.take pos ++ value ++ data.drop (pos + size)

/-- The position that an integer means. A negative one counts from the end. -/
def position (data : Bytes) (i : Int) : Nat :=
  min data.length (if i < 0 then i + data.length else i).toNat

/-- Puts a value in the place of what lies between two positions. -/
def replacedBetween (data : Bytes) (start stop : Int) (value : Bytes) : Bytes :=
  data.replaced (data.position start) (data.position stop - data.position start) value

/-- Puts a value between two bytes. -/
def inserted (data : Bytes) (pos : Nat) (value : Bytes) : Bytes := data.replaced pos 0 value

/-- Takes a run of bytes out. -/
def removed (data : Bytes) (pos size : Nat) : Bytes := data.replaced pos size []

/-- Writes a value over as many bytes. -/
def overwritten (data : Bytes) (pos : Nat) (value : Bytes) : Bytes := data.replaced pos value.length value

/-- Writes as much of a value as fits behind a position. -/
def stamped (data : Bytes) (pos : Nat) (value : Bytes) : Bytes :=
  data.overwritten pos (value.take (min value.length (data.length - pos)))

/-- Turns a run of bytes around. -/
def reversedAt (data : Bytes) (pos size : Nat) : Bytes :=
  data.replaced pos size (data.slice pos size).reverse

theorem length_slice {data : Bytes} {pos size : Nat} (fits : pos + size ≤ data.length) :
    (data.slice pos size).length = size := by
  simp [slice]; omega

/-- A replacement inside the buffer changes the length by the difference of the two runs. -/
theorem length_replaced {data : Bytes} {pos size : Nat} (fits : pos + size ≤ data.length) (value : Bytes) :
    (data.replaced pos size value).length + size = data.length + value.length := by
  simp [replaced]; omega

/-- Between positions that are not negative lies a run of bytes. -/
theorem replacedBetween_natCast (data : Bytes) (pos size : Nat) (value : Bytes) :
    data.replacedBetween pos (pos + size) value = data.replaced pos size value := by
  have start : data.position pos = min data.length pos := by
    unfold position; rw [if_neg (by omega)]; simp
  have stop : data.position (pos + size) = min data.length (pos + size) := by
    unfold position; rw [if_neg (by omega)]; congr 1
  unfold replacedBetween
  rw [start,stop]
  by_cases inside : pos ≤ data.length
  · rw [Nat.min_eq_right inside]
    by_cases fits : pos + size ≤ data.length
    · rw [Nat.min_eq_right fits]; congr 1; omega
    · rw [Nat.min_eq_left (by omega)]
      unfold replaced
      rw [List.drop_eq_nil_of_le (by omega : data.length ≤ pos + (data.length - pos)),
        List.drop_eq_nil_of_le (by omega : data.length ≤ pos + size)]
  · rw [Nat.min_eq_left (by omega : data.length ≤ pos),Nat.min_eq_left (by omega)]
    unfold replaced
    rw [List.take_of_length_le (Nat.le_refl _),List.take_of_length_le (by omega : data.length ≤ pos),
      List.drop_eq_nil_of_le (by omega),List.drop_eq_nil_of_le (by omega)]

theorem length_inserted {data : Bytes} {pos : Nat} (fits : pos ≤ data.length) (value : Bytes) :
    (data.inserted pos value).length = data.length + value.length := by
  have within : pos + 0 ≤ data.length := by omega
  simpa [inserted] using length_replaced within value

theorem length_overwritten {data : Bytes} {pos : Nat} {value : Bytes}
    (fits : pos + value.length ≤ data.length) : (data.overwritten pos value).length = data.length := by
  have := length_replaced fits value
  unfold overwritten
  omega

theorem length_stamped {data : Bytes} {pos : Nat} (inside : pos ≤ data.length) (value : Bytes) :
    (data.stamped pos value).length = data.length := by
  apply length_overwritten
  simp; omega

theorem length_reversedAt {data : Bytes} {pos size : Nat} (fits : pos + size ≤ data.length) :
    (data.reversedAt pos size).length = data.length := by
  have := length_replaced fits (data.slice pos size).reverse
  simp only [List.length_reverse,length_slice fits] at this
  unfold reversedAt
  omega

end Bytes

end Fuzzing

namespace Fuzzing.Bytes

/-- The digits of a byte, the upper half first. -/
private def hexPair (b : UInt8) : List Char := [Nat.digitChar (b.toNat / 16),Nat.digitChar (b.toNat % 16)]

def hex (data : Bytes) : String := String.ofList (data.flatMap hexPair)

/-- Whether a character may stand between bytes. -/
private def isGap (c : Char) : Bool := c = ' ' || (9 ≤ c.toNat && c.toNat ≤ 13)

/-- The bytes of digits from a position on, or the position of what is no digit. -/
private def ofDigits (pos : Nat) : List Char → Except Nat Bytes
  | [] => .ok []
  | c :: rest =>
    if isGap c then ofDigits (pos + 1) rest
    else
      match Text.hexDigit? c, rest with
      | none, _ => .error pos
      | some _, [] => .error (pos + 1)
      | some upper, d :: rest =>
        match Text.hexDigit? d with
        | none => .error (pos + 1)
        | some lower =>
          match ofDigits (pos + 2) rest with
          | .ok data => .ok (UInt8.ofNat (upper * 16 + lower) :: data)
          | .error wrong => .error wrong

/-- The byte string of a text, or the position of what does not belong there: of the first character of another
    alphabet, if there is one. -/
def ofHex? (s : String) : Except Nat Bytes :=
  if s.toList.any fun c => 128 ≤ c.toNat then .error ((Text.codes s).findIdx fun code => 128 ≤ code)
  else ofDigits 0 s.toList

end Fuzzing.Bytes

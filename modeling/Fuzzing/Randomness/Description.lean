import Fuzzing.Digest
import Fuzzing.Randomness

/-!
Sources of randomness as values describe them: a generator made from a seed, or a script that replays prepared
answers and keeps a record of what it was asked for. A seed that is a fractional number stands for its residue modulo
`2 ^ 61 - 1`, so that equal numbers of either kind make equal seeds as long as they are small.
-/
namespace Fuzzing

/-- A request that was answered, or was to be answered. -/
inductive Request where
  /-- A number out of so many. -/
  | number (width : Amount Float)
  | fraction

/-- Prepared answers, and the requests so far, the latest first. -/
structure Script where
  numbers : List (Document Float)
  fractions : List Float
  /-- Whether a request behind the end of the script fails. -/
  strict : Bool
  /-- Whether numbers are given as they stand. -/
  literal : Bool
  asked : List Request

namespace Script

/-- The requests so far in order. -/
def record (s : Script) : List Request := s.asked.reverse

/-- The next answer as it stands, asked for as one out of so many; zero behind the end of a script
    that is not strict. -/
private def next (width : Amount Float) (s : Script) : Except (Failure Float) (Document Float) × Script :=
  let s := { s with asked := .number width :: s.asked }
  match s.numbers with
  | v :: rest => (.ok v,{ s with numbers := rest })
  | [] => (if s.strict then .error .scriptExhausted else .ok (.whole 0),s)

/-- The next answer as a number out of so many. -/
private def reduced (width : Amount Float) (s : Script) : Except (Failure Float) (Amount Float) × Script :=
  let (v,s) := s.next width
  (do (← v).modulo? width,s)

/-- The next answer as a number that stands as it is. -/
def plain (width : Amount Float) (s : Script) : Except (Failure Float) (Amount Float) × Script :=
  let (v,s) := s.next width
  (do
    let v ← v
    match Amount.ofNumber? v with
    | some a => pure a
    | none => .error (.notAnIndex v.form),s)

/-- The next number in a range, or as it stands. -/
def inside (low high : Amount Float) (s : Script) : Except (Failure Float) (Amount Float) × Script :=
  let width := (high.minus low).plus (.whole 1)
  if s.literal then s.plain width
  else
    let (v,s) := s.reduced width
    (do pure (low.plus (← v)),s)

/-- The next number in a range of whole numbers. Only a literal script answers for an empty one. -/
private def between (low high : Int) (s : Script) : Except (Failure Float) (Amount Float) × Script :=
  if high < low && !s.literal then (.error (.emptyInterval low high),s) else s.inside (.whole low) (.whole high)

/-- The next number as a place in a series. Only a literal script answers where there is no place. -/
private def place (length : Nat) (s : Script) : Except (Failure Float) (Amount Float) × Script :=
  if length = 0 && !s.literal then (.error .emptyChoice,s) else s.between 0 (length - 1)

/-- Bytes, one number for each. They are always reduced to the range of bytes, and have to be whole. -/
private def bytes : Nat → Script → Except (Failure Float) Bytes × Script
  | 0, s => (.ok [],s)
  | size + 1, s =>
    match s.reduced (.whole 256) with
    | (.error e,s) => (.error e,s)
    | (.ok v,s) =>
      match v.index? with
      | .error e => (.error e,s)
      | .ok b =>
        match bytes size s with
        | (.error e,s) => (.error e,s)
        | (.ok rest,s) => (.ok (UInt8.ofNat b.toNat :: rest),s)

/-- The next fraction, zero behind the last one. -/
private def fraction (s : Script) : Except (Failure Float) Float × Script :=
  let s := { s with asked := .fraction :: s.asked }
  match s.fractions with
  | x :: rest => (.ok x,{ s with fractions := rest })
  | [] => (.ok 0,s)

instance : Source Float Script where
  absent _ := false
  between := between
  place := place
  inside := inside
  fraction := fraction
  bytes := bytes

end Script

/-- A source that a value describes, if there is one. -/
abbrev Device := Option (Twister ⊕ Script)

namespace Device

/-- The modulus of residues, the prime `2 ^ 61 - 1`. -/
private def modulus : Nat := 0x1FFFFFFFFFFFFFFF

/-- The number of seeds that fractional numbers stand for, `2 ^ 64`. -/
private def seeds : Int := 0x10000000000000000

/-- The residue of a fraction whose denominator is a power of two, a power of which is one. -/
private def residue (x : Decimal.Binary64) : Nat :=
  let down : Nat := (-x.exponent).toNat % 61
  x.numerator % modulus * 2 ^ ((61 - down) % 61) % modulus

/-- The seed that a fractional number stands for. Below zero it is counted from above. -/
private def seedOf (x : Float) : Int :=
  let magnitude : Int :=
    match Decimal.Binary64.ofFloat? x with
    | some exact => residue exact
    | none => 314159
  if x < 0 then seeds - (if magnitude = 1 then 2 else magnitude) else magnitude

/-- The number whose highest byte comes first. -/
private def ofBigEndian (data : Bytes) : Nat := data.foldl (fun n b => n * 256 + b.toNat) 0

/-- The seed that a text stands for, in which no half may stand alone. -/
private def ofText? (s : String) : Except (Failure Float) Int :=
  let codes := Text.codes s
  let start := codes.findIdx Text.isHalf
  match (codes.drop start).takeWhile Text.isHalf with
  | [] =>
    let data := (String.ofList (codes.map Char.ofNat)).toUTF8.toList
    .ok (ofBigEndian (data ++ Digest.sha512 data))
  | run => .error (.notEncodable run start)

/-- The seed that a value stands for, which has to be a number or a text. -/
private def seed? : Document Float → Except (Failure Float) Int
  | .real x => .ok (seedOf x)
  | .text s => ofText? s
  | d =>
    match d.integer? with
    | some n => .ok n
    | none => .error .notASeed

private def script? (given : Fields Float) : Except (Failure Float) Script := do
  let value (name : String) : Document Float := (Table.get? name given).getD (.list [])
  let fractions ← (← (value "fractions").parts?).mapM Document.number?
  let numbers ← (value "script").parts?
  pure
    { numbers, fractions
      strict := (value "end").plain == "raise", literal := (value "raw").isTruthy Quantity.isZero, asked := [] }

/-- The source that a value describes; null describes none. -/
def ofDocument? (d : Document Float) : Except (Failure Float) Device :=
  match d with
  | .null => .ok none
  | .record fields =>
    match Table.get? "seed" fields with
    | some d => do pure (some (.inl (Twister.ofSeed (← seed? d))))
    | none => do pure (some (.inr (← script? fields)))
  | .text _ | .list _ => .error (.noAttribute d.form "get")
  | d => .error (.notSearched d.form)

/-- What shows where a source stands: the next bits of a generator, the requests of a script so far. -/
def position : Device → Document Float
  | none => .null
  | some (.inl g) => .whole (g.bits 32).1
  | some (.inr s) =>
    .list (s.record.map fun r =>
      match r with
      | .number width => width.document
      | .fraction => .text "f")

end Device

end Fuzzing

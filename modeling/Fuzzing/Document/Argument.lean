import Fuzzing.Bytes
import Fuzzing.Failure

/-!
Values as arguments, where values of any form may be given: numbers, amounts, counts, positions, names and byte
strings. A truth value counts as one or zero. A value that does not serve is refused under the name of its form.
Arithmetic keeps a number whole as long as everything that goes into it is.
-/
namespace Fuzzing.Document

variable {ρ α : Type}

def integer? : Document ρ → Option Int
  | whole n => some n
  | bool b => some (if b then 1 else 0)
  | _ => none

/-- An integer as a double, if it lies in their range. -/
private def double? (n : Int) : Except (Failure Float) Float :=
  if Decimal.inRange n.natAbs 1 then .ok (Decimal.ofInt n) else .error .integerTooLarge

/-- A value as a fractional number: a number of either kind, or a numeral. -/
def number? : Document Float → Except (Failure Float) Float
  | real x => .ok x
  | whole n => double? n
  | bool b => .ok (if b then 1.0 else 0.0)
  | text s =>
    match Decimal.written? s.toList with
    | some x => .ok x
    | none => .error (.notANumeral (Text.quoted s))
  | d => .error (.notANumber d.form)

/-- A number that may be missing. -/
def measure? : Document Float → Except (Failure Float) (Option Float)
  | null => .ok none
  | d => some <$> d.number?

/-- A number, or null where there is none. -/
def ofMeasure (x : Option ρ) : Document ρ := (x.map real).getD null

section

variable [Quantity ρ]

def isZero : Document ρ → Bool
  | whole n => n == 0
  | bool b => !b
  | real x => Quantity.isZero x
  | _ => false

def isNegative? : Document ρ → Except (Failure ρ) Bool
  | whole n => .ok (n < 0)
  | bool _ => .ok false
  | real x => .ok (decide (x < 0))
  | d => .error (.notComparable "<" d.form "int")

def isAtMostZero? : Document ρ → Except (Failure ρ) Bool
  | whole n => .ok (n ≤ 0)
  | bool b => .ok !b
  | real x => .ok (decide (x < 0) || Quantity.isZero x)
  | d => .error (.notComparable "<=" d.form "int")

def exceeds? (count : Int) : Document ρ → Except (Failure ρ) Bool
  | whole n => .ok (count < n)
  | bool b => .ok (count < if b then 1 else 0)
  | real x => .ok (decide (Quantity.ofInt count < x))
  | d => .error (.notComparable "<" "int" d.form)

end

/-- How often to do something; not at all where the value is below zero. -/
def times? (d : Document ρ) : Except (Failure ρ) Nat :=
  match d.integer? with
  | some n => .ok n.toNat
  | none => .error (.notAnIndex d.form)

/-- The member of a list at a position. A negative position counts from the end. -/
def memberOf? (xs : List α) (d : Document ρ) : Except (Failure ρ) α :=
  match d.integer? with
  | none => .error (.notAPosition Series.growing.text d.form)
  | some i =>
    let pos := if i < 0 then i + xs.length else i
    match (if pos < 0 then none else xs[pos.toNat]?) with
    | some x => .ok x
    | none => .error (.outOfRange .growing)

def part? (pos : Nat) : Document ρ → Except (Failure ρ) (Document ρ)
  | list items => memberOf? items (whole pos : Document ρ)
  | text s => memberOf? ((Text.letters s).map text) (whole pos : Document ρ)
  | record _ => .error (.noEntry (toString pos))
  | d => .error (.notSubscriptable d.form)

def length? : Document ρ → Except (Failure ρ) Nat
  | list items => .ok items.length
  | text s => .ok (Text.letters s).length
  | record fields => .ok fields.length
  | d => .error (.noLength d.form)

/-- The value of a field that has to be there. -/
def entry? (name : String) (fields : Fields ρ) : Except (Failure ρ) (Document ρ) :=
  match Table.get? name fields with
  | some d => .ok d
  | none => .error (.noEntry (Text.quoted name))

/-- The value under a name, in a value that has to be a record. -/
def under? (name : String) : Document ρ → Except (Failure ρ) (Document ρ)
  | record fields => entry? name fields
  | list _ => .error (.notAPosition Series.growing.text (text name : Document ρ).form)
  | text _ => .error (.notALetter (text name : Document ρ).form)
  | d => .error (.notSubscriptable d.form)

/-- The member of a kind with the name that is given. -/
def named? (kind : String) (members : List α) (name : α → String) (d : Document Float) :
    Except (Failure Float) α :=
  match members.find? fun x => d.plain == name x with
  | some x => .ok x
  | none => .error (.noMember d.shown kind)

end Fuzzing.Document

namespace Fuzzing

/-- A number that is whole as long as everything that went into it is. -/
inductive Amount (ρ : Type) where
  | whole (n : Int)
  | real (x : ρ)

namespace Amount

variable {ρ : Type}

def document : Amount ρ → Document ρ
  | whole n => .whole n
  | real x => .real x

/-- An amount from a value that is a number. A truth value counts as one or zero. -/
def ofNumber? (d : Document ρ) : Option (Amount ρ) :=
  match d.integer?, d with
  | some n, _ => some (whole n)
  | none, .real x => some (real x)
  | none, _ => none

/-- An amount from a value, which has to be a number. -/
def ofDocument? (d : Document ρ) : Except (Failure ρ) (Amount ρ) :=
  match ofNumber? d with
  | some a => .ok a
  | none => .error (.notComparable "<" d.form "int")

/-- An amount where an index is needed, which has to be whole. -/
def index? : Amount ρ → Except (Failure ρ) Int
  | whole n => .ok n
  | real x => .error (.notAnIndex (Document.real x).form)

/-- An amount where a bound of a run of bytes is needed, which has to be whole. -/
def bound? : Amount ρ → Except (Failure ρ) Int
  | whole n => .ok n
  | real _ => .error .notABound

variable [Quantity ρ]

private def quantity : Amount ρ → ρ
  | whole n => Quantity.ofInt n
  | real x => x

/-- The sum of two amounts. An integer beside a fractional number is rounded first. -/
def plus : Amount ρ → Amount ρ → Amount ρ
  | whole m, whole n => whole (m + n)
  | a, b => real (a.quantity + b.quantity)

def minus : Amount ρ → Amount ρ → Amount ρ
  | whole m, whole n => whole (m - n)
  | a, b => real (a.quantity - b.quantity)

def isAtMost : Amount ρ → Amount ρ → Bool
  | whole m, whole n => m ≤ n
  | a, b => decide (a.quantity < b.quantity) || Quantity.isZero (a.quantity - b.quantity)

def isWhole (n : Int) : Amount ρ → Bool
  | whole m => m == n
  | real x => Quantity.isZero (x - Quantity.ofInt n)

@[simp] theorem plus_whole (m n : Int) : plus (whole m : Amount ρ) (whole n) = whole (m + n) := rfl

@[simp] theorem minus_whole (m n : Int) : minus (whole m : Amount ρ) (whole n) = whole (m - n) := rfl

@[simp] theorem isAtMost_whole (m n : Int) : isAtMost (whole m : Amount ρ) (whole n) = decide (m ≤ n) := rfl

@[simp] theorem isWhole_whole (m n : Int) : isWhole m (whole n : Amount ρ) = (n == m) := rfl

/-- Refuses a sum of an integer beyond the range of doubles and a fractional number. -/
def ensureSum : Amount Float → Amount Float → Except (Failure Float) Unit
  | whole n, real _ | real _, whole n => do
    let _ ← Document.double? n
  | _, _ => .ok ()

/-- Whether two amounts have a sum. -/
def haveSum (a b : Amount Float) : Bool := (ensureSum a b) matches .ok _

end Amount

end Fuzzing

namespace Fuzzing.Document

private def numeric? : Document Float → Option (Except (Failure Float) Float)
  | real x => some (.ok x)
  | d => d.integer?.map double?

/-- Two numbers as doubles, where both are numbers. -/
def both? (operator : String) (a b : Document Float) : Except (Failure Float) (Float × Float) :=
  match a.numeric?, b.numeric? with
  | some a, some b => do pure (← a,← b)
  | _, _ => .error (.noOperation operator a.form b.form)

/-- The sum of two values. Texts and lists are put one behind the other. -/
def plus? (a b : Document Float) : Except (Failure Float) (Document Float) :=
  match a, b with
  | text s, text t => .ok (text (s ++ t))
  | list xs, list ys => .ok (list (xs ++ ys))
  | text _, _ | list _, _ => .error (.notAppendable a.form b.form)
  | a, b =>
    match a.integer?, b.integer? with
    | some m, some n => .ok (whole (m + n))
    | _, _ => do
      let (x,y) ← both? "+" a b
      pure (real (x + y))

/-- The difference of two values, one of which is a fractional number. -/
def minus? (a b : Document Float) : Except (Failure Float) Float := do
  let (x,y) ← both? "-" a b
  pure (x - y)

def over? (a b : Document Float) : Except (Failure Float) Float :=
  match a.integer?, b.integer? with
  | some m, some n =>
    if n = 0 then .error (.byZero "division")
    else if Decimal.inRange m.natAbs n.natAbs then .ok (Decimal.quotient m n)
    else .error .quotientTooLarge
  | _, _ => do
    let (x,y) ← both? "/" a b
    if y == 0.0 then .error (.byZero "float division") else .ok (x / y)

/-- What a value leaves under division by a number above zero. -/
def modulo? (a : Document Float) (width : Amount Float) : Except (Failure Float) (Amount Float) :=
  match Amount.ofNumber? a, width with
  | some (.whole m), .whole n => .ok (.whole (m % n))
  | some x, width => do
    let (x,y) ← both? "%" x.document width.document
    pure (.real (Decimal.remainder x y))
  | none, width =>
    match a with
    | text _ => .error .noPlaceholder
    | a => .error (.noOperation "%" a.form width.document.form)

variable {ρ : Type}

def hexed? : Document ρ → Except (Failure ρ) Bytes
  | text s =>
    match Bytes.ofHex? s with
    | .ok data => .ok data
    | .error pos => .error (.notHexadecimal pos)
  | null => .error (.notDigits "None")
  | d => .error (.notDigits d.form)

/-- The bound of numbers of repetitions, `2 ^ 63`. -/
private def repeatLimit : Int := 0x8000000000000000

/-- The most bytes that are held at once, `2 ^ 36`. -/
private def mostBytes : Nat := 0x1000000000

/-- Bytes repeated so many times, not at all where the number is below zero. -/
private def repeatedTimes? (unit : Bytes) (n : Int) : Except (Failure ρ) Bytes :=
  if n < -repeatLimit || repeatLimit ≤ n then .error (.indexTooLarge (whole n : Document ρ).form)
  else if unit.isEmpty then .ok []
  else
    let size : Nat := unit.length * n.toNat
    if repeatLimit ≤ size then .error .bytesTooLong
    else if mostBytes < size then .error .noMemory
    else .ok (List.replicate n.toNat unit).flatten

private def repeated? (fields : Fields ρ) : Except (Failure ρ) Bytes := do
  let unit ← (← entry? "rep" fields).hexed?
  let count ← entry? "n" fields
  match count.integer? with
  | some n => repeatedTimes? unit n
  | none => .error (.notACount count.form)

/-- Byte strings one behind the other. Each of them has to be there. -/
private def joined? (index : Nat) : List (Option Bytes) → Except (Failure ρ) Bytes
  | [] => .ok []
  | none :: _ => .error (.notBytes index (null : Document ρ).form)
  | some data :: rest => (data ++ ·) <$> joined? (index + 1) rest

mutual

/-- The byte string that a value stands for, if it is there. -/
def payload? : Document ρ → Except (Failure ρ) (Option Bytes)
  | null => .ok none
  | text s => some <$> hexed? (text s : Document ρ)
  | record fields => some <$> repeated? fields
  | list items => do
    let parts ← payloads? items
    some <$> joined? 0 parts
  | d => .error (.notSubscriptable d.form)

/-- The byte strings that the items of a list stand for. -/
private def payloads? : List (Document ρ) → Except (Failure ρ) (List (Option Bytes))
  | [] => .ok []
  | d :: rest => do
    let data ← payload? d
    let others ← payloads? rest
    pure (data :: others)

end

def present? (missing : Failure ρ) (d : Document ρ) : Except (Failure ρ) Bytes := do
  match ← payload? d with
  | some data => pure data
  | none => .error missing

end Fuzzing.Document

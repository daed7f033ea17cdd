import Fuzzing.Text

/-!
Double-precision numbers as exact fractions. `Binary64.ofFloat?` reads a finite number as
`± mantissa · 2 ^ exponent`, and `nearest` goes back from any fraction to the closest double, a tie going to the even
mantissa; `roundDiv` is the one rounding rule. Everything in between is done on natural numbers, so that no intermediate
result is rounded. `shortest` takes the coarsest decimal grid with a point among the reals that read back as a double.
All bookkeeping is written over `Quantity`, so that one definition serves both the running program, which computes in
doubles, and exact reasoning about rationals.
-/
namespace Fuzzing.Decimal

/-- The quotient of two naturals rounded to the nearest natural, a tie going to the even one. -/
def roundDiv (num den : Nat) : Nat :=
  let q := num / den
  let r := num % den
  if 2 * r < den then q else if den < 2 * r then q + 1 else q + q % 2

/-- A rounded quotient is at most half a unit above the exact one. -/
theorem roundDiv_le (num den : Nat) : 2 * (den * roundDiv num den) ≤ 2 * num + den := by
  have split := Nat.div_add_mod num den
  have parity := Nat.mod_two_eq_zero_or_one (num / den)
  unfold roundDiv
  simp only
  split
  · omega
  · split
    · rw [Nat.mul_add]; omega
    · rcases parity with even | odd
      · rw [even,Nat.add_zero]; omega
      · rw [odd,Nat.mul_add]; omega

/-- A finite double, `± mantissa · 2 ^ exponent`. -/
structure Binary64 where
  negative : Bool
  mantissa : Nat
  exponent : Int
  deriving DecidableEq, Repr

namespace Binary64

/-- The weight of the bit above the stored ones, `2 ^ 52`; the exponent is stored in multiples of it. -/
def hidden : Nat := 0x10000000000000

/-- The weight of the sign bit, `2 ^ 63`. -/
private def sign : Nat := 0x8000000000000000

/-- The exact value of a double; none for the infinities and for a number that is none. -/
def ofFloat? (x : Float) : Option Binary64 :=
  let bits := x.toBits.toNat
  let magnitude : Nat := bits % sign
  let biased : Nat := magnitude / hidden
  let fraction := magnitude % hidden
  let negative := decide (sign ≤ bits)
  if biased = 2047 then none
  else if biased = 0 then some ⟨negative,fraction,-1074⟩
  else some ⟨negative,hidden + fraction,(biased : Int) - 1075⟩

/-- The numerator of the magnitude over `denominator`. -/
def numerator (x : Binary64) : Nat := x.mantissa * 2 ^ x.exponent.toNat

def denominator (x : Binary64) : Nat := 2 ^ (-x.exponent).toNat

end Binary64

/-- The exponent of the largest power of two that is not above `num / den`, for positive arguments. -/
def floorLog2 (num den : Nat) : Int :=
  let guess : Int := (num.log2 : Int) - (den.log2 : Int)
  if num * 2 ^ (-guess).toNat < den * 2 ^ guess.toNat then guess - 1 else guess

/-- The bits of the double nearest to `num / den`, infinity where every double is too small. -/
def nearestBits (num den : Nat) : Nat :=
  if num = 0 then 0
  else
    let step := max (floorLog2 num den - 52) (-1074)
    let mantissa := roundDiv (num * 2 ^ (-step).toNat) (den * 2 ^ step.toNat)
    min ((step + 1074).toNat * Binary64.hidden + mantissa) (2047 * Binary64.hidden)

/-- Whether a fraction lies in the range of the doubles, that is, is not rounded to infinity. -/
def inRange (num den : Nat) : Bool := decide (nearestBits num den < 2047 * Binary64.hidden)

/-- The double nearest to `± num / den`. -/
def nearest (negative : Bool) (num den : Nat) : Float :=
  Float.ofBits (UInt64.ofNat (nearestBits num den + if negative then Binary64.sign else 0))

def quotient (a b : Int) : Float :=
  nearest (decide (a < 0) != decide (b < 0)) a.natAbs b.natAbs

def ofInt (n : Int) : Float :=
  nearest (decide (n < 0)) n.natAbs 1

/-- Every power of ten with a larger exponent is above all doubles, and its reciprocal nearest to zero. -/
private def furthest : Nat := 400

/-- The double nearest to `± digits · 10 ^ exponent`. Exponents far outside the range of the
    doubles are cut off, where the answer is zero or infinity already. -/
def ofDecimal (negative : Bool) (digits : Nat) (exponent : Int) : Float :=
  let width : Int := (Nat.toDigits 10 digits).length
  if digits = 0 || exponent + width < -(furthest : Int) then nearest negative 0 1
  else if furthest < exponent + width then nearest negative (10 ^ furthest) 1
  else nearest negative (digits * 10 ^ exponent.toNat) (10 ^ (-exponent).toNat)

/-- A double rounded to a number of decimal places: the nearest multiple of `10 ^ -places` to
    its exact value, ties going to the even multiple. -/
def roundTo (places : Nat) (x : Float) : Float :=
  match Binary64.ofFloat? x with
  | none => x
  | some exact =>
    nearest exact.negative (roundDiv (exact.numerator * 10 ^ places) exact.denominator) (10 ^ places)

def digitsValue (digits : List Char) : Nat := digits.foldl (fun n c => 10 * n + (c.toNat - 48)) 0

/-- Digits at the head of a text, one at least, and what follows. -/
def digits? (cs : List Char) : Option (List Char × List Char) :=
  match cs.span (fun c => c.isDigit) with
  | ([],_) => none
  | (ds,rest) => some (ds,rest)

/-- The digits behind a decimal point, if there is one with digits behind it. -/
def fractionDigits (cs : List Char) : List Char × List Char :=
  match cs with
  | '.' :: rest => (digits? rest).getD ([],cs)
  | _ => ([],cs)

/-- Takes a sign from the head of a text; whether it was a minus. -/
private def signed (cs : List Char) : Bool × List Char :=
  match cs with
  | '-' :: rest => (true,rest)
  | '+' :: rest => (false,rest)
  | _ => (false,cs)

/-- The exponent behind its mark, if there is a well-formed one. -/
def exponent? (cs : List Char) : Option Int × List Char :=
  match cs with
  | e :: rest =>
    if e = 'e' || e = 'E' then
      let (negative,body) := signed rest
      match digits? body with
      | some (ds,rest) => (some (if negative then -(digitsValue ds : Int) else (digitsValue ds : Int)),rest)
      | none => (none,cs)
    else (none,cs)
  | [] => (none,cs)

/-- A number from the characters of its text: a decimal numeral, an infinity, or none. -/
def ofText? (cs : List Char) : Option Float :=
  let (negative,body) := signed cs
  let word := body.map Char.toLower
  if word = "inf".toList || word = "infinity".toList then some (if negative then -1.0 / 0.0 else 1.0 / 0.0)
  else if word = "nan".toList then some (0.0 / 0.0)
  else
    let (whole,rest) := (digits? body).getD ([],body)
    let (places,rest) := match rest with
      | '.' :: r => (digits? r).getD ([],r)
      | r => ([],r)
    let (power,rest) := exponent? rest
    if rest.isEmpty && !(whole.isEmpty && places.isEmpty) then
      some (ofDecimal negative (digitsValue (whole ++ places)) (power.getD 0 - (places.length : Int)))
    else none

namespace Binary64

/-- The magnitude of a number in units of `2 ^ -places`, where it is a multiple of them. -/
private def units (places : Nat) (x : Binary64) : Nat := x.numerator * (2 ^ places / x.denominator)

/-- What is left of the magnitude of a number once that of another one is taken away as often as it can be, in units
    of `2 ^ -places`. -/
private def remainder (places : Nat) (x y : Binary64) : Nat := x.units places % y.units places

/-- The places behind the point that two numbers have. -/
private def places (x y : Binary64) : Nat := max (-x.exponent).toNat (-y.exponent).toNat

end Binary64

/-- The remainder of two doubles. There is none of an infinity, and none by zero or by what is no number; an infinite
    divisor leaves the number as it is, up to the sign. -/
def remainder (x y : Float) : Float :=
  let ofSign (r : Float) : Float := if r == 0.0 then 0.0 else if (r < 0) == (y < 0) then r else r + y
  match Binary64.ofFloat? x, Binary64.ofFloat? y with
  | some a, some b =>
    let places := Binary64.places a b
    if b.mantissa = 0 then 0.0 / 0.0
    else ofSign (nearest a.negative (Binary64.remainder places a b) (2 ^ places))
  | some _, none => if y.isNaN then y else ofSign x
  | none, _ => 0.0 / 0.0

/-- The reals that read back as one positive double, over a common denominator: from `low` to
    `high` around `centre`, the ends included where `closed`. -/
structure Reach where
  low : Nat
  centre : Nat
  high : Nat
  denominator : Nat
  closed : Bool

namespace Reach

/-- The interval of a double with a positive mantissa. Below a power of two the doubles lie
    twice as close. -/
def of (x : Binary64) : Reach :=
  let up := 2 ^ x.exponent.toNat
  let narrow := decide (x.mantissa = Binary64.hidden ∧ -1074 < x.exponent)
  { low := (4 * x.mantissa - if narrow then 1 else 2) * up
    centre := 4 * x.mantissa * up
    high := (4 * x.mantissa + 2) * up
    denominator := 4 * 2 ^ (-x.exponent).toNat
    closed := x.mantissa % 2 = 0 }

/-- Whether `num / den` lies in the interval. -/
private def holds (r : Reach) (num den : Nat) : Bool :=
  let scaled := num * r.denominator
  if r.closed then decide (r.low * den ≤ scaled ∧ scaled ≤ r.high * den)
  else decide (r.low * den < scaled ∧ scaled < r.high * den)

end Reach

/-- The exponent of the largest power of ten that is not above `num / den`, for positive
    arguments no smaller than `10 ^ -400`. -/
private def floorLog10 (num den : Nat) : Int :=
  if den ≤ num then ((Nat.toDigits 10 (num / den)).length : Int) - 1
  else
    match (List.range 400).find? fun k => decide (den ≤ num * 10 ^ (k + 1)) with
    | some k => -((k : Int) + 1)
    | none => -401

/-- The point of the grid `10 ^ exponent` that lies in the interval, the nearer of two. -/
private def gridPoint? (r : Reach) (exponent : Int) : Option Nat :=
  let up := 10 ^ exponent.toNat
  let down := 10 ^ (-exponent).toNat
  let below := r.centre * down / (r.denominator * up)
  let above := below + 1
  match r.holds (below * up) down, r.holds (above * up) down with
  | true, false => some below
  | false, true => some above
  | false, false => none
  | true, true =>
    let past := 2 * (r.centre * down) - 2 * (below * (r.denominator * up))
    if past < r.denominator * up then some below
    else if r.denominator * up < past then some above
    else some (below + below % 2)

/-- Digits without trailing zeros, and the exponent of the last one left. -/
private def trim : Nat → Nat → Int → Nat × Int
  | 0, digits, exponent => (digits,exponent)
  | fuel + 1, digits, exponent =>
    if digits ≠ 0 ∧ digits % 10 = 0 then trim fuel (digits / 10) (exponent + 1) else (digits,exponent)

/-- The fewest digits that read back, as `digits · 10 ^ exponent`. Seventeen always do. -/
def shortest (x : Binary64) : Nat × Int :=
  let r := Reach.of x
  let top := floorLog10 r.centre r.denominator
  let grids := (List.range 17).map fun n : Nat => top - (n : Int)
  match grids.findSome? fun e => (gridPoint? r e).map fun d => (d,e) with
  | some (digits,exponent) => trim 20 digits exponent
  | none => (x.mantissa,x.exponent)

/-- How a number is laid out: which exponents of the leading digit are written positionally,
    and what stands for the values that have no digits. -/
structure Layout where
  positionalFrom : Int
  positionalBelow : Int
  exponentDigits : Nat
  infinity : String
  undefined : String

private def digitText (n : Nat) : List Char := Nat.toDigits 10 n

/-- The text of `digits · 10 ^ exponent`: positional with at least one place after the point
    inside the range of the layout, otherwise one digit before the point and a signed exponent. -/
private def Layout.writeDigits (l : Layout) (digits : Nat) (exponent : Int) : List Char :=
  let text := digitText digits
  let leading := exponent + (text.length : Int) - 1
  if digits = 0 then ['0','.','0']
  else if l.positionalFrom ≤ leading ∧ leading < l.positionalBelow then
    if leading < 0 then '0' :: '.' :: (List.replicate ((-leading).toNat - 1) '0' ++ text)
    else
      let whole := leading.toNat + 1
      let padded := text ++ List.replicate (whole - text.length) '0'
      let places := padded.drop whole
      padded.take whole ++ '.' :: (if places.isEmpty then ['0'] else places)
  else
    let size := digitText leading.natAbs
    let power := List.replicate (l.exponentDigits - size.length) '0' ++ size
    let tail := 'e' :: (if leading < 0 then '-' else '+') :: power
    match text with
    | [] => tail
    | [d] => d :: tail
    | d :: rest => d :: '.' :: (rest ++ tail)

def Layout.write (l : Layout) (x : Float) : String :=
  match Binary64.ofFloat? x with
  | none =>
    if x.isNaN then l.undefined else if x < 0 then "-" ++ l.infinity else l.infinity
  | some exact =>
    let (digits,exponent) := if exact.mantissa = 0 then (0,0) else shortest exact
    let text := l.writeDigits digits exponent
    String.ofList (if exact.negative then '-' :: text else text)

/-- Numbers in messages and reports: positional from `0.0001` up to below `1e+16`, an exponent of
    two digits at least. -/
def Layout.report : Layout :=
  { positionalFrom := -4, positionalBelow := 16, exponentDigits := 2, infinity := "inf", undefined := "nan" }

/-- Numbers in JSON text, with the names that stand there for values without digits. -/
def Layout.json : Layout := { Layout.report with infinity := "Infinity", undefined := "NaN" }

/-- Whether every underscore of a text stands between two digits. The first argument says whether the text
    follows upon a digit. -/
private def separates (behindDigit : Bool) : List Char → Bool
  | [] => true
  | ['_'] => false
  | '_' :: c :: rest => behindDigit && c.isDigit && separates true rest
  | c :: rest => separates c.isDigit rest

/-- A number from the characters of its text. -/
def written? (cs : List Char) : Option Float :=
  let plain := Text.trimmed (cs.map Text.plainDigit)
  if separates false plain then ofText? (plain.filter (· != '_')) else none

end Fuzzing.Decimal

namespace Fuzzing

/-- The arithmetic that bookkeeping needs: the four operations, a decidable order, decimal
    literals, and two ways from the integers. -/
class Quantity (ρ : Type) extends Zero ρ, Add ρ, Sub ρ, Mul ρ, Div ρ, LT ρ, OfScientific ρ where
  decideLT : DecidableLT ρ
  /-- Whether a quantity is zero, of either sign. -/
  isZero : ρ → Bool
  /-- An integer as a quantity. -/
  ofInt : Int → ρ
  /-- The quotient of two integers, rounded once where the quantity is inexact. -/
  ratio : Int → Int → ρ

instance Quantity.instDecidableLT {ρ : Type} [Quantity ρ] : DecidableLT ρ := Quantity.decideLT

/-- Doubles: both conversions round to the nearest, ties to even. -/
instance : Quantity Float where
  decideLT := inferInstance
  isZero x := x == 0.0
  ofInt := Decimal.ofInt
  ratio := Decimal.quotient

namespace Quantity

variable {ρ : Type} [Quantity ρ]

/-- The larger of two quantities, the first where neither is larger. -/
def larger (a b : ρ) : ρ := if a < b then b else a

/-- The largest of a list, zero for the empty one. Of entries that do not compare the first
    stays. -/
def largest : List ρ → ρ
  | [] => 0
  | x :: rest => rest.foldl larger x

/-- The running sums of a list, from the left. -/
def runningSums (start : ρ) : List ρ → List ρ
  | [] => []
  | x :: rest => (start + x) :: runningSums (start + x) rest

end Quantity

end Fuzzing

import Fuzzing.Failure

/-!
The names of coverage signals. Most are texts, but whatever can be told apart may name a signal. A
signal is named unless its name is missing, empty or zero. Two names are the same if their keys are: numbers
count by their exact value, whatever their form. Names of one kind are put in order; of names of several kinds two are
found that do not compare, the first two of different kinds that meet where names are sorted by stretches.
-/
namespace Fuzzing

/-- The name of a signal. A fractional number is given by its bits. -/
inductive Signal where
  | missing
  | truth (b : Bool)
  | whole (n : Int)
  | real (bits : UInt64)
  | text (s : String)
  deriving Repr

namespace Signal

instance : Coe String Signal := ⟨text⟩

/-- What tells names apart. -/
inductive Key where
  | missing
  /-- Below all numbers. -/
  | lowest
  /-- A number as a fraction in lowest terms. -/
  | number (num : Int) (den : Nat)
  /-- Above all numbers. -/
  | highest
  /-- A number without a value. -/
  | undefined (bits : UInt64)
  | text (s : String)
  deriving DecidableEq, Repr

/-- A fraction in lowest terms. -/
private def Key.ofFraction (negative : Bool) (num den : Nat) : Key :=
  let common := Nat.gcd num den
  let magnitude : Int := (num / common : Nat)
  number (if negative then -magnitude else magnitude) (den / common)

/-- The key of a fractional number. -/
def Key.ofBits (bits : UInt64) : Key :=
  let x := Float.ofBits bits
  match Decimal.Binary64.ofFloat? x with
  | some exact => ofFraction exact.negative exact.numerator exact.denominator
  | none => if x.isNaN then undefined bits else if x < 0 then lowest else highest

def key : Signal → Key
  | missing => .missing
  | truth b => .number (if b then 1 else 0) 1
  | whole n => .number n 1
  | real bits => .ofBits bits
  | text s => .text s

instance : BEq Signal := ⟨fun a b => decide (a.key = b.key)⟩

theorem beq_iff_key_eq {a b : Signal} : (a == b) = true ↔ a.key = b.key := by
  change decide (a.key = b.key) = true ↔ _
  exact decide_eq_true_iff

instance : EquivBEq Signal where
  rfl := beq_iff_key_eq.2 rfl
  symm same := beq_iff_key_eq.2 (beq_iff_key_eq.1 same).symm
  trans first second := beq_iff_key_eq.2 ((beq_iff_key_eq.1 first).trans (beq_iff_key_eq.1 second))

/-- Whether a signal has a name that counts as one. -/
def isNamed (s : Signal) : Bool :=
  s.key ≠ .missing && s.key ≠ .number 0 1 && s.key ≠ .text ""

def document : Signal → Document Float
  | missing => .null
  | truth b => .bool b
  | whole n => .whole n
  | real bits => .real (.ofBits bits)
  | text s => .text s

/-- A name from a value. Containers name nothing. -/
def ofDocument? : Document Float → Except (Failure Float) Signal
  | .null => .ok missing
  | .bool b => .ok (truth b)
  | .whole n => .ok (whole n)
  | .real x => .ok (real x.toBits)
  | .text s => .ok (text s)
  | d => .error (.notHashable d.form)

def ofParts? (d : Document Float) : Except (Failure Float) (List Signal) := do
  (← d.parts?).mapM ofDocument?

/-- Where names of one kind stand among those of the others. -/
private def Key.rank : Key → Nat
  | missing => 0
  | text _ => 2
  | _ => 1

/-- Whether a key comes before another one of its kind, or is the same: numbers by value, texts by their codes. -/
private def Key.le : Key → Key → Bool
  | number a b, number c d => a * d ≤ c * b
  | lowest, _ | _, highest => true
  | text s, text t => Text.le s t
  | a, b => a = b

/-- Whether a name comes before another one of its kind, or is the same. -/
private def le (a b : Signal) : Bool := a.key.le b.key

end Signal

end Fuzzing

namespace Fuzzing.Signal

/-- Two names that do not compare: a name, and the one that it was to be put beside. -/
private abbrev Clash := Signal × Signal

/-- Whether two names are of one kind. -/
private def compares (a b : Signal) : Bool := a.key.rank == b.key.rank

/-- Whether a name comes before another one of its kind. -/
private def below (a b : Signal) : Bool := !le b a

/-- How many names go on as the name in front of them began, upwards or downwards. -/
private def following (down : Bool) : Signal → List Signal → Except Clash Nat
  | _, [] => .ok 0
  | before, name :: rest =>
    if !compares name before then .error (name,before)
    else if below name before == down then (· + 1) <$> following down name rest
    else .ok 0

/-- How many names at the start stand in order already, or strictly in the opposite one. -/
private def ordered : List Signal → Except Clash Nat
  | first :: second :: rest =>
    if !compares second first then .error (second,first)
    else (· + 2) <$> following (below second first) second rest
  | names => .ok names.length

/-- How many names at the start can be put in order by inserting them one by one into those before, so many at
    most. A name of another kind first meets the one in the middle. -/
private def inserted (most : Nat) (names : List Signal) : Except Clash Nat :=
  match names with
  | [] => .ok 0
  | first :: _ =>
    let alike := names.takeWhile (compares first)
    match names[alike.length]? with
    | some other =>
      if alike.length < most then .error (other,((alike.mergeSort le)[alike.length / 2]?).getD first)
      else .ok (min most names.length)
    | none => .ok (min most names.length)

/-- The least length of stretches among so many names: the first six bits of the number, one more where others are
    set. -/
private def leastLength (rest : Nat) (n : Nat) : Nat := if n < 64 then n + rest else leastLength (max rest (n % 2)) (n / 2)

/-- The length of the stretch at the start of names. -/
private def stretchLength (least : Nat) (names : List Signal) : Except Clash Nat := do
  let n ← ordered names
  if n < least then inserted least names else pure n

/-- A stretch of names in order. -/
structure Stretch where
  start : Nat
  size : Nat
  /-- How deep all names are split between this stretch and the next one. -/
  depth : Nat
  /-- The first name. -/
  least : Signal

/-- Merges a stretch with the one behind it, whose first name is compared with the first of all. -/
private def Stretch.merge? (a b : Stretch) : Except Clash Stretch :=
  if compares b.least a.least then
    .ok { a with size := a.size + b.size, least := if below b.least a.least then b.least else a.least }
  else .error (b.least,a.least)

/-- The first bit in which two fractions of a number differ, found in so many steps. -/
private def splitDepth (total : Nat) : Nat → Nat → Nat → Nat
  | 0, _, _ => 0
  | steps + 1, a, b =>
    if total ≤ a then 1 + splitDepth total steps (2 * (a - total)) (2 * (b - total))
    else if total ≤ b then 1
    else 1 + splitDepth total steps (2 * a) (2 * b)

/-- How deep names are split between a stretch and the next one of a size: the depth of the middles of both. -/
private def Stretch.splitBefore (total : Nat) (a : Stretch) (size : Nat) : Nat :=
  let middle := 2 * a.start + a.size
  splitDepth total 64 middle (middle + a.size + size)

/-- Merges the latest stretches as long as they are split deeper than they are split from the next one. The latest
    comes first. -/
private def collapsed (depth : Nat) : List Stretch → Except Clash (List Stretch)
  | b :: a :: rest =>
    if depth < a.depth then do
      let merged ← a.merge? b
      collapsed depth (merged :: rest)
    else .ok ({ b with depth } :: a :: rest)
  | [b] => .ok [{ b with depth }]
  | [] => .ok []
termination_by stretches => stretches.length

/-- Merges all stretches, of the latest three first the outer one that is shorter. -/
private def mergedAll : List Stretch → Except Clash Unit
  | c :: b :: a :: rest => do
    if a.size < c.size then
      let merged ← a.merge? b
      mergedAll (c :: merged :: rest)
    else
      let merged ← b.merge? c
      mergedAll (merged :: a :: rest)
  | [b,a] => do
    let _ ← a.merge? b
  | _ => .ok ()
termination_by stretches => stretches.length

/-- Finds stretches, so many at most, and merges them as they come. -/
private def stretches (total least : Nat) : Nat → Nat → List Signal → List Stretch → Except Clash Unit
  | steps + 1, start, first :: rest, found => do
    let names := first :: rest
    let size ← stretchLength least names
    let found ← match found with
      | [] => pure []
      | last :: _ => collapsed (last.splitBefore total size) found
    let lowest := ((names.take size).mergeSort le).headD first
    stretches total least steps (start + size) (names.drop size) (⟨start,size,0,lowest⟩ :: found)
  | _, _, _, found => mergedAll found

/-- Names in order, each once. Only names of one kind can be put in order. -/
def sorted? {ρ : Type} (names : List Signal) : Except (Failure ρ) (List Signal) :=
  let distinct := names.eraseDups
  let total := distinct.length
  match stretches total (leastLength 0 total) total 0 distinct [] with
  | .error (a,b) => .error (.notComparable "<" a.document.form b.document.form)
  | .ok () => .ok (distinct.mergeSort le)

private def entryOf? (index : Nat) (d : Document Float) : Except (Failure Float) (Signal × Document Float) :=
  match d.parts? with
  | .ok [name,amount] => do pure (← ofDocument? name,amount)
  | .ok parts => .error (.notAPair index parts.length)
  | .error _ => .error (.notASequence index)

def table? : Document Float → Except (Failure Float) (List (Signal × Document Float))
  | .record fields => .ok (fields.map fun f => (text f.1,f.2))
  | d => do (← d.parts?).zipIdx.mapM fun e => entryOf? e.2 e.1

/-- The entries of a table as named values, the names being the keys written out. Of a repeated key the last value
    holds. -/
def named? (d : Document Float) : Except (Failure Float) (Fields Float) := do
  let entries := Table.ofEntries (← table? d)
  pure (Table.ofEntries (entries.map fun e => (e.1.document.plain,e.2)))

end Fuzzing.Signal

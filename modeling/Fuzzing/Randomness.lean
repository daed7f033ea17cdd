import Fuzzing.Action

/-!
Sources of randomness and the draws that the library makes from them. A source answers four
requests: a number in a range, a place in a series, a fraction, and random bytes. `Conforming` says what the
answers of a sound source satisfy; the library is written so that it asks a sound source only
for what it can give. The Mersenne Twister is such a source: numbers below a bound are found by rejection, so that
the answer is below the bound (`lt_below`).
-/
namespace Fuzzing

variable {ρ σ τ : Type}

/-- A source of randomness with states in `σ`. -/
class Source (ρ σ : Type) where
  /-- Whether there is no source at all. -/
  absent : σ → Bool
  /-- A number from `low` to `high`. -/
  between : (low high : Int) → σ → Except (Failure ρ) (Amount ρ) × σ
  /-- A place in a series of some length. Nothing is drawn where there is none, unless a source says otherwise. -/
  place : (length : Nat) → σ → Except (Failure ρ) (Amount ρ) × σ := fun length s =>
    if length = 0 then (.error .emptyChoice,s) else between 0 (length - 1) s
  /-- A number in a range with a fractional end. A source that gives whole numbers is never asked for one. -/
  inside : (low high : Amount ρ) → σ → Except (Failure ρ) (Amount ρ) × σ := fun _ high s =>
    (.error (.notAnIndex high.document.form),s)
  /-- A fraction, from zero to below one. -/
  fraction : σ → Except (Failure ρ) ρ × σ
  /-- Random bytes. -/
  bytes : (size : Nat) → σ → Except (Failure ρ) Bytes × σ

/-- A source that answers every request that can be answered, and always within the request. -/
structure Conforming (ρ σ : Type) [Quantity ρ] [Source ρ σ] : Prop where
  present : ∀ s : σ, Source.absent ρ s = false
  between : ∀ low high (s : σ), low ≤ high → ∃ n s',
    Source.between low high s = ((.ok (.whole n) : Except (Failure ρ) (Amount ρ)),s') ∧ low ≤ n ∧ n ≤ high
  place : ∀ length (s : σ), 0 < length → ∃ n s',
    Source.place length s = ((.ok (.whole n) : Except (Failure ρ) (Amount ρ)),s') ∧ 0 ≤ n ∧ n < length
  fraction : ∀ s : σ, ∃ (x : ρ) (s' : σ), Source.fraction s = (.ok x,s') ∧ ¬ x < 0 ∧ x < 1.0
  bytes : ∀ size (s : σ), ∃ bs s',
    Source.bytes size s = ((.ok bs : Except (Failure ρ) Bytes),s') ∧ bs.length = size

namespace Draw

variable [Source ρ σ]

/-- Asks the source, if there is one. -/
def ask {α : Type} (asked : Drawing) (request : σ → Except (Failure ρ) α × σ) : Action ρ σ α := fun s =>
  if Source.absent ρ s then ⟨.error (.noSource asked),s,[]⟩ else Action.ofStep request s

/-- A number from `low` to `high`, as the source gives it. -/
def number (low : Nat) (high : Int) : Action ρ σ (Amount ρ) := ask .within (Source.between low high)

/-- A number below a bound, as the source gives it. -/
def numberBelow (bound : Nat) : Action ρ σ (Amount ρ) :=
  ask .below fun s => if bound = 0 then (.error .emptyRange,s) else Source.between 0 (bound - 1) s

/-- A number in a range whose ends come from numbers drawn before. -/
def span (low high : Amount ρ) : Action ρ σ (Amount ρ) :=
  ask .within fun s =>
    match low, high with
    | .whole low, .whole high => Source.between low high s
    | low, high => Source.inside low high s

omit [Source ρ σ] in
/-- A number drawn before, where an index is needed. -/
def index (drawn : Amount ρ) : Action ρ σ Nat := do pure (← .ofExcept drawn.index?).toNat

omit [Source ρ σ] in
/-- A number drawn before, where a bound of a run of bytes is needed. -/
def bound (drawn : Amount ρ) : Action ρ σ Nat := do pure (← .ofExcept drawn.bound?).toNat

omit [Source ρ σ] in
@[simp] theorem index_whole (n : Int) : (index (.whole n) : Action ρ σ Nat) = pure n.toNat := rfl

omit [Source ρ σ] in
@[simp] theorem bound_whole (n : Int) : (bound (.whole n) : Action ρ σ Nat) = pure n.toNat := rfl

/-- A whole number from `low` to `high`. -/
def between (low : Nat) (high : Int) : Action ρ σ Nat := do index (← number low high)

def below (bound : Nat) : Action ρ σ Nat := do index (← numberBelow bound)

def member {α : Type} (kind : Series) (xs : List α) (i : Nat) : Action ρ σ α :=
  match xs[i]? with
  | some x => pure x
  | none => .fail (.outOfRange kind)

def chooseFrom {α : Type} (kind : Series) (xs : List α) : Action ρ σ α := do
  match ← ask .choice (Source.place xs.length) with
  | .whole i => member kind xs i.toNat
  | .real x => .fail (.notAPosition kind.text (Document.real x).form)

def choose {α : Type} (xs : List α) : Action ρ σ α := chooseFrom .growing xs

def fraction : Action ρ σ ρ := ask .fraction Source.fraction

/-- Random bytes, drawn at once. -/
def bytes (size : Nat) : Action ρ σ Bytes := ask .bytes (Source.bytes size)

/-- A number that has to be a byte. -/
def asByte (n : Nat) : Action ρ σ UInt8 := if n < 256 then pure (UInt8.ofNat n) else .fail .notAByte

def byte : Action ρ σ UInt8 := do asByte (← below 256)

/-- Random bytes, drawn one by one. -/
def eachByte : Nat → Action ρ σ Bytes
  | 0 => pure []
  | size + 1 => do
    let b ← byte
    let rest ← eachByte size
    pure (b :: rest)

/-- Repeats a step that changes a value. -/
def times {α : Type} : Nat → (α → Action ρ σ α) → α → Action ρ σ α
  | 0, _, x => pure x
  | n + 1, step, x => do
    let y ← step x
    times n step y

end Draw

/-- A source that may be missing. -/
instance [Source ρ σ] : Source ρ (Option σ) where
  absent
    | none => true
    | some s => Source.absent ρ s
  between low high
    | none => (.error (.noSource .within),none)
    | some s => let (r,s) := Source.between low high s; (r,some s)
  place length
    | none => (.error (.noSource .choice),none)
    | some s => let (r,s) := Source.place length s; (r,some s)
  inside low high
    | none => (.error (.noSource .within),none)
    | some s => let (r,s) := Source.inside low high s; (r,some s)
  fraction
    | none => (.error (.noSource .fraction),none)
    | some s => let (r,s) := Source.fraction s; (r,some s)
  bytes size
    | none => (.error (.noSource .bytes),none)
    | some s => let (r,s) := Source.bytes size s; (r,some s)

/-- A source of one of two kinds. -/
instance [Source ρ σ] [Source ρ τ] : Source ρ (σ ⊕ τ) where
  absent
    | .inl s => Source.absent ρ s
    | .inr t => Source.absent ρ t
  between low high
    | .inl s => let (r,s) := Source.between low high s; (r,.inl s)
    | .inr t => let (r,t) := Source.between low high t; (r,.inr t)
  place length
    | .inl s => let (r,s) := Source.place length s; (r,.inl s)
    | .inr t => let (r,t) := Source.place length t; (r,.inr t)
  inside low high
    | .inl s => let (r,s) := Source.inside low high s; (r,.inl s)
    | .inr t => let (r,t) := Source.inside low high t; (r,.inr t)
  fraction
    | .inl s => let (r,s) := Source.fraction s; (r,.inl s)
    | .inr t => let (r,t) := Source.fraction t; (r,.inr t)
  bytes size
    | .inl s => let (r,s) := Source.bytes size s; (r,.inl s)
    | .inr t => let (r,t) := Source.bytes size t; (r,.inr t)

/-- The words of the generator and the position of the next one. -/
structure Twister where
  words : Array UInt32
  next : Nat

namespace Twister

def size : Nat := 624

/-- Appends the word that follows the first `i + 1` words of a seeded state. -/
private def pushNext (words : Array UInt32) (i : Nat) : Array UInt32 :=
  let last : UInt32 := words[i]?.getD 0
  let mixed : UInt32 := last ^^^ (last >>> 30)
  words.push (mixed * 1812433253 + UInt32.ofNat (i + 1))

private def ofWord (seed : UInt32) : Array UInt32 := (List.range (size - 1)).foldl pushNext #[seed]

/-- Copies the last word to the front once the position has run off the end. -/
private def wrap (words : Array UInt32) (i : Nat) : Array UInt32 × Nat :=
  if i < size then (words,i) else (words.setIfInBounds 0 (words[size - 1]?.getD 0),1)

/-- Mixes a key into the state, one word per round. -/
private def mixKey (key : Array UInt32) : Nat → Array UInt32 → Nat → Nat → Array UInt32 × Nat
  | 0, words, i, _ => (words,i)
  | rounds + 1, words, i, j =>
    let last : UInt32 := words[i - 1]?.getD 0
    let word : UInt32 := ((words[i]?.getD 0) ^^^ ((last ^^^ (last >>> 30)) * 1664525)) + key[j]?.getD 0 + UInt32.ofNat j
    let (words,i) := wrap (words.setIfInBounds i word) (i + 1)
    mixKey key rounds words i (if j + 1 < key.size then j + 1 else 0)

/-- Mixes the state once more, one word per round. -/
private def mixPlain : Nat → Array UInt32 → Nat → Array UInt32
  | 0, words, _ => words
  | rounds + 1, words, i =>
    let last : UInt32 := words[i - 1]?.getD 0
    let word : UInt32 := ((words[i]?.getD 0) ^^^ ((last ^^^ (last >>> 30)) * 1566083941)) - UInt32.ofNat i
    let (words,i) := wrap (words.setIfInBounds i word) (i + 1)
    mixPlain rounds words i

private def ofKey (key : Array UInt32) : Twister :=
  let (words,i) := mixKey key (max size key.size) (ofWord 19650218) 1 0
  let words := mixPlain (size - 1) words i
  ⟨words.setIfInBounds 0 0x80000000,size⟩

/-- The words of a natural number, the lowest first; one zero word for zero. -/
private def keyWords (n : Nat) : List UInt32 :=
  (List.range (n.log2 / 32 + 1)).map fun i => UInt32.ofNat (n / 2 ^ (32 * i))

/-- The state for an integer seed, whose sign does not count. -/
def ofSeed (seed : Int) : Twister := ofKey (keyWords seed.natAbs).toArray

/-- One word of the next generation, from two neighbours and a word further on. -/
private def twistWord (upper lower far : UInt32) : UInt32 :=
  let y := (upper &&& 0x80000000) ||| (lower &&& 0x7FFFFFFF)
  far ^^^ (y >>> 1) ^^^ (if y &&& 1 = 0 then 0 else 0x9908B0DF)

/-- Replaces one word by the one of the next generation. -/
private def twistAt (words : Array UInt32) (i : Nat) : Array UInt32 :=
  words.setIfInBounds i
    (twistWord (words[i]?.getD 0) (words[(i + 1) % size]?.getD 0) (words[(i + 397) % size]?.getD 0))

/-- The next generation of words. Later words already see the new ones at the front. -/
def twist (words : Array UInt32) : Array UInt32 := (List.range size).foldl twistAt words

/-- Spreads the bits of a word. -/
def temper (y : UInt32) : UInt32 :=
  let y := y ^^^ (y >>> 11)
  let y := y ^^^ ((y <<< 7) &&& 0x9D2C5680)
  let y := y ^^^ ((y <<< 15) &&& 0xEFC60000)
  y ^^^ (y >>> 18)

def word : Twister → UInt32 × Twister
  | ⟨words,next⟩ =>
    if next < size then (temper (words[next]?.getD 0),⟨words,next + 1⟩)
    else
      let words := twist words
      (temper (words[0]?.getD 0),⟨words,1⟩)

/-- The number of words, `2 ^ 32`. -/
private def wordRange : Nat := 0x100000000

/-- A number of so many bits, the lowest word first; of the last word the upper bits are taken. -/
def bits : Nat → Twister → Nat × Twister
  | 0, g => (0,g)
  | k + 1, g =>
    let (w,g) := g.word
    if k < 32 then (w.toNat / 2 ^ (31 - k),g)
    else
      let (high,g) := bits (k + 1 - 32) g
      (w.toNat + wordRange * high,g)
termination_by k => k
decreasing_by omega

/-- How often a draw is repeated. Each try fails with a chance of at most one half, so that no
    generator gets that far. -/
private def tries : Nat := 10000

/-- Draws until the number is below the bound, and reduces the last draw when no try is left. -/
private def belowWithin (bound width : Nat) : Nat → Twister → Nat × Twister
  | 0, g =>
    let (r,g) := g.bits width
    (r % bound,g)
  | left + 1, g =>
    let (r,g) := g.bits width
    if r < bound then (r,g) else belowWithin bound width left g

def below (bound : Nat) (g : Twister) : Nat × Twister := belowWithin bound (bound.log2 + 1) tries g

private theorem lt_belowWithin {bound : Nat} (pos : 0 < bound) (width left : Nat) (g : Twister) :
    (belowWithin bound width left g).1 < bound := by
  induction left generalizing g with
  | zero => exact Nat.mod_lt _ pos
  | succ left ih =>
    rw [belowWithin]
    split
    rename_i r g' drawn
    by_cases low : r < bound
    · simp [low]
    · simpa [low] using ih g'

theorem lt_below {bound : Nat} (pos : 0 < bound) (g : Twister) : (g.below bound).1 < bound :=
  lt_belowWithin pos _ _ g

/-- A fraction with 53 bits: 27 bits of one word above 26 of the next. -/
private def fraction {ρ : Type} [Quantity ρ] (g : Twister) : ρ × Twister :=
  let (a,g) := g.word
  let (b,g) := g.word
  (Quantity.ratio (((a >>> 5).toNat * 0x4000000 + (b >>> 6).toNat : Nat) : Int) 0x20000000000000,g)

/-- The four bytes of a word, the lowest first. -/
def wordBytes (w : UInt32) : Bytes := [w.toUInt8,(w >>> 8).toUInt8,(w >>> 16).toUInt8,(w >>> 24).toUInt8]

/-- Random bytes, four to a word; of the last word the upper ones are taken. -/
def bytes : Nat → Twister → Bytes × Twister
  | 0, g => ([],g)
  | k + 1, g =>
    let (w,g) := g.word
    if k < 4 then ((wordBytes w).drop (3 - k),g)
    else
      let (rest,g) := bytes (k + 1 - 4) g
      (wordBytes w ++ rest,g)
termination_by k => k
decreasing_by omega

/-- An integer in a range. Nothing is drawn for an empty one. -/
def between {ρ : Type} (low high : Int) (g : Twister) : Except (Failure ρ) (Amount ρ) × Twister :=
  if high < low then (.error (.emptyInterval low high),g)
  else
    let (r,g) := g.below (high - low + 1).toNat
    (.ok (.whole (low + r)),g)

/-- A twister answers every request that can be answered. -/
instance {ρ : Type} [Quantity ρ] : Source ρ Twister where
  absent _ := false
  between := between
  fraction g := let (x,g) : ρ × Twister := g.fraction; (.ok x,g)
  bytes size g := let (bs,g) := g.bytes size; (.ok bs,g)

end Twister

end Fuzzing

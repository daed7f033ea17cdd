import Fuzzing.Bytes

/-!
The digests SHA-256, by which inputs are told apart, and SHA-512, by which texts become seeds. Both are one
construction on words of different widths. Its constants are the digits behind the point of roots of the first
primes and are computed as such.
-/
namespace Fuzzing.Digest

private def primesBelow (bound : Nat) : List Nat :=
  ((List.range bound).drop 2).filter fun n => ((List.range n).drop 2).all fun d => n % d != 0

/-- The greatest number whose power is not above another number, found bit by bit from so many bits on. -/
private def root (power : Nat → Nat) (n : Nat) : Nat → Nat → Nat
  | 0, found => found
  | bit + 1, found =>
    let larger := found + (1 <<< bit)
    root power n bit (if power larger ≤ n then larger else found)

/-- The first binary digits behind the point of the square root of a prime. The shift makes the root a whole
    number with as many more digits. -/
private def squareRootDigits (width prime : Nat) : BitVec width :=
  .ofNat width (root (fun r => r * r) (prime <<< (2 * width)) (width + 4) 0)

/-- The first binary digits behind the point of the cube root of a prime. -/
private def cubeRootDigits (width prime : Nat) : BitVec width :=
  .ofNat width (root (fun r => r * r * r) (prime <<< (3 * width)) (width + 4) 0)

/-- What tells the digests apart. Three bits stand for the ways in which a word is moved before its copies are
    added up bit by bit. -/
structure Variant where
  /-- The bits of a word. -/
  width : Nat
  /-- The words that a digest starts with. -/
  initial : List (BitVec width)
  /-- The words of the rounds. -/
  roundWords : List (BitVec width)
  spread : Nat × Nat × Nat
  mixed : Nat × Nat × Nat
  near : Nat × Nat × Nat
  far : Nat × Nat × Nat

/-- SHA-256: words of thirty-two bits, sixty-four rounds. -/
def short : Variant where
  width := 32
  initial := ((primesBelow 20).take 8).map (squareRootDigits 32)
  roundWords := ((primesBelow 312).take 64).map (cubeRootDigits 32)
  spread := (6,11,25)
  mixed := (2,13,22)
  near := (7,18,3)
  far := (17,19,10)

/-- SHA-512: words of sixty-four bits, eighty rounds. -/
private def long : Variant where
  width := 64
  initial := ((primesBelow 20).take 8).map (squareRootDigits 64)
  roundWords := ((primesBelow 410).take 80).map (cubeRootDigits 64)
  spread := (14,18,41)
  mixed := (28,34,39)
  near := (1,8,7)
  far := (19,61,6)

/-- The word whose highest byte comes first. -/
private def ofBigEndian (width : Nat) (data : Bytes) : BitVec width :=
  data.foldl (fun w b => (w <<< 8) ||| .ofNat width b.toNat) 0

/-- The bytes of a word, the highest first. -/
private def toBigEndian {width : Nat} (w : BitVec width) : Bytes :=
  (List.range (width / 8)).reverse.map fun i => UInt8.ofNat (w >>> (8 * i)).toNat

private def words (width : Nat) : Nat → Bytes → List (BitVec width)
  | 0, _ => []
  | count + 1, data => ofBigEndian width (data.take (width / 8)) :: words width count (data.drop (width / 8))

/-- Three rotations of a word, added up. -/
private def turned {width : Nat} (steps : Nat × Nat × Nat) (w : BitVec width) : BitVec width :=
  w.rotateRight steps.1 ^^^ w.rotateRight steps.2.1 ^^^ w.rotateRight steps.2.2

/-- Two rotations and a shift of a word, added up. -/
private def moved {width : Nat} (steps : Nat × Nat × Nat) (w : BitVec width) : BitVec width :=
  w.rotateRight steps.1 ^^^ w.rotateRight steps.2.1 ^^^ (w >>> steps.2.2)

/-- The working words of a digest. -/
structure State (width : Nat) where
  a : BitVec width
  b : BitVec width
  c : BitVec width
  d : BitVec width
  e : BitVec width
  f : BitVec width
  g : BitVec width
  h : BitVec width

namespace State

variable {width : Nat}

private def toList (s : State width) : List (BitVec width) := [s.a,s.b,s.c,s.d,s.e,s.f,s.g,s.h]

def ofList (ws : List (BitVec width)) : State width :=
  let word (i : Nat) : BitVec width := ws.getD i 0
  ⟨word 0,word 1,word 2,word 3,word 4,word 5,word 6,word 7⟩

end State

namespace Variant

/-- One round, with a word of its own and one of the message. -/
private def next (v : Variant) (s : State v.width) (own message : BitVec v.width) : State v.width :=
  let chosen := (s.e &&& s.f) ^^^ (~~~s.e &&& s.g)
  let carried := s.h + turned v.spread s.e + chosen + own + message
  let most := (s.a &&& s.b) ^^^ (s.a &&& s.c) ^^^ (s.b &&& s.c)
  ⟨carried + turned v.mixed s.a + most,s.a,s.b,s.c,s.d + carried,s.e,s.f,s.g⟩

/-- The word of the message that follows sixteen others. -/
private def following (v : Variant) (window : List (BitVec v.width)) : BitVec v.width :=
  let word (i : Nat) : BitVec v.width := window.getD i 0
  word 0 + moved v.near (word 1) + word 9 + moved v.far (word 14)

/-- Runs rounds. Of the message, the next sixteen words are at hand. -/
private def rounds (v : Variant) (s : State v.width) (window : List (BitVec v.width)) :
    List (BitVec v.width) → State v.width
  | [] => s
  | own :: rest => v.rounds (v.next s own (window.getD 0 0)) (window.drop 1 ++ [v.following window]) rest

private def absorb (v : Variant) (ws block : List (BitVec v.width)) : List (BitVec v.width) :=
  (ws.zip (v.rounds (.ofList ws) block v.roundWords).toList).map fun w => w.1 + w.2

private def blockSize (v : Variant) : Nat := 2 * v.width

/-- A message with what makes it fill blocks: a single bit, zeros, and its length in bits as two words. -/
private def padded (v : Variant) (data : Bytes) : Bytes :=
  let room := (data.length + 1 + v.width / 4) % v.blockSize
  let zeros := if room = 0 then 0 else v.blockSize - room
  data ++ [0x80] ++ List.replicate zeros 0 ++ toBigEndian (BitVec.ofNat (2 * v.width) (8 * data.length))

private def blocks (v : Variant) (ws : List (BitVec v.width)) : Nat → Bytes → List (BitVec v.width)
  | 0, _ => ws
  | count + 1, data => v.blocks (v.absorb ws (words v.width 16 data)) count (data.drop v.blockSize)

private def digest (v : Variant) (data : Bytes) : Bytes :=
  let message := v.padded data
  (State.ofList (v.blocks v.initial (message.length / v.blockSize) message)).toList.flatMap toBigEndian

end Variant

/-- The digest of thirty-two bytes. -/
@[irreducible] def sha256 (data : Bytes) : Bytes := short.digest data

/-- The digest of sixty-four bytes. -/
@[irreducible] def sha512 (data : Bytes) : Bytes := long.digest data

end Fuzzing.Digest

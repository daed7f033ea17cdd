/-!
Texts as sequences of codes. A code is that of a character, or a half of a pair of sixteen-bit units that
stands alone. Strings hold characters only, so a half is kept as a private character in its place, and a
private character that stands for itself has a mark in front. Lengths, order and spelling of texts are those of their
codes. A byte that is part of no character stands in a text as a half with the same lower digits.
-/
namespace Fuzzing

-- Powers of naturals are those of the core library, whatever else is imported.
attribute [scoped instance (high)] instPowNat

namespace Text

def isHalf (code : Nat) : Bool := 0xD800 ≤ code && code < 0xE000

/-- Whether a code is the first half of a pair. -/
def isHighHalf (code : Nat) : Bool := 0xD800 ≤ code && code < 0xDC00

/-- Whether a code is the second half of a pair. -/
def isLowHalf (code : Nat) : Bool := 0xDC00 ≤ code && code < 0xE000

/-- The code of a pair of halves. -/
def ofHalves (high low : Nat) : Nat := 0x10000 + (high - 0xD800) * 1024 + (low - 0xDC00)

/-- How far the characters in the place of halves lie behind them. -/
private def standInDistance : Nat := 0xED000

/-- The private character in front of one that stands for itself. -/
private def mark : Char := Char.ofNat 0xFA7FF

/-- Whether a code is that of the mark or of a character in the place of a half. -/
private def isReserved (code : Nat) : Bool := 0xFA7FF ≤ code && code < 0xFB000

/-- The characters of a code. -/
def ofCode (code : Nat) : List Char :=
  if isHalf code then [Char.ofNat (code + standInDistance)]
  else if isReserved code then [mark,Char.ofNat code]
  else [Char.ofNat code]

/-- The code of a character without a mark. -/
private def codeOf (c : Char) : Nat := if isReserved c.toNat then c.toNat - standInDistance else c.toNat

private def codesOf : List Char → List Nat
  | [] => []
  | [c] => [codeOf c]
  | c :: d :: rest => if c = mark then d.toNat :: codesOf rest else codeOf c :: codesOf (d :: rest)

def codes (s : String) : List Nat := codesOf s.toList

def ofCodes (cs : List Nat) : String := String.ofList (cs.flatMap ofCode)

/-- The text of a string in which every character stands for itself. -/
def ofPlain (s : String) : String := ofCodes (s.toList.map Char.toNat)

def letters (s : String) : List String := (codes s).map fun c => ofCodes [c]

/-- Whether a text has no half without its other one. -/
def isWhole (s : String) : Bool := (codes s).all fun c => !isHalf c

def length (s : String) : Nat := (codes s).length

/-- Whether codes come before others, or are the same: the first difference decides. -/
private def precedes : List Nat → List Nat → Bool
  | [], _ => true
  | _ :: _, [] => false
  | c :: rest, d :: others => c < d || (c == d && precedes rest others)

/-- Whether a text comes before another one, or is the same, in the order of codes. -/
def le (a b : String) : Bool := precedes (codes a) (codes b)

/-- Texts in the order of their codes, each once. -/
def sorted (names : List String) : List String := names.eraseDups.mergeSort le

/-- Hexadecimal digits, filled up with zeros to a width. -/
def hexDigits (width n : Nat) : List Char :=
  let digits := Nat.toDigits 16 n
  List.replicate (width - digits.length) '0' ++ digits

/-- The value of a hexadecimal digit. -/
def hexDigit? (c : Char) : Option Nat :=
  if '0' ≤ c ∧ c ≤ '9' then some (c.toNat - 48)
  else if 'a' ≤ c ∧ c ≤ 'f' then some (c.toNat - 87)
  else if 'A' ≤ c ∧ c ≤ 'F' then some (c.toNat - 55)
  else none

/-- The byte that a half stands for. -/
def octet? (code : Nat) : Option Nat := if 0xDC80 ≤ code && code ≤ 0xDCFF then some (code - 0xDC00) else none

/-- What the first byte of a character says about the others. -/
structure Opening where
  /-- How many bytes follow. -/
  following : Nat
  /-- The least next byte. -/
  low : Nat
  /-- The greatest next byte. -/
  high : Nat
  /-- The uppermost bits of the code. -/
  bits : Nat

/-- What a first byte says. The bounds keep out longer forms than needed, halves, and codes that no character has. -/
private def opening? (first : Nat) : Option Opening :=
  if 0xC2 ≤ first && first ≤ 0xDF then some ⟨1,0x80,0xBF,first - 0xC0⟩
  else if first = 0xE0 then some ⟨2,0xA0,0xBF,0⟩
  else if first = 0xED then some ⟨2,0x80,0x9F,0xD⟩
  else if 0xE1 ≤ first && first ≤ 0xEF then some ⟨2,0x80,0xBF,first - 0xE0⟩
  else if first = 0xF0 then some ⟨3,0x90,0xBF,0⟩
  else if 0xF1 ≤ first && first ≤ 0xF3 then some ⟨3,0x80,0xBF,first - 0xF0⟩
  else if first = 0xF4 then some ⟨3,0x80,0x8F,4⟩
  else none

/-- The code of the character that begins with a byte, and the number of bytes that follow. -/
private def character? (first : Nat) (behind : List Nat) : Option (Nat × Nat) := do
  let opening ← opening? first
  let following := (behind.take opening.following).filterMap octet?
  let next ← following.head?
  let complete := following.length = opening.following && opening.low ≤ next && next ≤ opening.high &&
    following.all (· ≤ 0xBF)
  if complete then some (following.foldl (fun n b => n * 64 + (b - 0x80)) opening.bits,opening.following) else none

/-- Puts characters in the place of the halves that make them up. The first argument counts the codes that are still
    to be passed over. -/
def rejoined : Nat → List Nat → List Nat
  | _, [] => []
  | passed + 1, _ :: rest => rejoined passed rest
  | 0, c :: rest =>
    match (octet? c).bind fun first => character? first rest with
    | some (code,following) => code :: rejoined following rest
    | none => c :: rejoined 0 rest

/-- Blanks of any script. -/
def isBlank (c : Char) : Bool :=
  let n := c.toNat
  (9 ≤ n && n ≤ 13) || n = 0x20 || n = 0x85 || n = 0xA0 || n = 0x1680 || (0x2000 ≤ n && n ≤ 0x200A) ||
    n = 0x2028 || n = 0x2029 || n = 0x202F || n = 0x205F || n = 0x3000

def trimmed (cs : List Char) : List Char := ((cs.dropWhile isBlank).reverse.dropWhile isBlank).reverse

/-- The zeros of all scripts. -/
private def zeros : List Nat :=
  [48,1632,1776,1984,2406,2534,2662,2790,2918,3046,3174,3302,3430,3558,3664,3792,3872,4160,4240,6112,6160,
   6470,6608,6784,6800,6992,7088,7232,7248,42528,43216,43264,43472,43504,43600,44016,65296,66720,68912,
   69734,69872,69942,70096,70384,70736,70864,71248,71360,71472,71904,72016,72784,73040,73120,92768,92864,
   93008,120782,120792,120802,120812,120822,123200,123632,125264,130032]

/-- The common digit in the place of a digit of any script. Other characters stay as they are. -/
def plainDigit (c : Char) : Char :=
  match zeros.find? fun first => first ≤ c.toNat && c.toNat < first + 10 with
  | some first => Char.ofNat (48 + (c.toNat - first))
  | none => c

end Text

end Fuzzing

import Fuzzing.Document

/-!
Reading structured values from their JSON text. A number without point and exponent is
whole, any other is rounded once to a double. The reader takes one step of its fuel per
nested value, and the length of the text is fuel enough. Containers inside of containers are
read up to a fixed depth. Texts stand for codes, so that a half of a character can be read.
-/
namespace Fuzzing.Document

open Decimal (digits? digitsValue fractionDigits exponent?)

/-- Why a text cannot be read. -/
inductive Unreadable where
  | malformed
  | tooManyLists
  | tooManyRecords
  deriving DecidableEq, Repr

/-- What a reader takes from the head of a text, and what follows. -/
abbrev Reading (α : Type) := Except Unreadable (α × List Char)

private def skipBlanks (cs : List Char) : List Char :=
  cs.dropWhile fun c => c = ' ' || c = '\t' || c = '\n' || c = '\r'

/-- The code of the character that a short escape stands for. -/
private def escaped? (c : Char) : Option Nat :=
  match c with
  | '"' => some 34
  | '\\' => some 92
  | '/' => some 47
  | 'b' => some 8
  | 'f' => some 12
  | 'n' => some 10
  | 'r' => some 13
  | 't' => some 9
  | _ => none

/-- Characters with those of a further code behind them, the last one first. -/
private def pushed (code : Nat) (seen : List Char) : List Char := (Text.ofCode code).reverse ++ seen

/-- Characters with those of a half behind them, where an escape has left one open. -/
private def closed (seen : List Char) : Option Nat → List Char
  | none => seen
  | some half => pushed half seen

/-- The characters of a string up to its closing quote, and the text behind it. The characters before
    those are given, the last one first, and the half that the last escape has left open. Two escapes
    in a row make one character of a pair of halves. -/
private def stringChars : Option Nat → List Char → List Char → Reading (List Char)
  | _, _, [] => .error .malformed
  | half, seen, '"' :: rest => .ok ((closed seen half).reverse,rest)
  | half, seen, '\\' :: 'u' :: a :: b :: c :: d :: rest =>
    match Text.hexDigit? a, Text.hexDigit? b, Text.hexDigit? c, Text.hexDigit? d with
    | some w, some x, some y, some z =>
      let unit := ((w * 16 + x) * 16 + y) * 16 + z
      match half with
      | some high =>
        if Text.isLowHalf unit then stringChars none (pushed (Text.ofHalves high unit) seen) rest
        else if Text.isHighHalf unit then stringChars (some unit) (pushed high seen) rest
        else stringChars none (pushed unit (pushed high seen)) rest
      | none =>
        if Text.isHighHalf unit then stringChars (some unit) seen rest else stringChars none (pushed unit seen) rest
    | _, _, _, _ => .error .malformed
  | half, seen, '\\' :: c :: rest =>
    match escaped? c with
    | some code => stringChars none (Char.ofNat code :: closed seen half) rest
    | none => .error .malformed
  | half, seen, c :: rest =>
    if c.toNat < 32 then .error .malformed else stringChars none (c :: closed seen half) rest

private def string (cs : List Char) : Reading String :=
  (stringChars none [] cs).map fun (chars,rest) => (String.ofList chars,rest)

/-- The most digits of an integer. -/
private def longestInteger : Nat := 4300

/-- A number: no superfluous leading zero, whole unless it has a point or an exponent. -/
def number (cs : List Char) : Reading (Document Float) :=
  let (negative,body) := match cs with
    | '-' :: r => (true,r)
    | r => (false,r)
  let leading := match body with
    | '0' :: rest => some (['0'],rest)
    | r => digits? r
  match leading with
  | none => .error .malformed
  | some (ds,rest) =>
    let (places,rest) := fractionDigits rest
    let (power,rest) := exponent? rest
    match places, power with
    | [], none =>
      if longestInteger < ds.length then .error .malformed
      else .ok (whole (if negative then -(digitsValue ds : Int) else (digitsValue ds : Int)),rest)
    | _, _ =>
      let scale : Int := power.getD 0 - (places.length : Int)
      .ok (real (Decimal.ofDecimal negative (digitsValue (ds ++ places)) scale),rest)

private def literal (word : List Char) (value : Document Float) (cs : List Char) : Reading (Document Float) :=
  if cs.take word.length = word then .ok (value,cs.drop word.length) else .error .malformed

mutual

/-- A value at the head of a text, blanks before it skipped. The depth is that of the containers that
    may still be opened. -/
def value : Nat → Nat → List Char → Reading (Document Float)
  | 0, _, _ => .error .malformed
  | fuel + 1, depth, cs =>
    match skipBlanks cs with
    | [] => .error .malformed
    | '{' :: rest =>
      if depth = 0 then .error .tooManyRecords
      else
        match skipBlanks rest with
        | '}' :: rest => .ok (record [],rest)
        | _ => members fuel (depth - 1) [] rest
    | '[' :: rest =>
      if depth = 0 then .error .tooManyLists
      else
        match skipBlanks rest with
        | ']' :: rest => .ok (list [],rest)
        | _ => items fuel (depth - 1) [] rest
    | '"' :: rest => (string rest).map fun (s,rest) => (text s,rest)
    | 't' :: rest => literal ['t','r','u','e'] (bool true) ('t' :: rest)
    | 'f' :: rest => literal ['f','a','l','s','e'] (bool false) ('f' :: rest)
    | 'n' :: rest => literal ['n','u','l','l'] null ('n' :: rest)
    | 'N' :: rest => literal ['N','a','N'] (real (0.0 / 0.0)) ('N' :: rest)
    | 'I' :: rest => literal "Infinity".toList (real (1.0 / 0.0)) ('I' :: rest)
    | '-' :: 'I' :: rest => literal "-Infinity".toList (real (-1.0 / 0.0)) ('-' :: 'I' :: rest)
    | cs => number cs

/-- The items of a list behind its first bracket, or behind a comma. -/
def items : Nat → Nat → List (Document Float) → List Char → Reading (Document Float)
  | 0, _, _, _ => .error .malformed
  | fuel + 1, depth, seen, cs =>
    match value fuel depth cs with
    | .error why => .error why
    | .ok (item,rest) =>
      match skipBlanks rest with
      | ',' :: rest => items fuel depth (item :: seen) rest
      | ']' :: rest => .ok (list (item :: seen).reverse,rest)
      | _ => .error .malformed

/-- The members of a record behind its first brace, or behind a comma. A later member replaces an
    earlier one of the same name. -/
private def members : Nat → Nat → Fields Float → List Char → Reading (Document Float)
  | 0, _, _, _ => .error .malformed
  | fuel + 1, depth, seen, cs =>
    match skipBlanks cs with
    | '"' :: rest =>
      match string rest with
      | .error why => .error why
      | .ok (name,rest) =>
        match skipBlanks rest with
        | ':' :: rest =>
          match value fuel depth rest with
          | .error why => .error why
          | .ok (item,rest) =>
            match skipBlanks rest with
            | ',' :: rest => members fuel depth (Table.put name item seen) rest
            | '}' :: rest => .ok (record (Table.put name item seen),rest)
            | _ => .error .malformed
        | _ => .error .malformed
    | _ => .error .malformed

end

/-- The most containers around a value. -/
private def deepest : Nat := 983

/-- Reads one value that fills the whole text, with at most so many containers around another. -/
def readWithin (depth : Nat) (source : String) : Except Unreadable (Document Float) := do
  let cs := source.toList
  let (d,rest) ← value (cs.length + 1) depth cs
  if (skipBlanks rest).isEmpty then pure d else .error .malformed

def read (source : String) : Except Unreadable (Document Float) := readWithin deepest source

end Fuzzing.Document

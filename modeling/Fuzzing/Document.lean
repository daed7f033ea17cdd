import Fuzzing.Decimal
import Fuzzing.Text.Unicode

/-!
Structured values: what an error carries as context, what a log record holds and what
a settings source provides. Numbers keep apart whether they are whole or fractional, and
the fields of a record keep their order. Values are written as texts for people, and as JSON.
-/
namespace Fuzzing

/-- A structured value over a type of fractional numbers. -/
inductive Document (ρ : Type) where
  | null
  | bool (b : Bool)
  | whole (n : Int)
  | real (x : ρ)
  | text (s : String)
  | list (items : List (Document ρ))
  | record (fields : List (String × Document ρ))
  deriving Inhabited

abbrev Fields (ρ : Type) := List (String × Document ρ)

namespace Table

variable {κ α : Type} [BEq κ]

def get? (key : κ) : List (κ × α) → Option α
  | [] => none
  | (k,v) :: rest => if k == key then some v else get? key rest

/-- Puts a value under a key: a known key keeps its place and its spelling, a new one goes to the end. -/
def put (key : κ) (value : α) : List (κ × α) → List (κ × α)
  | [] => [(key,value)]
  | (k,v) :: rest => if k == key then (k,value) :: rest else (k,v) :: put key value rest

/-- Puts every entry of the second table into the first, in order. -/
def putAll (table entries : List (κ × α)) : List (κ × α) :=
  entries.foldl (fun t e => put e.1 e.2 t) table

/-- A table from entries in order: the first of a repeated key fixes the place, the last the value. -/
def ofEntries (entries : List (κ × α)) : List (κ × α) := putAll [] entries

@[simp] theorem get?_put_self [EquivBEq κ] (key : κ) (value : α) (t : List (κ × α)) :
    get? key (put key value t) = some value := by
  induction t with
  | nil => simp [put,get?]
  | cons e rest ih => by_cases h : e.1 == key <;> simp [put,get?,h,ih]

theorem get?_put_of_ne [EquivBEq κ] {key other : κ} (ne : (key == other) = false) (value : α)
    (t : List (κ × α)) : get? other (put key value t) = get? other t := by
  induction t with
  | nil => simp [put,get?,ne]
  | cons e rest ih =>
    by_cases h : e.1 == key
    · have apart : (e.1 == other) = false := by rw [BEq.congr_left h]; exact ne
      simp [put,get?,h,apart]
    · by_cases same : e.1 == other
      · simp [put,get?,h,same]
      · simp [put,get?,h,same,ih]

end Table

namespace Document

variable {ρ : Type}

/-- The value of a field of a record. -/
def field? (name : String) : Document ρ → Option (Document ρ)
  | record fields => Table.get? name fields
  | _ => none

/-- The name of the form of a value, as complaints give it. -/
def form : Document ρ → String
  | null => "NoneType"
  | bool _ => "bool"
  | whole _ => "int"
  | real _ => "float"
  | text _ => "str"
  | list _ => "list"
  | record _ => "dict"

/-- Whether a condition on the value counts as met: empty, zero and missing values do not. -/
def isTruthy (isZero : ρ → Bool) : Document ρ → Bool
  | null => false
  | bool b => b
  | whole n => n ≠ 0
  | real x => !isZero x
  | text s => s ≠ ""
  | list items => !items.isEmpty
  | record fields => !fields.isEmpty

end Document

/-- A truth value in reports. -/
def truthText (b : Bool) : String := if b then "True" else "False"

namespace Document

mutual

/-- A value inside of another one, texts in quotes. -/
def shown : Document Float → String
  | .null => "None"
  | .bool b => truthText b
  | .whole n => toString n
  | .real x => Decimal.Layout.report.write x
  | .text s => Text.quoted s
  | .list items => "[" ++ String.intercalate ", " (shownItems items) ++ "]"
  | .record fields => "\x7b" ++ String.intercalate ", " (shownFields fields) ++ "\x7d"

/-- The values of a list. -/
private def shownItems : List (Document Float) → List String
  | [] => []
  | d :: rest => shown d :: shownItems rest

private def shownFields : List (String × Document Float) → List String
  | [] => []
  | e :: rest => (Text.quoted e.1 ++ ": " ++ shown e.2) :: shownFields rest

end

/-- A value that stands alone. -/
def plain : Document Float → String
  | .text s => s
  | d => shown d

end Document

end Fuzzing

namespace Fuzzing.Document

/-- The escape of a code unit of sixteen bits. -/
private def unitEscape (unit : Nat) : List Char := '\\' :: 'u' :: Text.hexDigits 4 unit

/-- A code inside of quotes: escaped unless it is printable ASCII, and as a pair of halves where sixteen
    bits do not hold it. A half that stands alone is written as it is. -/
private def escape (code : Nat) : List Char :=
  match code with
  | 34 => ['\\','"']
  | 92 => ['\\','\\']
  | 10 => ['\\','n']
  | 13 => ['\\','r']
  | 9 => ['\\','t']
  | 8 => ['\\','b']
  | 12 => ['\\','f']
  | n =>
    if 32 ≤ n ∧ n < 127 then [Char.ofNat n]
    else if n < 0x10000 then unitEscape n
    else unitEscape (0xD800 + (n - 0x10000) / 1024) ++ unitEscape (0xDC00 + (n - 0x10000) % 1024)

private def quoted (s : String) : String := "\"" ++ String.ofList ((Text.codes s).flatMap escape) ++ "\""

variable {ρ : Type}

mutual

/-- Writes a value behind a text. -/
private def writeAfter (number : ρ → String) (before : String) : Document ρ → String
  | .null => before ++ "null"
  | .bool b => before ++ (if b then "true" else "false")
  | .whole n => before ++ toString n
  | .real x => before ++ number x
  | .text s => before ++ quoted s
  | .list items => writeItems number (before ++ "[") "" items ++ "]"
  | .record fields => writeFields number (before ++ "\x7b") "" fields ++ "\x7d"

/-- Writes the values of a list behind a text, the first one after the given separator. -/
private def writeItems (number : ρ → String) (before separator : String) : List (Document ρ) → String
  | [] => before
  | d :: rest => writeItems number (writeAfter number (before ++ separator) d) ", " rest

/-- Writes the fields of a record behind a text, the first one after the given separator. -/
private def writeFields (number : ρ → String) (before separator : String) : List (String × Document ρ) → String
  | [] => before
  | (name,d) :: rest =>
    writeFields number (writeAfter number (before ++ separator ++ quoted name ++ ": ") d) ", " rest

end

def write (number : ρ → String) (d : Document ρ) : String := writeAfter number "" d

end Fuzzing.Document

import Fuzzing.Action

/-!
The settings of the fuzzer in four sections: how mutators are selected, how far a mutation
may go, how a campaign runs, and how it is logged. A given value becomes the value of a field where nothing is lost:
whole numbers may be written as fractions or as text, truth values as words. An integer is first read as it stands;
only where that fails is its text tidied and read once more.
-/
namespace Fuzzing

/-- How far mutations may go. -/
structure MutationLimits where
  /-- The most mutations that the uniform engine stacks on one seed. -/
  maxMutations : Int
  /-- The size from which on values are written over a buffer instead of inserted. -/
  maxInsertGrowth : Int

/-- Five mutations on one seed, ten thousand bytes. -/
def MutationLimits.standard : MutationLimits := ⟨5,10000⟩

/-- How a campaign runs. -/
structure CampaignPolicy (ρ : Type) where
  iterations : Int
  /-- The seed of the source of randomness; zero asks for a fresh one. -/
  seed : Int
  /-- The chance that an input is a mutated seed rather than fresh bytes. -/
  corpusProbability : ρ
  timeout : Int
  reportInterval : Int
  /-- Fresh inputs are shorter than this. -/
  maxInputSize : Int
  guided : Bool

/-- A thousand iterations with the guided engine. -/
def CampaignPolicy.standard {ρ : Type} [Quantity ρ] : CampaignPolicy ρ :=
  { iterations := 1000, seed := 0, corpusProbability := 0.8, timeout := 5000, reportInterval := 100
    maxInputSize := 10240, guided := true }

/-- How events are logged. -/
structure LoggingPolicy where
  level : Level
  format : String

def LoggingPolicy.standard : LoggingPolicy := ⟨.info,"json"⟩

/-- All settings. -/
structure Settings (ρ : Type) where
  appName : String
  appVersion : String
  selection : SelectionPolicy ρ
  mutation : MutationLimits
  campaign : CampaignPolicy ρ
  logging : LoggingPolicy

/-- The settings where nothing else is asked for. -/
def Settings.standard {ρ : Type} [Quantity ρ] : Settings ρ :=
  ⟨"IO-Fuzzer","1.0.0",.standard,.standard,.standard,.standard⟩

def Level.text : Level → String
  | .debug => "DEBUG"
  | .info => "INFO"
  | .warning => "WARNING"
  | .error => "ERROR"
  | .critical => "CRITICAL"

def Level.all : List Level := [.debug,.info,.warning,.error,.critical]

def SelectionPolicy.fields {ρ : Type} (p : SelectionPolicy ρ) : Fields ρ :=
  [("min_executions_for_stats",.whole p.threshold),("coverage_weight",.real p.coverageWeight),
   ("crash_weight",.real p.crashWeight),("speed_weight",.real p.speedWeight),("min_score",.real p.floor)]

def MutationLimits.fields {ρ : Type} (l : MutationLimits) : Fields ρ :=
  [("max_mutations",.whole l.maxMutations),("max_insert_growth",.whole l.maxInsertGrowth)]

def CampaignPolicy.fields {ρ : Type} (p : CampaignPolicy ρ) : Fields ρ :=
  [("iterations",.whole p.iterations),("seed",.whole p.seed),
   ("corpus_selection_probability",.real p.corpusProbability),("timeout_ms",.whole p.timeout),
   ("report_interval",.whole p.reportInterval),("max_input_size",.whole p.maxInputSize),("guided",.bool p.guided)]

def LoggingPolicy.fields {ρ : Type} (p : LoggingPolicy) : Fields ρ :=
  [("log_level",.text p.level.text),("log_format",.text p.format)]

def Settings.fields {ρ : Type} (s : Settings ρ) : Fields ρ :=
  [("app_name",.text s.appName),("app_version",.text s.appVersion),("selection",.record s.selection.fields),
   ("mutation",.record s.mutation.fields),("loop",.record s.campaign.fields),("logging",.record s.logging.fields)]

def Settings.summary (s : Settings Float) : String :=
  let number := Decimal.Layout.report.write
  String.intercalate "\n"
    ["","IO-Fuzzer Configuration","=======================","Version: " ++ s.appVersion,"",
     "Selection:",
     "  - Bootstrap Threshold: " ++ toString s.selection.threshold,
     "  - Weights (coverage/crash/speed): " ++ number s.selection.coverageWeight ++ "/" ++
       number s.selection.crashWeight ++ "/" ++ number s.selection.speedWeight,
     "  - Score Floor: " ++ number s.selection.floor,"",
     "Mutation:",
     "  - Max Mutations: " ++ toString s.mutation.maxMutations,
     "  - Max Insert Growth: " ++ toString s.mutation.maxInsertGrowth ++ " bytes","",
     "Loop:",
     "  - Iterations: " ++ toString s.campaign.iterations,
     "  - Seed: " ++ toString s.campaign.seed,
     "  - Guided: " ++ truthText s.campaign.guided,
     "  - Timeout: " ++ toString s.campaign.timeout ++ " ms","",
     "Logging:",
     "  - Level: " ++ s.logging.level.text,
     "  - Format: " ++ s.logging.format,""]

end Fuzzing

namespace Fuzzing.Settings

/-- Why a given value is not accepted. -/
inductive Fault where
  | notAnInteger
  | integerText
  | integerSize
  | fractionalInteger
  | notFinite
  | notANumber
  | numberText
  | notATruthValue
  | truthText
  | notAText
  | brokenText
  | notALevel
  | notAmong
  | notASection
  | tooSmall
  | notAbove
  | tooLarge
  | unknownField
  | inconsistent
  deriving DecidableEq, Repr

def Fault.text : Fault → String
  | .notAnInteger => "int_type"
  | .integerText => "int_parsing"
  | .integerSize => "int_parsing_size"
  | .fractionalInteger => "int_from_float"
  | .notFinite => "finite_number"
  | .notANumber => "float_type"
  | .numberText => "float_parsing"
  | .notATruthValue => "bool_type"
  | .truthText => "bool_parsing"
  | .notAText => "string_type"
  | .brokenText => "string_unicode"
  | .notALevel => "enum"
  | .notAmong => "literal_error"
  | .notASection => "model_type"
  | .tooSmall => "greater_than_equal"
  | .notAbove => "greater_than"
  | .tooLarge => "less_than_equal"
  | .unknownField => "extra_forbidden"
  | .inconsistent => "value_error"

/-- A refused value and its place. -/
structure Complaint where
  path : List String
  fault : Fault
  deriving DecidableEq, Repr

/-- Whether a text does not end in an underscore and has no two in a row. -/
private def endsGroups : List Char → Bool
  | [] => true
  | ['_'] => false
  | '_' :: '_' :: _ => false
  | _ :: rest => endsGroups rest

/-- Whether the underscores of a text are single ones with something on both sides. -/
private def isGrouped (cs : List Char) : Bool := cs.head? != some '_' && endsGroups cs

/-- Leaves the underscores out. -/
private def ungrouped (cs : List Char) : List Char := cs.filter (· != '_')

private def longestInteger : Nat := 4300

/-- Takes a minus from the head of a text; whether there was one. -/
private def minus : List Char → Bool × List Char
  | '-' :: rest => (true,rest)
  | cs => (false,cs)

/-- The whole text of an integer: perhaps a minus, then digits without a superfluous zero. -/
private def plainInteger (cs : List Char) : Except Fault Int :=
  let (negative,body) := minus cs
  let digits := body.takeWhile Char.isDigit
  let isWhole := (body.dropWhile Char.isDigit).isEmpty
  if digits.head? = some '0' then if isWhole && digits.length = 1 then .ok 0 else .error .integerText
  else if longestInteger < digits.length then .error .integerSize
  else if isWhole && !digits.isEmpty then
    let magnitude : Int := Decimal.digitsValue digits
    .ok (if negative then -magnitude else magnitude)
  else .error .integerText

/-- What follows the zeros and underscores behind a leading zero: a digit, a minus, or a point, before
    which the last one skipped stays. -/
private def behindZeros? (last : Char) : List Char → Option (List Char)
  | [] => some [last]
  | c :: rest =>
    if c = '0' || c = '_' then behindZeros? c rest
    else if c.isDigit || c = '-' then some (c :: rest)
    else if c = '.' then some (last :: c :: rest)
    else none

/-- Drops the zeros at the head of a text, which has to begin with a digit. -/
private def unpadded? : List Char → Option (List Char)
  | [] => none
  | c :: rest => if c = '0' then behindZeros? c rest else if c.isDigit then some (c :: rest) else none

/-- Drops leading zeros, also behind a minus. -/
private def withoutLeadingZeros? : List Char → Option (List Char)
  | '-' :: rest => (unpadded? rest).map ('-' :: ·)
  | cs => unpadded? cs

/-- Drops a point with nothing but zeros behind it, one at least. -/
private def withoutZeroPlaces (cs : List Char) : List Char :=
  let places := (cs.dropWhile (· != '.')).drop 1
  if !places.isEmpty && places.all (· = '0') then cs.takeWhile (· != '.') else cs

/-- Drops a plus in front, unless a minus follows. -/
private def withoutPlus? : List Char → Option (List Char)
  | '+' :: '-' :: _ => none
  | '+' :: rest => some rest
  | cs => some cs

/-- The text of an integer without what adds nothing. -/
private def tidied? (cs : List Char) : Option (List Char) := do
  let unsigned ← withoutPlus? (Text.trimmed cs)
  let short ← withoutLeadingZeros? unsigned
  let whole := withoutZeroPlaces short
  pure (if isGrouped whole then ungrouped whole else whole)

/-- An integer from its text. Too many digits are a complaint of their own where the text is plain. -/
private def integerOfText (s : String) : Except Fault Int :=
  match plainInteger s.toList with
  | .error .integerText =>
    match (tidied? s.toList).map plainInteger with
    | some (.ok n) => .ok n
    | _ => .error .integerText
  | plain => plain

/-- A number from its text. Blanks may stand around it or underscores inside of it, but not both. -/
def numberOfText (s : String) : Except Fault Float :=
  let cs := s.toList
  match Decimal.ofText? (Text.trimmed cs) with
  | some x => .ok x
  | none =>
    match if isGrouped cs then Decimal.ofText? (ungrouped cs) else none with
    | some x => .ok x
    | none => .error .numberText

/-- The words for yes and no. -/
private def truthWords : List (String × Bool) :=
  [("0",false),("off",false),("f",false),("false",false),("n",false),("no",false),
   ("1",true),("on",true),("t",true),("true",true),("y",true),("yes",true)]

/-- The whole number that a double equals, if it equals one. -/
private def wholeOfFloat? (x : Float) : Option Int :=
  match Decimal.Binary64.ofFloat? x with
  | none => none
  | some exact =>
    if exact.numerator % exact.denominator = 0 then
      let n : Nat := exact.numerator / exact.denominator
      some (if exact.negative then -(n : Int) else (n : Int))
    else none

/-- The bound of integers of 64 bits, `2 ^ 63`. -/
private def wordLimit : Int := 0x8000000000000000

/-- An integer from a double; doubles beyond 64 bits are not taken. -/
private def integerOfFloat (x : Float) : Except Fault Int :=
  if x.isNaN || x.isInf then .error .notFinite
  else
    match wholeOfFloat? x with
    | none => .error .fractionalInteger
    | some n => if -wordLimit < n ∧ n < wordLimit then .ok n else .error .integerSize

/-- Reads a text that has no half of a character. -/
def ofWhole {α : Type} (read : String → Except Fault α) (s : String) : Except Fault α :=
  if Text.isWhole s then read s else .error .brokenText

def asInteger : Document Float → Except Fault Int
  | .whole n => .ok n
  | .bool b => .ok (if b then 1 else 0)
  | .real x => integerOfFloat x
  | .text s => ofWhole integerOfText s
  | _ => .error .notAnInteger

/-- A field with a fractional number. An integer has to lie in the range of doubles. -/
def asNumber : Document Float → Except Fault Float
  | .real x => .ok x
  | .whole n => let x := Decimal.ofInt n; if x.isInf then .error .notANumber else .ok x
  | .bool b => .ok (if b then 1.0 else 0.0)
  | .text s => ofWhole numberOfText s
  | _ => .error .notANumber

private def truthOfInteger (n : Int) : Except Fault Bool :=
  if n = 0 then .ok false else if n = 1 then .ok true else .error .truthText

/-- A truth value from its word, in letters of any size. -/
private def truthOfText (s : String) : Except Fault Bool :=
  match truthWords.lookup (String.ofList (s.toList.map Char.toLower)) with
  | some b => .ok b
  | none => .error .truthText

/-- A field with a truth value. Integers and doubles beyond 64 bits are refused for their type, and
    so are fractions. -/
def asTruth : Document Float → Except Fault Bool
  | .bool b => .ok b
  | .whole n => if -wordLimit ≤ n ∧ n < wordLimit then truthOfInteger n else .error .notATruthValue
  | .real x =>
    match integerOfFloat x with
    | .ok n => truthOfInteger n
    | .error _ => .error .notATruthValue
  | .text s => ofWhole truthOfText s
  | _ => .error .notATruthValue

/-- A field with a text, which is taken as it is. -/
def asText : Document Float → Except Fault String
  | .text s => .ok s
  | _ => .error .notAText

private def levelOfText (s : String) : Except Fault Level :=
  match Level.all.find? fun l => l.text == s with
  | some l => .ok l
  | none => .error .notALevel

def asLevel : Document Float → Except Fault Level
  | .text s => ofWhole levelOfText s
  | _ => .error .notALevel

/-- Refuses an integer below the first bound or above the second. -/
def integerWithin (least : Int) (most : Option Int) (n : Int) : Except Fault Int :=
  if n < least then .error .tooSmall
  else
    match most with
    | some m => if m < n then .error .tooLarge else .ok n
    | none => .ok n

/-- Refuses a number that does not compare as at most the second bound, or as at least the first.
    What is no number compares as neither and is refused for the second. -/
def numberWithin (least most x : Float) : Except Fault Float :=
  if x ≤ most then if least ≤ x then .ok x else .error .tooSmall else .error .tooLarge

/-- Refuses a number that does not compare as at most the second bound, or as above the first. -/
def numberAbove (bound most x : Float) : Except Fault Float :=
  if x ≤ most then if bound < x then .ok x else .error .notAbove else .error .tooLarge

end Fuzzing.Settings

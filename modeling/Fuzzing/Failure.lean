import Fuzzing.Document

/-!
What can go wrong. A `Refusal` is an argument that the library does not accept, a `Failure`
any reason for a computation to end early, refusals among them. `Failure.report?` writes out
what a failure of the library itself carries: a message, a code and a context.
-/
namespace Fuzzing

/-- Why an argument is not accepted. -/
inductive Refusal (ρ : Type) where
  | noRandomness
  | noMutator
  | noMutatorForFeedback
  | negativeLatency (latency : ρ)
  | negativeIncrease (increase : ρ)
  | negativeMutationCount (count : Document ρ)
  | emptySignalName
  | negativeAmount (amount : Document ρ)
  | nothingToMerge
  | noTarget
  | timeoutNotPositive (timeout : Document ρ)
  | noEngine
  | noExecutor
  | negativeIterations (iterations : Document ρ)
  /-- A refusal by code from outside. -/
  | other (name message : String) (details : Fields ρ)

/-- The ways to ask a source of randomness for something. -/
inductive Drawing where
  | within
  | below
  | choice
  | fraction
  | bytes
  deriving DecidableEq, Repr

def Drawing.text : Drawing → String
  | .within => "randint"
  | .below => "randrange"
  | .choice => "choice"
  | .fraction => "random"
  | .bytes => "randbytes"

/-- The kinds of series that members are drawn from. -/
inductive Series where
  | growing
  | fixed
  | letters
  deriving DecidableEq, Repr

def Series.text : Series → String
  | .growing => "list"
  | .fixed => "tuple"
  | .letters => "string"

/-- Why a computation ended early. -/
inductive Failure (ρ : Type) where
  /-- An argument is missing or out of range. -/
  | refused (why : Refusal ρ)
  /-- An engine without mutators was asked to select one. -/
  | noMutators
  /-- The second of two segments to swap does not fit beside the first. -/
  | noSwapRoom (size : Nat) (pos₁ size₁ size₂ : Document ρ)
  /-- A draw of a number below zero ones. -/
  | emptyRange
  /-- A draw from a range whose end lies before its start. -/
  | emptyInterval (low high : Int)
  /-- A choice among no alternatives. -/
  | emptyChoice
  /-- A position outside of a series. -/
  | outOfRange (kind : Series)
  /-- An input that is not there, where it is to be copied. -/
  | missingInput
  /-- An input that is not there, where it is to be changed in place. -/
  | missingBuffer
  /-- A value without a length, where one is needed. -/
  | noLength (form : String)
  /-- A value above 255 where a byte is needed. -/
  | notAByte
  /-- A compact integer below zero. -/
  | negativeInteger
  /-- A serialization mutator without edits. -/
  | noEdits
  /-- A seed from an empty corpus. -/
  | emptyCorpus
  /-- A script of draws that has come to its end. -/
  | scriptExhausted
  /-- An integer beyond the range of doubles. -/
  | integerTooLarge
  /-- A quotient of integers beyond the range of doubles. -/
  | quotientTooLarge
  /-- A division of some kind by zero. -/
  | byZero (division : String)
  /-- A deadline further away than a clock can count. -/
  | deadlineTooFar
  /-- A deadline that is no number. -/
  | deadlineUndefined
  /-- Two values of forms that do not compare. -/
  | notComparable (relation left right : String)
  /-- Two values of forms that an operation does not take together. -/
  | noOperation (operator left right : String)
  /-- A text that a number is to be put into and that has no place for it. -/
  | noPlaceholder
  /-- A value where a text is needed. -/
  | notAText (form : String)
  /-- Halves of characters that stand alone, from a position on, in a text that has to be written as bytes. -/
  | notEncodable (halves : List Nat) (start : Nat)
  /-- The character that ends texts inside of one. -/
  | embeddedEnd
  /-- The sign between name and value in the name of a variable. -/
  | unusableName
  /-- A variable without a name. -/
  | emptyName
  /-- A value where a position is needed. -/
  | notAnIndex (form : String)
  /-- A value where a position in a series is needed. -/
  | notAPosition (series form : String)
  /-- A value where the position of a letter is needed. -/
  | notALetter (form : String)
  /-- A bound of a run of bytes that is no position. -/
  | notABound
  /-- A fractional number where a bound of a range is needed, of the start of which it is told. -/
  | notABorder (isStart : Bool)
  /-- A number without a value where a whole one is needed. -/
  | undefinedWhole
  /-- An infinite number where a whole one is needed. -/
  | infiniteWhole
  /-- A value where the name of a part is needed. -/
  | notAName (form : String)
  /-- A value that has no members to be looked up. -/
  | notSubscriptable (form : String)
  /-- A value where the place of a file is needed. -/
  | notAPath (form : String)
  /-- How far up a file is looked for, where it is no whole number that can be counted up to. -/
  | notADepth
  /-- A value where a JSON text is needed. -/
  | notAJsonText (form : String)
  /-- A part of a list that is no text, where texts are put together. -/
  | notJoined (index : Nat) (form : String)
  /-- A value that is no number and no numeral. -/
  | notANumber (form : String)
  /-- A text that is no numeral. -/
  | notANumeral (shown : String)
  /-- A value that is to be stored as an integer of fixed width and is none. -/
  | notStorable
  /-- A value that no generator can be made from. -/
  | notASeed
  /-- A text with something else where a hexadecimal digit is needed. -/
  | notHexadecimal (pos : Nat)
  /-- A value where a text of hexadecimal digits is needed. -/
  | notDigits (form : String)
  /-- A part of a byte string that is none itself. -/
  | notBytes (index : Nat) (form : String)
  /-- A number of repetitions that is no integer. -/
  | notACount (form : String)
  /-- An entry of a table that has other than two parts. -/
  | notAPair (index length : Nat)
  /-- An entry of a table that has no parts. -/
  | notASequence (index : Nat)
  /-- A value where named values are needed. -/
  | notAMapping (form : String)
  /-- A value that has no parts to go through. -/
  | notIterable (form : String)
  /-- A list or a record where values are looked up or told apart. -/
  | notHashable (form : String)
  /-- A value without a part that is asked for by its name. -/
  | noAttribute (form name : String)
  /-- A name that nothing in a table has. -/
  | noEntry (shown : String)
  /-- A value that cannot be called. -/
  | notCallable (form : String)
  /-- A value where two parts are needed and there are none at all. -/
  | notDivisible (form : String)
  /-- A value with another number of parts than is needed. -/
  | wrongParts (needed given : Nat)
  /-- A value where a text that separates others is needed. -/
  | notASeparator (form : String)
  /-- A count that no memory can hold. -/
  | countTooLarge
  /-- A number of repetitions that no memory can hold. -/
  | indexTooLarge (form : String)
  /-- Repeated bytes that are more than any memory can hold. -/
  | bytesTooLong
  /-- More than the memory at hand can hold. -/
  | noMemory
  /-- A name that no member of a kind has. -/
  | noMember (shown kind : String)
  /-- A name that nothing in a place has. -/
  | notFound (place name : String)
  /-- A threshold of log records under the name of a text. -/
  | textAsThreshold (text : String)
  /-- A threshold of log records under the name of something else. -/
  | valueAsThreshold (shown : String)
  /-- A logger whose name is no text. -/
  | loggerNotText
  /-- A value of a log record under a name that the call itself uses. -/
  | reservedName (call name : String)
  /-- A value that a call needs and is not given. -/
  | missingArgument (call name : String)
  /-- A value under something that is no text and names no argument. -/
  | notANamedArgument
  /-- A value under a name that a call does not know. -/
  | unknownArgument (call name : String)
  /-- A value where a call needs named ones. -/
  | notNamed (call form : String)
  /-- More values without names than a call takes. -/
  | surplusArgument (call : String) (taken : Nat)
  /-- Another value where only one of the same form can be appended. -/
  | notAppendable (series form : String)
  /-- A value that nothing can be looked for in. -/
  | notSearched (form : String)
  /-- Another value where only a text can be looked for. -/
  | notSearchable (form : String)
  /-- A draw where there is no source of randomness. -/
  | noSource (asked : Drawing)
  /-- A failure of code from outside, under its own name. -/
  | foreign (kind message : String)

/-- The families of reported failures. -/
inductive Category where
  | general
  | invalidArgument (name : String)
  | noMutators
  | mutation
  deriving DecidableEq, Repr

/-- What a failure of the library carries. -/
structure Report (ρ : Type) where
  category : Category
  message : String
  code : Option String
  context : Fields ρ

variable {ρ : Type}

/-- The report on an argument: the argument's name opens the context, and details may replace it.
    Without a message of its own, the report has a general one. -/
def Report.ofArgument (name : String) (message : Option String) (details : Fields ρ) : Report ρ :=
  { category := .invalidArgument name
    message := if message.getD "" = "" then "Invalid value for argument '" ++ name ++ "'" else message.getD ""
    code := some "INVALID_ARGUMENT"
    context := Table.putAll [("argument",.text name)] details }

def Category.text : Category → String
  | .general => "FuzzerError"
  | .invalidArgument _ => "InvalidArgumentError"
  | .noMutators => "NoMutatorsRegisteredError"
  | .mutation => "MutationError"

def Report.fields (r : Report ρ) : Fields ρ :=
  [("error",.text r.category.text),("message",.text r.message),
   ("code",(r.code.map Document.text).getD .null),("context",.record r.context)] ++
    match r.category with
    | .invalidArgument name => [("argument",.text name)]
    | _ => []

namespace Refusal

/-- The name of the argument. -/
def name : Refusal ρ → String
  | noRandomness => "rng"
  | noMutator | noMutatorForFeedback => "mutator"
  | negativeLatency _ => "latency_ms"
  | negativeIncrease _ => "coverage_increase"
  | negativeMutationCount _ => "mutation_count"
  | emptySignalName => "signal_name"
  | negativeAmount _ => "amount"
  | nothingToMerge => "other"
  | noTarget => "target"
  | timeoutNotPositive _ => "timeout_ms"
  | noEngine => "engine"
  | noExecutor => "executor"
  | negativeIterations _ => "iterations"
  | other name _ _ => name

/-- What is wrong with the argument. -/
def message : Refusal ρ → String
  | noRandomness => "A randomness source is required"
  | noMutator => "Cannot register None"
  | noMutatorForFeedback => "Feedback requires a mutator"
  | negativeLatency _ => "Latency cannot be negative"
  | negativeIncrease _ => "Coverage increase cannot be negative"
  | negativeMutationCount _ => "Mutation count cannot be negative"
  | emptySignalName => "Signal name must be non-empty"
  | negativeAmount _ => "Hit counts never decrease"
  | nothingToMerge => "Nothing to merge"
  | noTarget => "A target callable is required"
  | timeoutNotPositive _ => "Timeout must be positive"
  | noEngine => "A mutation engine is required"
  | noExecutor => "An executor is required"
  | negativeIterations _ => "Iteration count cannot be negative"
  | other _ message _ => message

/-- The offending value, where there is one. -/
private def details : Refusal ρ → Fields ρ
  | negativeLatency latency => [("latency_ms",.real latency)]
  | negativeIncrease increase => [("coverage_increase",.real increase)]
  | negativeMutationCount count => [("mutation_count",count)]
  | negativeAmount amount => [("amount",amount)]
  | timeoutNotPositive timeout => [("timeout_ms",timeout)]
  | negativeIterations iterations => [("iterations",iterations)]
  | other _ _ details => details
  | _ => []

def report (why : Refusal ρ) : Report ρ := .ofArgument why.name (some why.message) why.details

end Refusal

/-- The parts of a value in order: items, codes, or names of fields. -/
def Document.parts? : Document ρ → Except (Failure ρ) (List (Document ρ))
  | list items => .ok items
  | text s => .ok ((Text.letters s).map text)
  | record fields => .ok (fields.map fun e => text e.1)
  | d => .error (.notIterable d.form)

namespace Failure

/-- A missing value that is compared with zero. -/
def uncomparable (relation : String) : Failure ρ := notComparable relation (Document.null : Document ρ).form "int"

/-- What a failure of the library carries; none for a failure of any other kind. -/
def report? : Failure ρ → Option (Report ρ)
  | refused why => some why.report
  | noMutators => some ⟨.noMutators,"Cannot select a mutator: none registered",some "NO_MUTATORS",[]⟩
  | noSwapRoom size pos₁ size₁ size₂ =>
    some ⟨.mutation,"No room for a second swap segment",some "SWAP_PLACEMENT",
      [("size",.whole size),("pos1",pos₁),("size1",size₁),("size2",size₂)]⟩
  | _ => none

/-- Whether the failure refuses an argument. -/
def isRefusal : Failure ρ → Bool
  | refused _ => true
  | _ => false

def message : Failure ρ → String
  | refused why => why.report.message
  | noMutators => "Cannot select a mutator: none registered"
  | noSwapRoom .. => "No room for a second swap segment"
  | emptyRange => "empty range for randrange()"
  | emptyInterval low high =>
    "empty range for randrange() (" ++ toString low ++ ", " ++ toString (high + 1) ++ ", " ++
      toString (high + 1 - low) ++ ")"
  | emptyChoice => "Cannot choose from an empty sequence"
  | outOfRange kind => kind.text ++ " index out of range"
  | missingInput => "cannot convert 'NoneType' object to bytes"
  | missingBuffer => "cannot convert 'NoneType' object to bytearray"
  | noLength form => "object of type '" ++ form ++ "' has no len()"
  | notAByte => "bytes must be in range(0, 256)"
  | negativeInteger => "compact integers are unsigned"
  | noEdits => "At least one serialization edit is required"
  | emptyCorpus => "Cannot choose from an empty corpus"
  | scriptExhausted => "script exhausted"
  | integerTooLarge => "int too large to convert to float"
  | quotientTooLarge => "integer division result too large for a float"
  | byZero division => division ++ " by zero"
  | deadlineTooFar => "timestamp too large to convert to C _PyTime_t"
  | deadlineUndefined => "Invalid value NaN (not a number)"
  | notComparable relation left right =>
    "'" ++ relation ++ "' not supported between instances of '" ++ left ++ "' and '" ++ right ++ "'"
  | noOperation operator left right =>
    "unsupported operand type(s) for " ++ operator ++ ": '" ++ left ++ "' and '" ++ right ++ "'"
  | noPlaceholder => "not all arguments converted during string formatting"
  | notAText form => "str expected, not " ++ form
  | notEncodable [half] start =>
    "'utf-8' codec can't encode character '\\u" ++ String.ofList (Text.hexDigits 4 half) ++ "' in position " ++
      toString start ++ ": surrogates not allowed"
  | notEncodable halves start =>
    "'utf-8' codec can't encode characters in position " ++ toString start ++ "-" ++
      toString (start + halves.length - 1) ++ ": surrogates not allowed"
  | embeddedEnd => "embedded null byte"
  | unusableName => "illegal environment variable name"
  | emptyName => "[Errno 22] Invalid argument"
  | notAnIndex form => "'" ++ form ++ "' object cannot be interpreted as an integer"
  | notAPosition series form => series ++ " indices must be integers or slices, not " ++ form
  | notALetter form => "string indices must be integers, not '" ++ form ++ "'"
  | notABound => "slice indices must be integers or None or have an __index__ method"
  | notABorder isStart => "non-integer " ++ (if isStart then "arg 1" else "stop") ++ " for randrange()"
  | undefinedWhole => "cannot convert float NaN to integer"
  | infiniteWhole => "cannot convert float infinity to integer"
  | notAName form => "attribute name must be string, not '" ++ form ++ "'"
  | notSubscriptable form => "'" ++ form ++ "' object is not subscriptable"
  | notAPath form => "expected str, bytes or os.PathLike object, not " ++ form
  | notADepth => "Stop argument for islice() must be None or an integer: 0 <= x <= sys.maxsize."
  | notAJsonText form => "the JSON object must be str, bytes or bytearray, not " ++ form
  | notJoined index form => "sequence item " ++ toString index ++ ": expected str instance, " ++ form ++ " found"
  | notANumber form => "float() argument must be a string or a real number, not '" ++ form ++ "'"
  | notANumeral shown => "could not convert string to float: " ++ shown
  | notStorable => "required argument is not an integer"
  | notASeed => "The only supported seed types are: None,\nint, float, str, bytes, and bytearray."
  | notHexadecimal pos => "non-hexadecimal number found in fromhex() arg at position " ++ toString pos
  | notDigits form => "fromhex() argument must be str, not " ++ form
  | notBytes index form =>
    "sequence item " ++ toString index ++ ": expected a bytes-like object, " ++ form ++ " found"
  | notACount form => "can't multiply sequence by non-int of type '" ++ form ++ "'"
  | notAPair index length =>
    "dictionary update sequence element #" ++ toString index ++ " has length " ++ toString length ++ "; 2 is required"
  | notASequence index =>
    "cannot convert dictionary update sequence element #" ++ toString index ++ " to a sequence"
  | notAMapping form => "'" ++ form ++ "' object is not a mapping"
  | notIterable form => "'" ++ form ++ "' object is not iterable"
  | notHashable form => "unhashable type: '" ++ form ++ "'"
  | noAttribute form name => "'" ++ form ++ "' object has no attribute '" ++ name ++ "'"
  | noEntry shown => shown
  | notCallable form => "'" ++ form ++ "' object is not callable"
  | notDivisible form => "cannot unpack non-iterable " ++ form ++ " object"
  | wrongParts needed given =>
    if given < needed then
      "not enough values to unpack (expected " ++ toString needed ++ ", got " ++ toString given ++ ")"
    else "too many values to unpack (expected " ++ toString needed ++ ")"
  | notASeparator form => "must be str or None, not " ++ form
  | countTooLarge => "Python int too large to convert to C ssize_t"
  | indexTooLarge form => "cannot fit '" ++ form ++ "' into an index-sized integer"
  | bytesTooLong => "repeated bytes are too long"
  | noMemory => ""
  | noMember shown kind => shown ++ " is not a valid " ++ kind
  | notFound place name => "module '" ++ place ++ "' has no attribute '" ++ name ++ "'"
  | textAsThreshold text => "Unknown level: '" ++ text ++ "'"
  | valueAsThreshold shown => "Level not an integer or a valid string: " ++ shown
  | loggerNotText => "A logger name must be a string"
  | reservedName call name => call ++ "() got multiple values for argument '" ++ name ++ "'"
  | missingArgument call name => call ++ "() missing 1 required positional argument: '" ++ name ++ "'"
  | notANamedArgument => "keywords must be strings"
  | unknownArgument call name => call ++ "() got an unexpected keyword argument '" ++ name ++ "'"
  | notNamed call form => call ++ "() argument after ** must be a mapping, not " ++ form
  | surplusArgument call taken =>
    call ++ "() takes " ++ toString taken ++ " positional argument" ++ (if taken = 1 then "" else "s") ++ " but " ++
      toString (taken + 1) ++ (if taken = 0 then " was" else " were") ++ " given"
  | notAppendable series form => "can only concatenate " ++ series ++ " (not \"" ++ form ++ "\") to " ++ series
  | notSearched form => "argument of type '" ++ form ++ "' is not iterable"
  | notSearchable form => "'in <string>' requires string as left operand, not " ++ form
  | noSource asked => "'NoneType' object has no attribute '" ++ asked.text ++ "'"
  | foreign _ message => message

def label : Failure ρ → String
  | refused _ => "InvalidArgumentError"
  | noMutators => "NoMutatorsRegisteredError"
  | noSwapRoom .. => "MutationError"
  | emptyRange | emptyInterval .. | notAByte | negativeInteger | noEdits | deadlineUndefined | notANumeral _
  | noMember .. | notABorder _ | undefinedWhole | textAsThreshold _ | embeddedEnd | unusableName
  | notHexadecimal _ | notAPair .. | wrongParts .. | notADepth => "ValueError"
  | byZero _ => "ZeroDivisionError"
  | notStorable => "error"
  | notEncodable .. => "UnicodeEncodeError"
  | emptyName => "OSError"
  | integerTooLarge | quotientTooLarge | deadlineTooFar | infiniteWhole | countTooLarge
  | indexTooLarge _ | bytesTooLong => "OverflowError"
  | noMemory => "MemoryError"
  | emptyChoice | outOfRange _ | emptyCorpus => "IndexError"
  | noEntry _ => "KeyError"
  | scriptExhausted => "RuntimeError"
  | missingInput | missingBuffer | noLength _ | notComparable .. | noOperation .. | noPlaceholder | notAText _
  | notAnIndex _ | notAPosition .. | notALetter _ | notABound | notSubscriptable _ | notAPath _ | notANumber _
  | notDigits _ | notBytes .. | notACount _ | notASequence _ | notAMapping _ | notIterable _ | notHashable _
  | valueAsThreshold _ | loggerNotText | reservedName .. | missingArgument .. | unknownArgument ..
  | notANamedArgument | notNamed .. | surplusArgument .. | notAppendable .. | notSearched _ | notSearchable _
  | notASeed | notAName _ | notCallable _ | notDivisible _ | notASeparator _ | notAJsonText _
  | notJoined .. => "TypeError"
  | noSource _ | noAttribute .. | notFound .. => "AttributeError"
  | foreign kind _ => kind

def fields (e : Failure ρ) : Fields ρ :=
  match e.report? with
  | some r => r.fields
  | none => [("error",.text e.label),("message",.text e.message)]

end Failure

end Fuzzing

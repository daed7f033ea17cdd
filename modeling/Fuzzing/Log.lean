import Fuzzing.Settings

/-!
Log records. An entry below the threshold is dropped; any other becomes a record with its
values, its level, its logger and a time stamp, and entries about a failing target are marked
as crashes. Records are written as JSON here, and as lines for people elsewhere.
-/
namespace Fuzzing

namespace Log

variable {ρ : Type}

/-- Something that was logged. -/
structure Entry (ρ : Type) where
  level : Level
  /-- The name of the event, mostly a text; null where there is none. -/
  event : Document ρ
  fields : Fields ρ

/-- The entry of an event, percentages rounded to two places. -/
def Entry.ofEvent (e : Event Float) : Entry Float := ⟨e.level,.text e.name,e.fields (Decimal.roundTo 2)⟩

/-- How important a level is. -/
def severity : Level → Nat
  | .debug => 10
  | .info => 20
  | .warning => 30
  | .error => 40
  | .critical => 50

def levelText : Level → String
  | .debug => "debug"
  | .info => "info"
  | .warning => "warning"
  | .error => "error"
  | .critical => "critical"

/-- The names of thresholds. The last one lets everything through. -/
private def thresholds : List (String × Nat) :=
  [("DEBUG",10),("INFO",20),("WARN",30),("WARNING",30),("ERROR",40),("CRITICAL",50),("FATAL",50),("NOTSET",0)]

/-- The standard layout of records, which stands among the thresholds under a name of its own. -/
private def standardLayout : String := "%(levelname)s:%(name)s:%(message)s"

/-- The table of layout styles, which stands among the thresholds under a name of its own. -/
private def styleTable : String :=
  "\x7b'%': (<class 'logging.PercentStyle'>, '" ++ standardLayout ++ "'), " ++
    "'\x7b': (<class 'logging.StrFormatStyle'>, '\x7blevelname\x7d:\x7bname\x7d:\x7bmessage\x7d'), " ++
    "'$': (<class 'logging.StringTemplateStyle'>, '$\x7blevelname\x7d:$\x7bname\x7d:$\x7bmessage\x7d')\x7d"

/-- The threshold of a name, written in letters of any size. -/
def threshold {ρ : Type} (name : String) : Except (Failure ρ) Nat :=
  let capitals := Text.capitals name
  match thresholds.lookup capitals with
  | some n => .ok n
  | none =>
    if capitals = "BASIC_FORMAT" then .error (.textAsThreshold standardLayout)
    else if capitals = "_STYLES" then .error (.valueAsThreshold styleTable)
    else .error (.notFound "logging" capitals)

/-- The threshold of a name that may be of any form. -/
def threshold? {ρ : Type} : Document ρ → Except (Failure ρ) Nat
  | .text name => threshold name
  | d => .error (.noAttribute d.form "upper")

def Entry.passes (threshold : Nat) (e : Entry ρ) : Bool := threshold ≤ severity e.level

/-- The events that are about a failing target rather than the progress of fuzzing. -/
private def crashEvents : List String :=
  ["crash_detected","execution_crashed","execution_timeout","mutator_crash_recorded"]

/-- Whether the values of a record are about a failing target. -/
private def isCrash (isZero : ρ → Bool) (fields : Fields ρ) : Bool :=
  (match Table.get? "event" fields with
    | some (.text event) => crashEvents.contains event
    | _ => false) ||
  ((Table.get? "crash_event" fields).getD .null).isTruthy isZero

/-- Marks the values of a record that is about a failing target. -/
private def marked (isZero : ρ → Bool) (fields : Fields ρ) : Fields ρ :=
  if isCrash isZero fields then
    Table.put "requires_attention" (.bool true) (Table.put "event_category" (.text "CRASH") fields)
  else fields

/-- The event of a value of any form is looked up among those about a failing target, which cannot be
    done with a container. -/
private def ensureEvent : Document ρ → Except (Failure ρ) Unit
  | .list items => .error (.notHashable (Document.list items).form)
  | .record fields => .error (.notHashable (Document.record fields).form)
  | _ => .ok ()

/-- Marks the values of a table. -/
def marked? (d : Document Float) : Except (Failure Float) (Fields Float) := do
  let fields ← Signal.named? d
  ensureEvent ((Table.get? "event" fields).getD .null)
  pure (marked (· == 0.0) fields)

/-- The values that ask for details of a failure in the course. They are taken out of every record,
    and as there is no such failure nothing takes their place. -/
private def detailRequests : List String := ["exc_info","stack_info"]

/-- The name of a logger in records. The one without a name is the root of all. -/
def loggerText (name : String) : String := if name = "" then "root" else name

/-- The values of an entry with its event, if it has one. -/
def Entry.named (e : Entry ρ) : Fields ρ :=
  match e.event with
  | .null => e.fields
  | event => Table.put "event" event e.fields

def Entry.record (isZero : ρ → Bool) (logger : String) (timestamp : Document ρ) (e : Entry ρ) : Fields ρ :=
  let levelled := Table.put "level" (.text (levelText e.level)) e.named
  let placed := Table.put "timestamp" timestamp (Table.put "logger" (.text (loggerText logger)) levelled)
  marked isZero (placed.filter fun f => !detailRequests.contains f.1)

/-- Whether an entry can become a record. A value in the place of the record that it comes from would have
    to name a logger, which no value does. -/
def Entry.ensure (e : Entry ρ) : Except (Failure ρ) Unit :=
  match Table.get? "_record" e.fields with
  | none | some .null => ensureEvent e.event
  | some d => .error (.noAttribute d.form "name")

def Entry.json (logger timestamp : String) (e : Entry Float) : String :=
  Document.write Decimal.Layout.json.write (.record (e.record (· == 0.0) logger (.text timestamp)))

end Log

end Fuzzing

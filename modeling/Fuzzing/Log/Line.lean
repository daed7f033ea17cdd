import Fuzzing.Log

/-!
Log records as lines for people: the time, the level and the event in columns, the logger in
brackets, and then the values in the order of their names. Styles of the terminal set them apart.
-/
namespace Fuzzing

namespace Log

/-- Whether a text has a character that sets values apart. -/
private def isUnclear (s : String) : Bool :=
  s.toList.any fun c => [' ','\t','=','\r','\n','"',Text.apostrophe].contains c

private def valueText : Document Float → String
  | .text s => if isUnclear s then Text.quoted s else s
  | d => d.shown

private def padded (width : Nat) (text : String) : String :=
  text ++ String.ofList (List.replicate (width - Text.length text) ' ')

private def style (codes : List String) : String := String.join (codes.map fun c => "\x1b[" ++ c ++ "m")

def plain : String := style ["0"]

private def styled (codes : List String) (text : String) : String := style codes ++ text ++ plain

private def colour : Level → String
  | .debug | .info => "32"
  | .warning => "33"
  | .error | .critical => "31"

private def levelColumn (l : Level) : String := "[" ++ styled [colour l,"1"] (padded 9 (levelText l)) ++ "]"

private def loggerColumn (name : String) : String := "[" ++ plain ++ styled ["1","34"] name ++ "]" ++ plain

/-- A value with its name. -/
private def valueColumn (name : String) (d : Document Float) : String :=
  styled ["36"] name ++ "=" ++ styled ["35"] (valueText d)

/-- The values that have places of their own. -/
private def placed : List String := ["","timestamp","level","event","logger","logger_name","stack","exception"]

/-- The column of a value with a place of its own, if the record has it. -/
private def columnOf (record : Fields Float) (name : String) (column : Document Float → String) : List String :=
  ((Table.get? name record).map column).toList

/-- A text that stands below a line. A missing value adds nothing. -/
private def below (rule : String) : Option (Document Float) → Except (Failure Float) String
  | none | some .null => .ok ""
  | some (.text s) => .ok (rule ++ "\n" ++ s)
  | some d => .error (.notAppendable "str" d.form)

/-- The rule between the two texts that may stand below a line. -/
private def rule : String := "\n\n" ++ String.ofList (List.replicate 79 '=') ++ "\n"

/-- The line of an entry for people, the texts below it included. A value without a name comes first. -/
def Entry.line (timestamp : String) (logger : String) (e : Entry Float) : Except (Failure Float) String := do
  let record := e.record (· == 0.0) logger (.text timestamp)
  let names := (Text.sorted (record.map (·.1))).filter fun name => !placed.contains name
  let values := names.map fun name => valueColumn name ((Table.get? name record).getD .null)
  let columns := columnOf record "" (valueColumn "") ++ [styled ["2"] timestamp,levelColumn e.level] ++
    columnOf record "event" (fun event => styled ["1"] (padded 30 event.plain)) ++
    [loggerColumn (loggerText logger)] ++ columnOf record "logger_name" (fun d => loggerColumn d.plain) ++ values
  let stack ← below "" (Table.get? "stack" record)
  let failure ← below (if stack = "" then "" else rule) (Table.get? "exception" record)
  pure (String.intercalate " " columns ++ stack ++ failure ++ "\n")

/-- Whether codes occur among others in a row. -/
private def occurs (part : List Nat) : List Nat → Bool
  | [] => part.isEmpty
  | c :: rest => part.isPrefixOf (c :: rest) || occurs part rest

/-- Whether the name of an event occurs in what was written. -/
def mentions (output : String) : Document Float → Except (Failure Float) Bool
  | .text name => .ok (occurs (Text.codes name) (Text.codes output))
  | d => .error (.notSearchable d.form)

end Log

end Fuzzing

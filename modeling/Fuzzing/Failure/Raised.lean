import Fuzzing.Document.Argument

/-!
Failures of the library as code from outside makes them. Message, code and context may be of any form: the message is
shown as a text, and a context that holds nothing is an empty one.
-/
namespace Fuzzing

/-- What a failure is made of. -/
structure Raised where
  category : Category
  message : Document Float
  code : Document Float
  context : Document Float
  /-- The argument in question, where there is one. -/
  argument : Option (Document Float)

namespace Raised

/-- The families that are named by themselves. -/
private def families : List Category := [.noMutators,.mutation]

/-- A context, empty where it holds nothing. -/
private def filled (context : Document Float) : Document Float :=
  if context.isTruthy Quantity.isZero then context else .record []

/-- A failure about an argument. Its code is its own, and its context says which argument it is about. -/
private def ofArgument? (argument message context : Document Float) : Except (Failure Float) Raised := do
  let details ← match filled context with
    | .record fields => pure fields
    | d => .error (.notAMapping d.form)
  let own := if message.isTruthy Quantity.isZero then message.plain else ""
  let report : Report Float := .ofArgument argument.plain (some own) (("argument",argument) :: details)
  pure
    { category := report.category, message := if own = "" then .text report.message else message
      code := .text (report.code.getD ""), context := .record report.context, argument := some argument }

/-- The names of what stands beside the families of failures, with their forms. -/
def others : List (String × String) :=
  [("__name__","str"),("__doc__","str"),("__file__","str"),("__package__","str"),("__cached__","str"),
   ("__dict__","dict"),("__builtins__","dict"),("__annotations__","dict")]

/-- What a name stands for: a family of failures, or something of another form, if anything. -/
def named? (kind : String) : Option (Except String Category) :=
  match others.lookup kind with
  | some form => some (.error form)
  | none => ((.general :: families).find? fun c => c.text == kind).map .ok

/-- A failure from named values: its kind, its message, and what it carries. -/
def ofFields? (given : Fields Float) : Except (Failure Float) Raised := do
  let value (name : String) : Document Float := (Table.get? name given).getD .null
  match ← Document.entry? "kind" given with
  | .text kind =>
    if kind = (Category.invalidArgument "").text then
      let argument ← Document.entry? "argument" given
      if (Table.get? "error_code" given).isSome then .error (.unknownArgument (kind ++ ".__init__") "error_code")
      else ofArgument? argument (value "message") (value "context")
    else
      match named? kind with
      | none => .error (.notFound "io_fuzzer.core.exceptions" kind)
      | some named => do
        let message ← Document.entry? "message" given
        let category ← named.mapError .notCallable
        pure { category, message, code := value "error_code", context := filled (value "context"), argument := none }
  | kind => .error (.notAName kind.form)

/-- Whether the failure is about an argument. -/
def isRefusal (r : Raised) : Bool := r.argument.isSome

def fields (r : Raised) : Fields Float :=
  [("error",.text r.category.text),("message",.text r.message.plain),("code",r.code),("context",r.context)] ++
    (r.argument.map fun d => ("argument",d)).toList

end Raised

end Fuzzing

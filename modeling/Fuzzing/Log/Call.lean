import Fuzzing.Log

/-!
Calls of a logger. A call has a name, which gives its level, an event and values. One below the threshold
says nothing; one with a value under a name that the call itself uses is refused, whether or not it
would have said anything. Some calls ask about the logger or change it for others, and say nothing.
-/
namespace Fuzzing

namespace Log

/-- What a call of a logger does. -/
inductive Manner where
  /-- It makes an entry. -/
  | entry
  /-- It makes an entry with the failure behind it. -/
  | failure
  /-- It makes an entry once it is waited for, which nobody does. -/
  | deferred
  /-- The same with the failure behind it. -/
  | deferredFailure
  deriving DecidableEq, Repr

/-- The names of calls that make entries of a level. -/
private def levelCalls : List (String × Level) :=
  [("debug",.debug),("info",.info),("msg",.info),("warning",.warning),("warn",.warning),("error",.error),
   ("critical",.critical),("fatal",.critical)]

/-- The names of all calls with a level of their own: with a letter in front, a call is deferred. -/
def calls : List (String × Manner × Level) :=
  levelCalls.map (fun c => (c.1,.entry,c.2)) ++ [("exception",.failure,.error)] ++
    levelCalls.map (fun c => ("a" ++ c.1,.deferred,c.2)) ++ [("aexception",.deferredFailure,.error)]

/-- The levels by the numbers that say how important they are. -/
private def levels : List (Nat × Level) :=
  ([.debug,.info,.warning,.error,.critical] : List Level).map fun l => (severity l,l)

/-- The name of the kind of loggers with a threshold. -/
private def loggerKind (threshold : Nat) : String :=
  "BoundLoggerFilteringAt" ++
    ((([(10,"Debug"),(20,"Info"),(30,"Warning"),(40,"Error"),(50,"Critical")] : List (Nat × String)).lookup
      threshold).getD "Notset")

/-- The name of what makes the calls of loggers with a threshold, in complaints. -/
private def kindMaker : String := "_make_filtering_bound_logger.<locals>."

/-- The name of what takes a call, in complaints. -/
def Manner.text (passes : Bool) : Manner → String
  | entry => if passes then kindMaker ++ "make_method.<locals>.meth" else "_nop"
  | failure => "exception"
  | deferred => if passes then kindMaker ++ "make_method.<locals>.ameth" else "_anop"
  | deferredFailure => "aexception"

/-- Whether a call does its work at once. -/
private def Manner.isPrompt : Manner → Bool
  | entry | failure => true
  | deferred | deferredFailure => false

/-- The name of what makes an entry, in complaints. -/
private def makerText : String := "BoundLoggerBase._proxy_to_logger"

variable {ρ : Type}

/-- A call of a logger. -/
structure Call (ρ : Type) where
  name : String
  event : Document ρ
  fields : Fields ρ

/-- Refuses a value under one of the names that a call uses. -/
private def ensureFree (caller : String) (names : List String) (fields : Fields ρ) : Except (Failure ρ) Unit :=
  match fields.find? fun f => names.contains f.1 with
  | some f => .error (.reservedName caller f.1)
  | none => .ok ()

/-- An entry that can be written. -/
private def Entry.ensured (e : Entry ρ) : Except (Failure ρ) (Entry ρ) := do
  ensureFree makerText ["method_name"] e.fields
  e.ensure
  pure e

/-- The level that a number stands for, if it reaches the threshold. -/
private def levelOf? (threshold : Nat) (d : Document Float) : Except (Failure Float) (Option Level) := do
  let reached : Bool ← match d with
    | .real x => pure (Quantity.ofInt threshold ≤ x)
    | d =>
      match d.integer? with
      | some n => pure ((threshold : Int) ≤ n)
      | none => .error (.notComparable "<" d.form "int")
  let stands (l : Nat × Level) : Bool :=
    match d with
    | .real x => x == Quantity.ofInt l.1
    | d => d.integer? == some (l.1 : Int)
  if !reached then pure none
  else
    match levels.find? stands with
    | some l => pure (some l.2)
    | none => .error (.noEntry d.shown)

/-- The entry of a call that is given its level where others are given the event, and the event as a value. -/
private def Call.levelled? (threshold : Nat) (c : Call Float) : Except (Failure Float) (Option (Entry Float)) := do
  let caller := kindMaker ++ c.name
  ensureFree caller ["self","level"] c.fields
  match Table.get? "event" c.fields with
  | none => .error (.missingArgument caller "event")
  | some event =>
    if c.name = "log" then
      match ← levelOf? threshold c.event with
      | none => pure none
      | some level => some <$> Entry.ensured ⟨level,event,c.fields.filter fun f => f.1 != "event"⟩
    else pure none

/-- The name of what answers questions about a logger, in complaints. -/
private def answererText : String := kindMaker ++ "<lambda>"

/-- The name of what makes a logger out of its description, in complaints. -/
private def describedText : String := "BoundLoggerLazyProxy"

/-- A value under which others are kept, which has to be one that can be looked up. -/
private def ensureKey (d : Document Float) : Except (Failure Float) Unit :=
  match d with
  | .list _ | .record _ => .error (.notHashable d.form)
  | _ => .ok ()

/-- Refuses the first named value of a call that takes none under its own names and knows no others. -/
private def ensureNameless (caller : String) (own : List String) (c : Call Float) : Except (Failure Float) Unit :=
  match c.fields with
  | [] => .ok ()
  | f :: _ => if own.contains f.1 then .error (.reservedName caller f.1) else .error (.unknownArgument caller f.1)

/-- Whether a level reaches the threshold is a question with a number in it. -/
private def Call.asksLevel? (c : Call Float) : Except (Failure Float) Unit := do
  ensureNameless answererText ["self","level"] c
  match c.event with
  | .real _ => pure ()
  | d => if d.integer?.isSome then pure () else .error (.notComparable ">=" d.form "int")

/-- Asking for the threshold, with a value that is not needed. -/
private def Call.asksThreshold? (c : Call Float) : Except (Failure Float) Unit := do
  ensureNameless answererText ["self"] c
  .error (.surplusArgument answererText 1)

/-- Taking back a value that is kept for all entries. There is none, which only one of the two calls puts up
    with. The first argument is whether the logger has a name. -/
private def Call.takesBack? (named : Except (Failure Float) Unit) (c : Call Float) : Except (Failure Float) Unit := do
  ensureNameless (describedText ++ "." ++ c.name) ["self"] c
  named
  ensureKey c.event
  if c.name = "unbind" then .error (.noEntry c.event.shown) else pure ()

/-- Keeping values for all entries, with a value that is not needed. -/
private def Call.keeps? (caller : String) (own : List String) (taken : Nat) (c : Call Float) :
    Except (Failure Float) Unit := do
  ensureFree caller own c.fields
  .error (.surplusArgument caller taken)

/-- The names of parts of a logger that are no calls, with their forms. -/
private def ownParts : List (String × String) :=
  [("_logger","NoneType"),("_wrapper_class","NoneType"),("_processors","NoneType"),("_context_class","NoneType"),
   ("_cache_logger_on_first_use","NoneType"),("_initial_values","dict"),("_logger_factory_args","tuple"),
   ("__dict__","dict"),("__doc__","str"),("__module__","str")]

/-- The names of calls that compare a logger with a value. -/
private def comparisons : List String := ["__eq__","__ne__","__lt__","__le__","__gt__","__ge__"]

/-- The names of what descriptions of loggers are made from. -/
private def descriptionNames : List String :=
  ["wrapper_class","processors","context_class","cache_logger_on_first_use","initial_values","logger_factory_args"]

/-- What a call about a logger makes of its event, if the call is one, and whether the logger is in use behind it.
    The logger may have been in use before, and may have no name. -/
private def Call.silent? (used : Bool) (named : Except (Failure Float) Unit) (c : Call Float) :
    Option (Except (Failure Float) Bool) :=
  let inUse (done : Except (Failure Float) Unit) : Option (Except (Failure Float) Bool) := some (done.map fun _ => true)
  match c.name with
  | "is_enabled_for" => inUse (named *> c.asksLevel?)
  | "get_effective_level" => inUse (named *> c.asksThreshold?)
  | "try_unbind" | "unbind" => inUse (c.takesBack? named)
  | "new" => inUse (c.keeps? (describedText ++ ".new") ["self"] 1)
  | "bind" =>
    inUse
      (if used then c.keeps? (describedText ++ ".bind.<locals>.finalized_bind") [] 0
        else c.keeps? (describedText ++ ".bind") ["self"] 1)
  | "__repr__" =>
    inUse do
      ensureNameless (describedText ++ ".__repr__") ["self"] c
      .error (.surplusArgument (describedText ++ ".__repr__") 1)
  | "__class__" =>
    let unknown := c.fields.filter fun f => !descriptionNames.contains f.1
    let checked := ensureNameless (describedText ++ ".__init__") ["self","logger"] { c with fields := unknown }
    some (checked.map fun _ => used)
  | name =>
    match ownParts.lookup name with
    | some form => some (.error (.notCallable form))
    | none =>
      if comparisons.contains name then
        some (if c.fields.isEmpty then .ok used
          else .error (.foreign "TypeError" ("wrapper " ++ name ++ "() takes no keyword arguments")))
      else none

/-- The names of calls that are given their level. -/
private def levelledCalls : List String := ["log","alog"]

/-- Refuses the name of a call that no logger has. -/
private def ensureKnown (threshold : Nat) (name : String) : Except (Failure Float) Unit :=
  if (calls.lookup name).isSome || levelledCalls.contains name then .ok ()
  else .error (.noAttribute (loggerKind threshold) name)

/-- The entry that a call makes, if it passes the threshold. -/
private def Call.entry? (threshold : Nat) (c : Call Float) : Except (Failure Float) (Option (Entry Float)) := do
  ensureKnown threshold c.name
  match calls.lookup c.name with
  | none => c.levelled? threshold
  | some (manner,level) =>
    let e : Entry Float := ⟨level,c.event,c.fields⟩
    let passes := e.passes threshold
    ensureFree (manner.text passes) ["self","event"] c.fields
    if passes && manner.isPrompt then some <$> e.ensured else pure none

/-- The name of a logger, which may be of any form. What does not count as a name means the root of all. -/
private def loggerName? : Document Float → Except (Failure Float) String
  | .text s => .ok s
  | d => if d.isTruthy (· == 0.0) then .error .loggerNotText else .ok ""

/-- The full name of what takes a call, in complaints about values that are not named. -/
private def callerOf (used : Bool) (threshold : Nat) (name : String) : String :=
  let ofMaker (text : String) : String := "structlog._native." ++ text
  match name with
  | "is_enabled_for" | "get_effective_level" => ofMaker answererText
  | "try_unbind" | "unbind" | "new" => "structlog._config." ++ describedText ++ "." ++ name
  | "bind" => "structlog._config." ++ describedText ++ ".bind" ++ (if used then ".<locals>.finalized_bind" else "")
  | "__class__" => "structlog._config." ++ describedText
  | name =>
    match calls.lookup name with
    | some (manner,level) => ofMaker (manner.text (threshold ≤ severity level))
    | none => ofMaker (kindMaker ++ name)

/-- The call that a list of a name, an event and values stands for. -/
def Call.ofDocument? (used : Bool) (threshold : Nat) (named : Except (Failure Float) Unit) (d : Document Float) :
    Except (Failure Float) (Call Float) := do
  match ← d.parts? with
  | [.text name,event,.record fields] => pure ⟨name,event,fields⟩
  | [.text name,event,given] =>
    if ((⟨name,event,[]⟩ : Call Float).silent? used named).isNone then
      named
      ensureKnown threshold name
    .error (.notNamed (callerOf used threshold name) given.form)
  | [name,_,_] => .error (.notAName name.form)
  | parts => .error (.wrongParts 3 parts.length)

/-- What calls leave behind, each entry written in its turn. The logger has to have a name as soon as it
    is called. The first argument says whether it has been in use before. -/
def written {α : Type} (used : Bool) (logger : Document Float) (threshold : Nat)
    (write : String → Entry Float → Except (Failure Float) α) :
    List (Document Float) → Except (Failure Float) (List α)
  | [] => .ok []
  | d :: rest => do
    let named := (loggerName? logger).map fun _ => ()
    let c ← Call.ofDocument? used threshold named d
    match c.silent? used named with
    | some done => do
      let used ← done
      written used logger threshold write rest
    | none => do
      let name ← loggerName? logger
      match ← c.entry? threshold with
      | none => written true logger threshold write rest
      | some e => do
        let line ← write name e
        let lines ← written true logger threshold write rest
        pure (line :: lines)

end Log

end Fuzzing

import Fuzzing.Coverage

/-!
Calls of a tracker by the names of its methods, with arguments of any form. Names and amounts are checked before
anything is looked up, so that a value that cannot be looked up is refused last. Counts are numbers of either kind.
-/
namespace Fuzzing

namespace Coverage

variable {ν : Type} [Tally ν]

omit [Tally ν] in
/-- Refuses a name that does not count as one. -/
private def ensureName (d : Document Float) : Action Float (Coverage Float ν) Unit :=
  if d.isTruthy Quantity.isZero then pure () else .refuse .emptySignalName

omit [Tally ν] in
private def ensureAmount (d : Document Float) : Action Float (Coverage Float ν) Unit := do
  if ← .ofExcept d.isNegative? then .refuse (.negativeAmount d) else pure ()

/-- Makes signals known one after the other, up to the first that cannot be looked up. -/
private def declareEach : List (Document Float) → Action Float (Coverage Float ν) Unit
  | [] => pure ()
  | d :: rest => do
    let signal ← .ofExcept (Signal.ofDocument? d)
    .update fun c => c.known signal
    declareEach rest

/-- Makes the parts of a value known as signals. -/
private def declareParts (d : Document Float) : Action Float (Coverage Float ν) Unit := do
  let names ← .ofExcept d.parts?
  names.forM ensureName
  declareEach names

/-- A tracker that knows the parts of a value. -/
def createWith (name signals : Document Float) : Trace Float (Coverage Float ν) Unit :=
  declareParts signals ⟨name,[]⟩

/-- A computation on a tracker whose counts come from outside. -/
abbrev Use (α : Type) := Action Float (Coverage Float (Amount Float)) α

/-- A call of a tracker. -/
inductive Call where
  | declare (name : Document Float)
  | declareAll (names : Document Float)
  | increment (name amount : Document Float)
  | observe (names : Document Float)
  | merge (table : Document Float)
  | reset
  | count (name : Document Float)
  | covered
  | percentage
  | size
  | knows (name : Document Float)
  /-- The counts as a table, which nobody looks at. -/
  | snapshot

namespace Call

/-- The call of a method with arguments; a method takes as many as it needs. -/
def ofMethod? (method : String) (args : List (Document Float)) : Option Call :=
  match method, args with
  | "initialize", [name] => some (declare name)
  | "initialize_many", [names] => some (declareAll names)
  | "increment", [name] => some (increment name (.whole 1))
  | "increment", [name,amount] => some (increment name amount)
  | "update_coverage", [names] => some (observe names)
  | "merge", [table] => some (merge table)
  | "reset", [] => some reset
  | "get", [name] => some (count name)
  | "covered_count", [] => some covered
  | "percentage_covered", [] => some percentage
  | "snapshot", [] => some snapshot
  | "__len__", [] => some size
  | "__contains__", [name] => some (knows name)
  | _, _ => none

/-- Checks the entries of a table, and makes amounts of their counts. -/
private def amounts : List (Signal × Document Float) → Use (List (Signal × Amount Float))
  | [] => pure []
  | e :: rest => do
    checkName e.1
    ensureAmount e.2
    let amount ← .ofExcept (Amount.ofDocument? e.2)
    let others ← amounts rest
    pure ((e.1,amount) :: others)

/-- Adds the counts of a table, up to the first that has no sum with what it is added to. -/
def addAll (incoming : List (Signal × Amount Float)) : Use Unit := do
  let c ← .state
  let before := incoming.takeWhile fun e => Amount.haveSum (c.count e.1) e.2
  match incoming.drop before.length with
  | [] => Coverage.merge (some incoming)
  | e :: _ => do
    .update fun c => c.absorb before
    .ofExcept (Amount.ensureSum (c.count e.1) e.2)

def perform : Call → Use (Document Float)
  | declare name => do
    ensureName name
    declareEach [name]
    pure .null
  | declareAll names => do
    declareParts names
    pure .null
  | increment name amount => do
    ensureName name
    ensureAmount amount
    let signal ← .ofExcept (Signal.ofDocument? name)
    let amount ← .ofExcept (Amount.ofDocument? amount)
    let c ← .state
    .ofExcept (Amount.ensureSum (c.count signal) amount)
    let count ← Coverage.increment signal amount
    pure count.document
  | observe names => do
    let fresh ← Coverage.observe (← .ofExcept (Signal.ofParts? names))
    let fresh ← .ofExcept (Signal.sorted? fresh)
    pure (.list (fresh.map Signal.document))
  | merge .null => .refuse .nothingToMerge
  | merge table => do
    let entries ← .ofExcept (Signal.table? table)
    let incoming ← amounts (Table.ofEntries entries)
    addAll incoming
    pure .null
  | reset => do
    Coverage.reset
    pure .null
  | count name => do
    let signal ← .ofExcept (Signal.ofDocument? name)
    let c ← .state
    pure (c.count signal).document
  | covered => do
    let c ← .state
    pure (.whole c.covered)
  | percentage => do
    let c ← .state
    pure (.real c.percentage)
  | size => do
    let c ← .state
    pure (.whole c.size)
  | knows name => do
    let signal ← .ofExcept (Signal.ofDocument? name)
    let c ← .state
    pure (.bool (c.knows signal))
  | snapshot => pure .null

/-- The call that a list of a method and its arguments stands for. -/
def ofDocument? : Document Float → Option Call
  | .list (.text method :: args) => ofMethod? method args
  | _ => none

/-- Makes the calls of a thread in turn, up to the first one that fails or is none. -/
def thread : List (Document Float) → Use Unit
  | [] => pure ()
  | d :: rest =>
    match ofDocument? d with
    | some call => do
      let _ ← call.perform
      thread rest
    | none => pure ()

/-- Runs threads one after the other. What one of them fails with is lost. -/
def threads : List (List (Document Float)) → Use Unit
  | [] => pure ()
  | calls :: rest => do
    let _ ← (thread calls).attempt
    threads rest

end Call

end Coverage

end Fuzzing

import Fuzzing.Mutator

/-!
Mutators as values describe them: by the name of a built-in one, or by a record with its kind. Besides the
built-in ones there are some from outside, whose behaviour is known in advance, and not always good: they serve to try
out what engines make of mutators that they do not know.
-/
namespace Fuzzing.Mutator

/-- A known behaviour. -/
inductive Sample where
  | identity
  | reverse
  | double
  | append
  | empty
  | nothing
  | failing
  | failingLate
  | refusing
  deriving DecidableEq, Repr

namespace Sample

def all : List Sample := [identity,reverse,double,append,empty,nothing,failing,failingLate,refusing]

/-- The name of a behaviour. -/
def text : Sample → String
  | identity => "identity"
  | reverse => "reverse"
  | double => "double"
  | append => "append"
  | empty => "empty"
  | nothing => "none"
  | failing => "raise"
  | failingLate => "draw_raise"
  | refusing => "reject"

variable {ρ σ : Type} [Source ρ σ]

/-- What a mutator of a behaviour does. One appends a random byte, one draws a number before it fails. -/
def mutate : Sample → Bytes → Action ρ σ (Option Bytes)
  | identity, data => pure (some data)
  | reverse, data => pure (some data.reverse)
  | double, data => pure (some (data ++ data))
  | append, data => do
    let b ← Draw.byte
    pure (some (data ++ [b]))
  | empty, _ => pure (some [])
  | nothing, _ => pure none
  | failing, _ => .fail (.foreign "RuntimeError" "boom")
  | failingLate, _ => do
    let _ ← Draw.numberBelow 256
    .fail (.foreign "ZeroDivisionError" "late")
  | refusing, data => .refuse (.other "data" "rejected" [("size",.whole data.length)])

/-- What a mutator of a behaviour makes of an input that is not there. Most fail where they use it. -/
private def mutateMissing : Sample → Action ρ σ (Option Bytes)
  | identity => pure none
  | reverse => .fail (.foreign "TypeError" "'NoneType' object is not subscriptable")
  | double => .fail (.noOperation "+" "NoneType" "NoneType")
  | append => do
    let _ ← Draw.byte
    .fail (.noOperation "+" "NoneType" "bytes")
  | refusing => .fail (.noLength "NoneType")
  | sample => sample.mutate []

/-- What a mutator of a behaviour does to an input that may be missing. -/
def run (sample : Sample) : Option Bytes → Action ρ σ (Option Bytes)
  | some data => sample.mutate data
  | none => sample.mutateMissing

end Sample

end Fuzzing.Mutator

namespace Fuzzing

/-- A described mutator: built in, or one from outside, which may have a name of its own. -/
inductive Described where
  | builtin (b : Builtin Float)
  /-- What a mutator from outside does is looked up only when it is asked to mutate. -/
  | sample (behaviour : Document Float) (name : Option (Document Float))

namespace Described

/-- The built-in mutator of a name, with what it needs as usual. -/
private def ofName? (name : String) : Except (Failure Float) Described :=
  match (Builtin.standard Builtin.standardGrowth).find? fun b => b.name == name with
  | some b => .ok (builtin b)
  | none => .error (.noEntry (Text.quoted name))

private def ofValues? (values : Document Float) : Except (Failure Float) Described := do
  pure (builtin (.values (← (← values.parts?).mapM Document.hexed?)))

/-- A mutator of serialized data, its edits and its cap given. -/
private def ofEdits? (edits maxGrowth : Option (Document Float)) : Except (Failure Float) Described := do
  let edits ← match edits with
    | none => pure Mutation.SerializedEdit.all
    | some edits => do
      (← edits.parts?).mapM
        (Document.named? "SerializationEdit" Mutation.SerializedEdit.all Mutation.SerializedEdit.text)
  builtin <$> Builtin.serialized? edits (maxGrowth.getD (.whole Builtin.standardGrowth))

/-- The mutator that a value describes. Every kind that is not known is one from outside. -/
def ofDocument? : Document Float → Except (Failure Float) Described
  | .text name => ofName? name
  | d => do
    match ← d.under? "kind" with
    | .text "Value" => ofValues? (← d.under? "values")
    | .text "Serialization" => ofEdits? (d.field? "edits") (d.field? "max_growth")
    | _ => pure (sample (← d.under? "func") (d.field? "name"))

private def kindName : Described → String
  | builtin b => b.kindName
  | sample _ name => if name.isSome then "Custom" else "Anonymous"

/-- Whether the mutator has a name and can mutate. -/
def isNamed : Described → Bool
  | builtin _ => true
  | sample _ name => name.isSome

/-- What the mutator was made with, under the names that reports use. -/
def parts : Described → Fields Float
  | builtin (.values catalog) => [("values",.list (catalog.map fun v => .text v.hex))]
  | builtin (.serialized edits maxGrowth) =>
    [("edits",.list (edits.map fun e => .text e.text)),("max_growth",maxGrowth),
     ("catalog",.list (Mutation.serializedCatalog.map fun v => .text v.hex))]
  | _ => []

/-- The forms of what every mutator has beside its computations. -/
private def innate : List (String × String) := [("__module__","str"),("__dict__","dict")]

/-- The forms of what the mutator has beside its computations. -/
private def belongings (d : Described) : List (String × String) :=
  innate ++
    match d with
    | builtin b =>
      [("name","str"),("__doc__","str")] ++
        match b with
        | .values _ => [("values",Series.fixed.text)]
        | .serialized _ maxGrowth =>
          [("edits",Series.fixed.text),("catalog",Series.fixed.text),("max_growth",maxGrowth.form)]
        | _ => []
    | sample behaviour name => ("func",behaviour.form) :: (name.toList.map fun d => ("name",d.form))

/-- The names of behaviours begin alike where they are looked up. -/
private def behaviourMark : String := "f_"

private def behaviour? (name : String) : Option Mutator.Sample :=
  Mutator.Sample.all.find? fun s => behaviourMark ++ s.text == name

variable {σ : Type} [Source Float σ]

/-- What a mutator from outside does to an input that may be missing. -/
def behave (d : Described) (behaviour : Document Float) (input : Option Bytes) : Action Float σ (Option Bytes) :=
  match behaviour with
  | .text name =>
    match behaviour? (behaviourMark ++ name) with
    | some s => s.run input
    | none => .fail (.noAttribute d.kindName (behaviourMark ++ name))
  | behaviour => .fail (.notAppendable (Document.text behaviourMark : Document Float).form behaviour.form)

def mutator (handle : Nat) : Described → Mutator Float σ
  | builtin b => b.mutator handle
  | sample behaviour name =>
    { handle, label := (name.filter (·.isTruthy Quantity.isZero)).map Document.plain
      kind := kindName (sample behaviour name), mutate := fun data => behave (sample behaviour name) behaviour data }

/-- What the mutator does to an input that may be missing. -/
def mutate : Described → Option Bytes → Action Float σ (Option Bytes)
  | builtin b, data => some <$> b.mutate (data.getD [])
  | sample behaviour name, data => behave (sample behaviour name) behaviour data

/-- The damage to a whole buffer. -/
private def corrupt : Described → Option Bytes → Action Float σ Bytes
  | builtin b, data => b.corrupt (data.getD [])
  | d, _ => .fail (.noAttribute d.kindName "corrupt")

/-- What the mutator does under a name that is no usual one. -/
private def callOther (d : Described) (name : String) (data : Option Bytes) : Action Float σ (Option Bytes) :=
  let unknown : Action Float σ (Option Bytes) :=
    match d.belongings.lookup name with
    | some form => .fail (.notCallable form)
    | none => .fail (.noAttribute d.kindName name)
  match d, behaviour? name with
  | sample .., some s => s.run data
  | _, _ => unknown

/-- What the mutator does under a name: mutating, alone or as engines do it, or damage to the whole buffer. -/
def call (d : Described) (name : Document Float) (data : Option Bytes) : Action Float σ (Option Bytes) :=
  match name with
  | .text "mutate" => d.mutate data
  | .text "apply" => some <$> (d.mutator 0).applyIfPresent data
  | .text "corrupt" => some <$> d.corrupt data
  | .text name => d.callOther name data
  | name => .fail (.notAName name.form)

end Described

end Fuzzing

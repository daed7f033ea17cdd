import Fuzzing.Mutation.Serialized

/-!
Mutators and the boundary around them. A mutator is a name and a computation on byte strings;
two mutators are the same only if they have the same handle. The built-in ones run inside of
`guarded`, which turns every failure into an unmodified copy, and engines run every mutator
through `Mutator.apply`, which does the same for mutators from outside. `Builtin.standard` lists the six that
engines start with.
-/
namespace Fuzzing

/-- A way to change byte strings. -/
structure Mutator (ρ σ : Type) where
  /-- What tells this mutator from every other. -/
  handle : Nat
  /-- The name it gives itself. -/
  label : Option String
  /-- The name of its kind. -/
  kind : String
  /-- The changed byte string; a mutator from outside may return nothing. -/
  mutate : Bytes → Action ρ σ (Option Bytes)

variable {ρ σ : Type}

namespace Mutator

/-- The name in reports: its own, or that of its kind where it has none. -/
def name (m : Mutator ρ σ) : String :=
  if m.label.getD "" = "" then m.kind else m.label.getD ""

/-- Runs a mutator. A failure or a missing result leaves the data as they are; only a refusal of an
    argument reaches the caller. -/
def apply (m : Mutator ρ σ) (data : Bytes) : Action ρ σ Bytes := do
  match ← (m.mutate data).attempt with
  | .ok (some out) => pure out
  | .ok none => do
    .note (.mutatorReturnedNothing m.name)
    pure data
  | .error e =>
    if e.isRefusal then .fail e
    else do
      .note (.mutatorRaised m.name e)
      pure data

/-- Runs a mutator on an input that may be missing. Nothing can be given in the place of a missing
    one, so that the failure to copy it is noted and then ends the computation. -/
def applyIfPresent (m : Mutator ρ σ) : Option Bytes → Action ρ σ Bytes
  | some data => m.apply data
  | none => do
    .note (.mutatorRaised m.name .missingInput)
    .fail .missingInput

end Mutator

/-- The boundary of a built-in mutator: it needs a source of randomness, leaves an empty buffer
    empty, and gives the buffer unmodified where the mutation fails. -/
def guarded [Source ρ σ] (name : String) (mutation : Bytes → Action ρ σ Bytes) (data : Bytes) :
    Action ρ σ Bytes := do
  if Source.absent ρ (← Action.state) then .refuse .noRandomness
  else if data.isEmpty then pure []
  else
    match ← (mutation data).attempt with
    | .ok out => pure out
    | .error _ => do
      .note (.mutationFailed name)
      pure data

/-- A kind of built-in mutator over a type of fractional numbers. -/
inductive Builtin (ρ : Type) where
  | bitFlip
  | byteFlip
  | endianness
  | segments
  | values (catalog : List Bytes)
  /-- The cap on growth may be of any form. -/
  | serialized (edits : List Mutation.SerializedEdit) (maxGrowth : Document ρ)

namespace Builtin

def name : Builtin ρ → String
  | bitFlip => "BitFlip"
  | byteFlip => "ByteFlip"
  | endianness => "Endianness"
  | segments => "Structure"
  | values _ => "Value"
  | serialized .. => "Serialization"

/-- The name of what mutators of a kind are. -/
def kindName (b : Builtin ρ) : String := b.name ++ "Mutator"

/-- The size from which on values are written over a buffer, where nothing else is asked for. -/
def standardGrowth : Int := 10000

/-- A mutator of serialized data; it needs an edit to choose. -/
def serialized? (edits : List Mutation.SerializedEdit) (maxGrowth : Document ρ) : Except (Failure ρ) (Builtin ρ) :=
  if edits.isEmpty then .error .noEdits else .ok (serialized edits maxGrowth)

/-- The six kinds in the order of registration. -/
def standard (maxGrowth : Int) : List (Builtin ρ) :=
  [bitFlip,byteFlip,endianness,segments,values Catalog.special,
   serialized Mutation.SerializedEdit.all (.whole maxGrowth)]

/-- The cap on growth, for the one kind that has it. -/
def growth? : Builtin ρ → Option (Document ρ)
  | serialized _ maxGrowth => some maxGrowth
  | _ => none

variable [Quantity ρ] [Source ρ σ]

/-- What a kind does to a buffer that is not empty. -/
def mutation : Builtin ρ → Bytes → Action ρ σ Bytes
  | bitFlip => Mutation.bitFlips
  | byteFlip => Mutation.byteFlips
  | endianness => Mutation.endianSwaps
  | segments => Mutation.editSegments
  | values catalog => Mutation.replaceValues catalog
  | serialized edits maxGrowth => Mutation.editSerialized edits maxGrowth

/-- What a kind does to a byte string. -/
def mutate (b : Builtin ρ) : Bytes → Action ρ σ Bytes := guarded b.name b.mutation

/-- The deliberate damage to a whole buffer that a mutator of serialized data offers, and no other. -/
def corrupt (b : Builtin ρ) (data : Bytes) : Action ρ σ Bytes :=
  match b with
  | serialized .. => guarded b.name Mutation.corruptWhole data
  | _ => .fail (.noAttribute b.kindName "corrupt")

/-- A mutator of a kind. -/
def mutator (b : Builtin ρ) (handle : Nat) : Mutator ρ σ :=
  { handle, label := some b.name, kind := b.kindName, mutate := fun data => some <$> b.mutate data }

/-- Mutators of the six kinds, their handles counted from a first one. -/
def standardMutators (maxGrowth : Int) (firstHandle : Nat) : List (Mutator ρ σ) :=
  (standard maxGrowth).zipIdx.map fun b => b.1.mutator (firstHandle + b.2)

end Builtin

end Fuzzing

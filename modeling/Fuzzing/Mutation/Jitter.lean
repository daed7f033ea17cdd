import Fuzzing.CompactInt.Argument
import Fuzzing.Mutation.Serialized

/-!
Edits of a length prefix where its place and the length may be of any form. `jitterAny_whole` says that integers are
edited as ever where the source gives whole numbers.
-/
namespace Fuzzing.Mutation

variable {σ : Type} [Source Float σ]

/-- A number as a border of a range, which has to be a whole one. -/
private def border? (isStart : Bool) (x : Float) : Except (Failure Float) Int :=
  match Decimal.Binary64.ofFloat? x with
  | none => .error (if x.isNaN then .undefinedWhole else .infiniteWhole)
  | some exact =>
    if exact.numerator % exact.denominator != 0 then .error (.notABorder isStart)
    else
      let magnitude : Int := (exact.numerator / exact.denominator : Nat)
      .ok (if exact.negative then -magnitude else magnitude)

/-- The least and the greatest length close to one. -/
private def near? (length : Document Float) : Except (Failure Float) (Int × Int) :=
  match length, length.integer? with
  | _, some n => .ok (max 0 (n - lengthJitter),n + lengthJitter)
  | .real x, none => do
    let lower := x - Decimal.ofInt lengthJitter
    let low ← if 0 < lower then border? true lower else pure 0
    let stop ← border? false (x + Decimal.ofInt lengthJitter + 1.0)
    pure (low,stop - 1)
  | d, none => .error (.noOperation "-" d.form "int")

/-- Puts a length close to the right one in the place of a marker. There has to be a source before anything else,
    and what does not serve as a place is noticed once the length is drawn. -/
def jitterAny (data : Bytes) (offset header length : Document Float) : Action Float σ Bytes := do
  if Source.absent Float (← Action.state) then .fail (.noSource .within)
  else do
    let (low,high) ← .ofExcept (near? length)
    let drawn ← Draw.number low.toNat high
    let written ← .ofExcept (CompactInt.writing? drawn.document)
    let stop ← .ofExcept (offset.plus? header)
    match offset.integer?, stop.integer? with
    | some start, some stop => pure (data.replacedBetween start stop written)
    | _, _ => .fail .notABound

/-- Where a whole length is drawn, integers are edited as ever. -/
theorem jitterAny_whole {data : Bytes} {offset header length n : Int} {s s' : σ}
    (drawn : Draw.number (length - lengthJitter).toNat (length + lengthJitter) s =
      (⟨.ok (.whole n),s',[]⟩ : Trace Float σ (Amount Float))) :
    jitterAny data (.whole offset) (.whole header) (.whole length) s = jitterLength data offset header length s := by
  have low : (max 0 (length - (lengthJitter : Int))).toNat = length.toNat - lengthJitter := by omega
  rw [show (length - (lengthJitter : Int)).toNat = length.toNat - lengthJitter by omega] at drawn
  have present : Source.absent Float s = false := by
    cases absent : Source.absent Float s with
    | false => rfl
    | true => simp [Draw.number,Draw.ask,absent] at drawn
  cases written : (CompactInt.encode? n : Except (Failure Float) Bytes) <;>
    simp [jitterAny,jitterLength,bind,Action.bind,Action.state,Action.ofExcept,near?,Document.integer?,Document.plus?,
      Amount.document,Amount.index?,CompactInt.writing?_whole,present,low,drawn,written,pure,Action.fail]

end Fuzzing.Mutation

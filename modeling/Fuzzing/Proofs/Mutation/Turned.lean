import Fuzzing.Proofs.Bytes
import Fuzzing.Proofs.Mutator.Guarded
import Fuzzing.Proofs.Quantity
import Fuzzing.Proofs.Randomness

/-!
Swaps of byte order as spans that are turned around. A width that does not fit into the buffer gives way to the least one, so
that each span lies in the buffer (`Turn.Fits`). However the spans overlap, no byte is lost, and to turn them around again,
the last one first, undoes them all (`turned_reverse`).
-/
namespace Fuzzing.Mutation

open Fuzzing.Action (Follows Yields)

variable {ρ σ : Type} {sound : σ → Prop} {data : Bytes} {length : Nat}

/-- A span to turn around: the width that is drawn for it, and where it starts. -/
structure Turn where
  drawn : Nat
  pos : Nat
  deriving DecidableEq, Repr

/-- How wide a span is in a buffer of some length, by the width that is drawn. -/
def widthIn (length drawn : Nat) : Nat := if length < drawn then 2 else drawn

namespace Turn

def width (length : Nat) (turn : Turn) : Nat := widthIn length turn.drawn

/-- A span as it is drawn for a buffer of some length, in which it lies. -/
structure Fits (length : Nat) (turn : Turn) : Prop where
  known : turn.drawn ∈ [2,4,8]
  kept : turn.drawn ≤ length → turn.width length = turn.drawn
  replaced : length < turn.drawn → turn.width length = 2
  listed : turn.width length ∈ [2,4,8]
  short : turn.width length ≤ length
  inside : turn.pos + turn.width length ≤ length

end Turn

/-- A buffer with some spans turned around, one after another. -/
def turned (length : Nat) (turns : List Turn) (data : Bytes) : Bytes :=
  turns.foldl (fun data turn => data.reversedAt turn.pos (turn.width length)) data

section

variable {turns : List Turn}

private theorem turned_append (later : List Turn) :
    turned length (turns ++ later) data = turned length later (turned length turns data) :=
  List.foldl_append

private theorem perm_turned (fits : ∀ turn ∈ turns, turn.Fits length) (long : data.length = length) :
    (turned length turns data).Perm data := by
  induction turns generalizing data with
  | nil => exact .refl data
  | cons turn rest ih =>
    obtain ⟨first,later⟩ := List.forall_mem_cons.mp fits
    have inside : turn.pos + turn.width length ≤ data.length := long ▸ first.inside
    exact (ih later ((Bytes.length_reversedAt inside).trans long)).trans (Bytes.perm_reversedAt inside)

private theorem getElem?_turned (fits : ∀ turn ∈ turns, turn.Fits length) (long : data.length = length) {i : Nat}
    (outside : ∀ turn ∈ turns, i < turn.pos ∨ turn.pos + turn.width length ≤ i) :
    (turned length turns data)[i]? = data[i]? := by
  induction turns generalizing data with
  | nil => rfl
  | cons turn rest ih =>
    obtain ⟨first,later⟩ := List.forall_mem_cons.mp fits
    obtain ⟨beside,others⟩ := List.forall_mem_cons.mp outside
    have inside : turn.pos + turn.width length ≤ data.length := long ▸ first.inside
    exact (ih later ((Bytes.length_reversedAt inside).trans long) others).trans
      ((Bytes.sameOutside_reversedAt inside).same i beside)

/-- To turn the last span around first undoes each of them where it stood. -/
theorem turned_reverse (fits : ∀ turn ∈ turns, turn.Fits length) (long : data.length = length) :
    turned length turns.reverse (turned length turns data) = data := by
  induction turns generalizing data with
  | nil => rfl
  | cons turn rest ih =>
    obtain ⟨first,later⟩ := List.forall_mem_cons.mp fits
    have inside : turn.pos + turn.width length ≤ data.length := long ▸ first.inside
    have undone : turned length rest.reverse (turned length (turn :: rest) data) =
      data.reversedAt turn.pos (turn.width length) := ih later ((Bytes.length_reversedAt inside).trans long)
    rw [List.reverse_cons,turned_append,undone]
    exact Bytes.reversedAt_reversedAt inside

end

variable [Source ρ σ]

def drawTurn (length : Nat) : Action ρ σ Turn := do
  let drawn ← Draw.choose swapWidths
  let pos ← Draw.between 0 (length - widthIn length drawn)
  pure ⟨drawn,pos⟩

/-- All spans that are turned around in a buffer of some length. -/
def drawTurns (length : Nat) : Action ρ σ (List Turn) := Draw.several (min mostFlips (length / 2)) (drawTurn length)

private theorem follows_swapSpan (answers : Answering ρ sound) (long : 2 ≤ data.length) :
    Follows sound (drawTurn data.length : Action ρ σ Turn) (Turn.Fits data.length) (swapSpan data)
      fun turn => data.reversedAt turn.pos (turn.width data.length) := by
  refine Follows.bind (Draw.yields_choose answers (by decide)) fun drawn listed => ?_
  have kept : drawn ≤ data.length → widthIn data.length drawn = drawn := fun short => if_neg (by omega)
  have replaced : data.length < drawn → widthIn data.length drawn = 2 := fun wide => if_pos wide
  have known : widthIn data.length drawn ∈ [2,4,8] ∧ widthIn data.length drawn ≤ data.length := by
    by_cases wide : data.length < drawn
    · rw [replaced wide]
      exact ⟨by decide,long⟩
    · rw [kept (by omega)]
      exact ⟨listed,by omega⟩
  refine Follows.bind (Draw.yields_between answers (by omega)) fun pos bounds => ?_
  have inside : pos + widthIn data.length drawn ≤ data.length := by omega
  exact .pure ⟨listed,kept,replaced,known.1,known.2,inside⟩ rfl

private theorem follows_endianSwaps (answers : Answering ρ sound) (long : 2 ≤ data.length) :
    Follows sound (drawTurns data.length : Action ρ σ (List Turn))
      (fun turns => 1 ≤ turns.length ∧ turns.length ≤ min 5 (data.length / 2) ∧ ∀ turn ∈ turns, turn.Fits data.length)
      (endianSwaps data) fun turns => turned data.length turns data := by
  rw [endianSwaps,if_neg (by omega)]
  have one : ∀ now : Bytes, now.length = data.length → Follows sound (drawTurn data.length : Action ρ σ Turn)
      (Turn.Fits data.length) (swapSpan now) fun turn => now.reversedAt turn.pos (turn.width data.length) := by
    intro now same
    rw [← same]
    exact follows_swapSpan answers (by omega)
  have keeps : ∀ (turn : Turn) (now : Bytes), turn.Fits data.length → now.length = data.length →
      (now.reversedAt turn.pos (turn.width data.length)).length = data.length := by
    intro turn now fits same
    rw [Bytes.length_reversedAt (by rw [same]; exact fits.inside),same]
  refine (Follows.several answers (by simp only [mostFlips]; omega) one keeps rfl).mono ?_
  rintro turns ⟨⟨least,most⟩,fits⟩
  simp only [mostFlips] at most
  exact ⟨least,by omega,fits⟩

theorem yields_endianSwaps (answers : Answering ρ sound) (data : Bytes) :
    Yields sound (endianSwaps data : Action ρ σ Bytes) fun out => out.length = data.length := by
  by_cases short : data.length < 2
  · rw [endianSwaps,if_pos short]
    exact .pure rfl
  · refine (follows_endianSwaps answers (by omega)).yields.mono ?_
    rintro _ ⟨turns,⟨-,-,fits⟩,rfl⟩
    exact (perm_turned fits rfl).length_eq

/-- Swaps of byte order are reversals of spans that lie in the buffer: they lose no byte, keep those that lie in none of the
    spans, and are undone in the opposite order. Where the buffer has no two bytes, nothing is drawn. -/
theorem spans_turned [Quantity ρ] (answers : Answering ρ sound) (data : Bytes) {s : σ} (good : sound s) :
    (data.length < 2 → (Builtin.endianness : Builtin ρ).mutate data s = ⟨.ok data,s,[]⟩) ∧
    (2 ≤ data.length → ∃ turns s', sound s' ∧
      (drawTurns data.length : Action ρ σ (List Turn)) s = ⟨.ok turns,s',[]⟩ ∧
      1 ≤ turns.length ∧ turns.length ≤ min 5 (data.length / 2) ∧ (∀ turn ∈ turns, turn.Fits data.length) ∧
      ∃ out, (Builtin.endianness : Builtin ρ).mutate data s = ⟨.ok out,s',[]⟩ ∧
        out = turned data.length turns data ∧ out.Perm data ∧
        (∀ i, (∀ turn ∈ turns, i < turn.pos ∨ turn.pos + turn.width data.length ≤ i) → out[i]? = data[i]?) ∧
        turned data.length turns.reverse out = data) := by
  have present := answers.present s good
  constructor
  · intro short
    by_cases empty : data = []
    · rw [empty]
      exact guarded_nil present _
    · have untouched : (endianSwaps data : Action ρ σ Bytes) s = ⟨.ok data,s,[]⟩ := by
        rw [endianSwaps,if_pos short]
        rfl
      exact guarded_apply_ok present empty _ untouched
  · intro long
    have nonempty : data ≠ [] := List.length_pos_iff.mp (by omega)
    obtain ⟨turns,s',drawn,good',⟨least,most,fits⟩,made⟩ := follows_endianSwaps answers long s good
    refine ⟨turns,s',good',drawn,least,most,fits,_,guarded_apply_ok present nonempty _ made,rfl,?_⟩
    exact ⟨perm_turned fits rfl,fun _ outside => getElem?_turned fits rfl outside,turned_reverse fits rfl⟩

/-- Eight bytes do not fit into five, and so two are turned around, and then four that overlap them. -/
theorem spans_turned_overlapping :
    ([9] : Bytes).length < 2 ∧
    (Builtin.endianness : Builtin Rat).mutate [9] (⟨1⟩ : Cycling) = ⟨.ok [9],⟨1⟩,[]⟩ ∧
    2 ≤ ([1,2,3,4,5] : Bytes).length ∧
    drawTurns ([1,2,3,4,5] : Bytes).length (⟨1⟩ : Cycling) =
      (⟨.ok [⟨8,3⟩,⟨4,1⟩],⟨6⟩,[]⟩ : Trace Rat Cycling (List Turn)) ∧
    (Builtin.endianness : Builtin Rat).mutate [1,2,3,4,5] (⟨1⟩ : Cycling) = ⟨.ok [1,4,5,3,2],⟨6⟩,[]⟩ ∧
    (⟨8,3⟩ : Turn).Fits 5 ∧ (⟨4,1⟩ : Turn).Fits 5 ∧
    ([1,4,5,3,2] : Bytes).Perm [1,2,3,4,5] ∧
    turned 5 [⟨4,1⟩,⟨8,3⟩] [1,4,5,3,2] = [1,2,3,4,5] := by
  have answers : Answering Rat fun _ : Cycling => True := Cycling.supplying.toAnswering
  have long : 2 ≤ ([1,2,3,4,5] : Bytes).length := by decide
  have short : ([9] : Bytes).length < 2 := by decide
  have drawn : drawTurns ([1,2,3,4,5] : Bytes).length (⟨1⟩ : Cycling) =
    (⟨.ok [⟨8,3⟩,⟨4,1⟩],⟨6⟩,[]⟩ : Trace Rat Cycling (List Turn)) := rfl
  have ran : (Builtin.endianness : Builtin Rat).mutate [1,2,3,4,5] (⟨1⟩ : Cycling) = ⟨.ok [1,4,5,3,2],⟨6⟩,[]⟩ := rfl
  obtain ⟨_,_,-,again,-,-,fits,_,made,-,permuted,-,undone⟩ :=
    (spans_turned answers [1,2,3,4,5] (s := ⟨1⟩) trivial).2 long
  rw [drawn] at again
  cases again
  rw [ran] at made
  cases made
  obtain ⟨first,later⟩ := List.forall_mem_cons.mp fits
  exact ⟨short,(spans_turned answers [9] (s := ⟨1⟩) trivial).1 short,long,drawn,ran,first,later _ List.mem_cons_self,
    permuted,undone⟩

end Fuzzing.Mutation

import Mathlib.Data.Nat.Basic
import Mathlib.Logic.Function.Iterate
import Mathlib.Order.Monotone.Defs
import Fuzzing.Proofs.Engine.Stack
import Fuzzing.Proofs.Mutation.Overwrite
import Fuzzing.Proofs.Mutation.Segment
import Fuzzing.Proofs.Mutation.Serialized
import Fuzzing.Proofs.Mutation.Turned

/-!
The boundary around the built-in mutators is never needed: on a buffer that is not empty, and on a source that answers
what can be answered, what is inside of the boundary succeeds. A kind that only changes bytes keeps the length of a
buffer, one that changes its shape adds or takes at most half of it or ten bytes, and one that knows about length prefixes
adds at most eight bytes (`Builtin.Envelope`). So a result of a stack of `k` mutators is at most as long as `grown` makes
it `k` times over (`lengths_enveloped`).
-/
namespace Fuzzing

open Fuzzing.Action (Gives Yields)

variable {ρ σ : Type} [Source ρ σ] {sound : σ → Prop}

/-- A mutator that may change a buffer, return nothing or raise, but does not refuse its argument, and leaves a sound
    source sound. -/
def Mutator.Tame {ρ σ : Type} (sound : σ → Prop) (m : Mutator ρ σ) : Prop :=
  ∀ data s, sound s → sound (m.mutate data s).state ∧ ∀ why s', ¬ (m.mutate data).Fails s (.refused why) s'

private theorem guarded_of_yields (answers : Answering ρ sound) {mutation : Bytes → Action ρ σ Bytes} {data : Bytes}
    (yields : Yields sound (mutation data) fun _ => True) (nonempty : data ≠ []) (name : String) {s : σ}
    (good : sound s) :
    ∃ out s', sound s' ∧ mutation data s = ⟨.ok out,s',[]⟩ ∧ guarded name mutation data s = ⟨.ok out,s',[]⟩ := by
  obtain ⟨out,s',ran,good',-⟩ := yields s good
  exact ⟨out,s',good',ran,guarded_apply_ok (answers.present s good) nonempty name ran⟩

namespace Builtin

variable [Quantity ρ]

/-- A kind has what its mutators choose from: values, or edits and a cap that is a number. -/
def Furnished : Builtin ρ → Prop
  | values catalog => catalog ≠ []
  | serialized edits maxGrowth => edits ≠ [] ∧ Mutation.IsCap maxGrowth
  | _ => True

private theorem yields_mutation (answers : Answering ρ sound) {b : Builtin ρ} (furnished : b.Furnished) {data : Bytes}
    (nonempty : data ≠ []) : Yields sound (b.mutation data : Action ρ σ Bytes) fun _ => True := by
  have long : 0 < data.length := List.length_pos_iff.mpr nonempty
  cases b with
  | bitFlip => exact (Mutation.yields_bitFlips answers long).mono fun _ _ => trivial
  | byteFlip => exact (Mutation.yields_byteFlips answers long).mono fun _ _ => trivial
  | endianness => exact (Mutation.yields_endianSwaps answers data).mono fun _ _ => trivial
  | segments => exact (Mutation.yields_editSegments answers data).mono fun _ _ => trivial
  | values catalog => exact (Mutation.yields_replaceValues answers furnished data).mono fun _ _ => trivial
  | serialized edits maxGrowth => exact Mutation.yields_editSerialized answers furnished.1 furnished.2 long

/-- What a built-in mutator does to a buffer that is not empty succeeds by itself, and so does deliberate damage:
    neither falls back to the unmodified buffer, nor notes that it failed. -/
theorem mutate_never_degrades (answers : Answering ρ sound) {b : Builtin ρ} (furnished : b.Furnished)
    {data : Bytes} (nonempty : data ≠ []) {s : σ} (good : sound s) :
    (∃ out s', sound s' ∧ b.mutation data s = ⟨.ok out,s',[]⟩ ∧ b.mutate data s = ⟨.ok out,s',[]⟩) ∧
    (∀ edits maxGrowth, b = serialized edits maxGrowth →
      ∃ out s', sound s' ∧ (Mutation.corruptWhole data : Action ρ σ Bytes) s = ⟨.ok out,s',[]⟩ ∧
        b.corrupt data s = ⟨.ok out,s',[]⟩) := by
  constructor
  · exact guarded_of_yields answers (yields_mutation answers furnished nonempty) nonempty b.name good
  · rintro edits maxGrowth rfl
    have damage : Yields sound (Mutation.corruptWhole data : Action ρ σ Bytes) fun _ => True :=
      (Mutation.yields_corruptWhole answers (List.length_pos_iff.mpr nonempty)).mono fun _ _ => trivial
    exact guarded_of_yields answers damage nonempty _ good

/-- A marker with nothing behind it, and a cap that it reaches. -/
theorem mutate_never_degrades_lone_marker :
    ∃ out g out' g',
      (serialized Mutation.SerializedEdit.all (.whole 1) : Builtin Float).mutation [0xFD] (Twister.ofSeed 42) =
        ⟨.ok out,g,[]⟩ ∧
      (serialized Mutation.SerializedEdit.all (.whole 1) : Builtin Float).mutate [0xFD] (Twister.ofSeed 42) =
        ⟨.ok out,g,[]⟩ ∧
      (serialized Mutation.SerializedEdit.all (.whole 1) : Builtin Float).corrupt [0xFD] (Twister.ofSeed 42) =
        ⟨.ok out',g',[]⟩ := by
  have furnished : (serialized Mutation.SerializedEdit.all (.whole 1) : Builtin Float).Furnished :=
    ⟨by decide,trivial⟩
  obtain ⟨⟨out,g,-,ran,passed⟩,damage⟩ := mutate_never_degrades Twister.answering furnished
    (by decide : ([0xFD] : Bytes) ≠ []) (s := Twister.ofSeed 42) trivial
  obtain ⟨out',g',-,-,damaged⟩ := damage _ _ rfl
  exact ⟨out,g,out',g',ran,passed,damaged⟩

end Builtin

namespace Builtin

/-- A mutator of serialized data needs an edit to choose. -/
def Equipped : Builtin ρ → Prop
  | serialized edits _ => edits ≠ []
  | _ => True

/-- How long a kind may make a buffer of some length. -/
def Envelope (b : Builtin ρ) (length out : Nat) : Prop :=
  match b with
  | bitFlip | byteFlip | endianness | values _ => out = length
  | segments => length - length / 2 ≤ out ∧ out ≤ length + max 10 (length / 2)
  | serialized .. => out ≤ length + 8

/-- The longest that any kind makes a buffer of some length. -/
def grown (length : Nat) : Nat := length + max 10 (length / 2)

private theorem monotone_grown : Monotone grown := by
  intro a b le
  unfold grown
  omega

omit [Source ρ σ] in
private theorem Envelope.le_grown {b : Builtin ρ} {length out : Nat} (within : b.Envelope length out) : out ≤ grown length := by
  unfold grown
  cases b with
  | segments => exact within.2
  | serialized edits maxGrowth =>
    have few : out ≤ length + 8 := within
    omega
  | _ =>
    obtain rfl : out = length := within
    omega

private theorem Envelope.pos {b : Builtin ρ} (other : ∀ edits maxGrowth, b ≠ serialized edits maxGrowth) {length out : Nat}
    (within : b.Envelope length out) (nonempty : 0 < length) : 0 < out := by
  cases b with
  | segments =>
    have least : length - length / 2 ≤ out := within.1
    omega
  | serialized edits maxGrowth => exact absurd rfl (other edits maxGrowth)
  | _ =>
    obtain rfl : out = length := within
    exact nonempty

private theorem Envelope.refl (b : Builtin ρ) (length : Nat) : b.Envelope length length := by
  cases b with
  | segments => exact ⟨by omega,by omega⟩
  | serialized edits maxGrowth => exact Nat.le_add_right length 8
  | _ => rfl

variable [Quantity ρ]

private theorem gives_mutation {sound : σ → Prop} (answers : Answering ρ sound) {b : Builtin ρ} (equipped : b.Equipped)
    {data : Bytes} (nonempty : data ≠ []) :
    Gives sound (b.mutation data : Action ρ σ Bytes) fun out => b.Envelope data.length out.length := by
  have long : 0 < data.length := List.length_pos_iff.mpr nonempty
  cases b with
  | bitFlip => exact .of_yields (Mutation.yields_bitFlips answers long)
  | byteFlip => exact .of_yields (Mutation.yields_byteFlips answers long)
  | endianness => exact .of_yields (Mutation.yields_endianSwaps answers data)
  | segments => exact .of_yields (Mutation.yields_editSegments answers data)
  | values catalog => exact Mutation.gives_replaceValues answers catalog data
  | serialized edits maxGrowth =>
    refine (Gives.of_yields (Draw.yields_choose answers equipped)).bind fun edit _ => ?_
    exact (Mutation.gives_perform answers edit maxGrowth long).mono fun _ => And.left

variable {b : Builtin ρ} {data out : Bytes} {s s' : σ} {handle : Nat}

private theorem envelope_of_returns (supplies : Supplying ρ fun _ : σ => True) (equipped : b.Equipped) (nonempty : data ≠ [])
    (returned : (b.mutate data).Returns s out s') : b.Envelope data.length out.length := by
  obtain changed | ⟨rfl,-⟩ := (returns_guarded (supplies.present s trivial) nonempty).mp returned
  · exact (gives_mutation supplies.toAnswering equipped nonempty s out s' trivial changed).2
  · exact .refl b _

/-- One of some edits is drawn and made of a buffer, which stays as it is where the edit fails. -/
def Edited (edits : List Mutation.SerializedEdit) (maxGrowth : Document ρ) (data : Bytes) (s : σ)
    (edit : Mutation.SerializedEdit) (out : Bytes) (s' : σ) : Prop :=
  edit ∈ edits ∧ ∃ s₁, (Draw.choose edits : Action ρ σ Mutation.SerializedEdit).Returns s edit s₁ ∧
    ((edit.perform maxGrowth data).Returns s₁ out s' ∨ out = data ∧ ∃ e, (edit.perform maxGrowth data).Fails s₁ e s')

/-- A mutator of serialized data makes one of its edits, and leaves something of the buffer unless that edit damages
    all of it. -/
private theorem exists_edited (supplies : Supplying ρ fun _ : σ => True) {edits : List Mutation.SerializedEdit}
    (some : edits ≠ []) (maxGrowth : Document ρ) (nonempty : data ≠ []) (s : σ) :
    ∃ edit out s', Edited edits maxGrowth data s edit out s' ∧
      ((serialized edits maxGrowth).mutate data).Returns s out s' ∧ (edit ≠ .corruptWhole → 1 ≤ out.length) := by
  have present := supplies.present s trivial
  have long : 0 < data.length := List.length_pos_iff.mpr nonempty
  obtain ⟨edit,s₁,ran,-,mem⟩ := Draw.yields_choose supplies.toAnswering some s trivial
  have chosen : (Draw.choose edits : Action ρ σ _).Returns s edit s₁ := ⟨[],ran⟩
  rcases performed : (edit.perform maxGrowth data : Action ρ σ Bytes) s₁ with ⟨e | out,s',noted⟩
  · have failed : (edit.perform maxGrowth data : Action ρ σ Bytes).Fails s₁ e s' := ⟨noted,performed⟩
    have whole : ((serialized edits maxGrowth).mutation data).Fails s e s' :=
      Action.fails_bind.mpr (.inr ⟨edit,s₁,chosen,failed⟩)
    have given : ((serialized edits maxGrowth).mutate data).Returns s data s' :=
      (returns_guarded present nonempty).mpr (.inr ⟨rfl,e,whole⟩)
    exact ⟨edit,data,s',⟨mem,s₁,chosen,.inr ⟨rfl,e,failed⟩⟩,given,fun _ => long⟩
  · have returned : (edit.perform maxGrowth data : Action ρ σ Bytes).Returns s₁ out s' := ⟨noted,performed⟩
    have whole : ((serialized edits maxGrowth).mutation data).Returns s out s' :=
      Action.returns_bind.mpr ⟨edit,s₁,chosen,returned⟩
    have given : ((serialized edits maxGrowth).mutate data).Returns s out s' :=
      (returns_guarded present nonempty).mpr (.inl whole)
    have lengths := Mutation.gives_perform supplies.toAnswering edit maxGrowth long s₁ out s' trivial returned
    exact ⟨edit,out,s',⟨mem,s₁,chosen,.inl returned⟩,given,lengths.2.2⟩

/-- A built-in mutator, with an edit to choose where it needs one. -/
def Makes (b : Builtin ρ) (m : Mutator ρ σ) : Prop := b.Equipped ∧ ∃ handle, m = b.mutator handle

private theorem Makes.of_turns (supplies : Supplying ρ fun _ : σ => True) {m : Mutator ρ σ} (makes : b.Makes m)
    (turns : m.Turns data s out s') :
    (data ≠ [] → b.Envelope data.length out.length) ∧ (data = [] → out = []) := by
  obtain ⟨equipped,handle,rfl⟩ := makes
  cases turns with
  | changed returned =>
    have returned : (some <$> b.mutate data : Action ρ σ (Option Bytes)).Returns s (some out) s' := returned
    obtain ⟨_,returned,same⟩ := Action.returns_map.mp returned
    obtain rfl := Option.some.inj same
    refine ⟨fun nonempty => envelope_of_returns supplies equipped nonempty returned,?_⟩
    rintro rfl
    exact (returned.unique ⟨[],mutate_nil (supplies.present s trivial) b⟩).1
  | nothing => exact ⟨fun _ => .refl b _,id⟩
  | raised => exact ⟨fun _ => .refl b _,id⟩

/-- All of the mutators are built-in ones. -/
def Stock (mutators : List (Mutator ρ σ)) : Prop := ∀ m ∈ mutators, ∃ b : Builtin ρ, b.Makes m

variable {pick : Action ρ σ (Mutator ρ σ)} {chosen : List (Mutator ρ σ)}

private theorem Stock.nil_of_stacked (supplies : Supplying ρ fun _ : σ => True) (stock : Stock chosen)
    (stacked : Stacked pick data s chosen out s') (empty : data = []) : out = [] := by
  induction stacked with
  | nil => exact empty
  | cons picked turns _ ih =>
    obtain ⟨⟨b,makes⟩,rest⟩ := List.forall_mem_cons.mp stock
    exact ih rest ((makes.of_turns supplies turns).2 empty)

private theorem Stock.length_of_stacked (supplies : Supplying ρ fun _ : σ => True) (stock : Stock chosen)
    (stacked : Stacked pick data s chosen out s') : out.length ≤ grown^[chosen.length] data.length := by
  induction stacked with
  | nil => exact Nat.le_refl _
  | @cons data mid out _ _ _ _ m chosen picked turns later ih =>
    obtain ⟨⟨b,makes⟩,rest⟩ := List.forall_mem_cons.mp stock
    have step := makes.of_turns supplies turns
    have one : mid.length ≤ grown data.length := by
      by_cases empty : data = []
      · rw [step.2 empty]
        exact Nat.zero_le _
      · exact (step.1 empty).le_grown
    calc out.length ≤ grown^[chosen.length] mid.length := ih rest
      _ ≤ grown^[chosen.length] (grown data.length) := monotone_grown.iterate _ one
      _ = grown^[(m :: chosen).length] data.length := (Function.iterate_succ_apply grown _ _).symm

/-- No mutator of the stack is one of serialized data. -/
def Unserialized (chosen : List (Mutator ρ σ)) : Prop :=
  ∀ m ∈ chosen, ∀ edits maxGrowth, ¬ (serialized edits maxGrowth).Makes m

private theorem Stock.ne_nil_of_stacked (supplies : Supplying ρ fun _ : σ => True) (stock : Stock chosen)
    (others : Unserialized chosen) (stacked : Stacked pick data s chosen out s') (nonempty : data ≠ []) : out ≠ [] := by
  induction stacked with
  | nil => exact nonempty
  | @cons data mid out _ _ _ _ m chosen picked turns later ih =>
    obtain ⟨⟨b,makes⟩,rest⟩ := List.forall_mem_cons.mp stock
    obtain ⟨other,others⟩ := List.forall_mem_cons.mp others
    have kind (edits : List Mutation.SerializedEdit) (maxGrowth : Document ρ) : b ≠ serialized edits maxGrowth := by
      rintro rfl
      exact other edits maxGrowth makes
    have within := (makes.of_turns supplies turns).1 nonempty
    have long := within.pos kind (List.length_pos_iff.mpr nonempty)
    exact ih rest others (List.length_pos_iff.mp long)

private theorem Makes.not_fails (supplies : Supplying ρ fun _ : σ => True) {m : Mutator ρ σ} (makes : b.Makes m)
    {e : Failure ρ} : ¬ (m.mutate data).Fails s e s' := by
  obtain ⟨-,handle,rfl⟩ := makes
  obtain ⟨out,s₁,returned⟩ := exists_returns_guarded (supplies.present s trivial) b.name b.mutation data
  have given : (some <$> b.mutate data : Action ρ σ (Option Bytes)).Returns s (some out) s₁ :=
    Action.returns_map.mpr ⟨out,returned,rfl⟩
  obtain ⟨noted,ran⟩ := given
  rintro ⟨events,failed⟩
  have same : some <$> b.mutate data = (b.mutator handle : Mutator ρ σ).mutate data := rfl
  rw [← same,ran] at failed
  cases failed

/-- A mutation returns what a buffer becomes while it passes through `k` mutators, in the lengths that these allow: the
    result is not too long, it is empty where the buffer was after some of them, and it is not empty where the buffer
    was not and no mutator of serialized data was among them. -/
def Enveloped {τ : Type} (pick : Action ρ σ (Mutator ρ σ)) (mutators : List (Mutator ρ σ)) (data : Bytes) (k : Nat)
    (s : σ) (mutation : Action ρ τ Bytes) (t : τ) : Prop :=
  ∃ chosen out s' t', chosen.length = k ∧ chosen ⊆ mutators ∧ Stacked pick data s chosen out s' ∧
    mutation.Returns t out t' ∧ out.length ≤ grown^[k] data.length ∧
    (∀ first rest mid s₁, chosen = first ++ rest → Stacked pick data s first mid s₁ →
      Stacked pick mid s₁ rest out s' → mid = [] → out = []) ∧
    (Unserialized chosen → data ≠ [] → out ≠ [])

private theorem Stock.enveloped {τ : Type} {mutators : List (Mutator ρ σ)} (supplies : Supplying ρ fun _ : σ => True)
    (stock : Stock mutators) (picks : Yields (fun _ => True) pick (· ∈ mutators)) (data : Bytes) (k : Nat) (s : σ)
    {mutation : Action ρ τ Bytes} {t : τ}
    (returns : ∀ {chosen out s'}, chosen.length = k → Stacked pick data s chosen out s' →
      ∃ t', mutation.Returns t out t') :
    Enveloped pick mutators data k s mutation t := by
  obtain ⟨chosen,out,s',long,among,-,stacked⟩ | ⟨_,call,why,s',-,-,mem,-,_,-,-,refused⟩ :=
    stacked_or_halted picks (fun _ _ _ _ _ => trivial) k data trivial
  · have made : Stock chosen := fun m mem => stock m (among mem)
    obtain ⟨t',returned⟩ := returns long stacked
    refine ⟨chosen,out,s',t',long,among,stacked,returned,?_,?_,?_⟩
    · exact long ▸ made.length_of_stacked supplies stacked
    · rintro first rest mid s₁ rfl _ later empty
      have remaining : Stock rest := fun m mem => made m (List.mem_append_right first mem)
      exact remaining.nil_of_stacked supplies later empty
    · exact fun others nonempty => made.ne_nil_of_stacked supplies others stacked nonempty
  · obtain ⟨b,makes⟩ := stock call.mutator mem
    exact absurd refused (makes.not_fails supplies)

/-- The lengths of what built-in mutators make, one by one and stacked by either engine, on every source that gives what
    it is asked for. -/
theorem lengths_enveloped (supplies : Supplying ρ fun _ : σ => True) :
    (∀ (b : Builtin ρ) (data : Bytes) (s : σ), b.Equipped → data ≠ [] →
      ∃ out s', (b.mutate data).Returns s out s' ∧ b.Envelope data.length out.length) ∧
    (∀ (edits : List Mutation.SerializedEdit) (maxGrowth : Document ρ) (data : Bytes) (s : σ), edits ≠ [] → data ≠ [] →
      ∃ edit out s', Edited edits maxGrowth data s edit out s' ∧
        ((serialized edits maxGrowth).mutate data).Returns s out s' ∧ (edit ≠ .corruptWhole → 1 ≤ out.length)) ∧
    (∀ (b : Builtin ρ) (s : σ), b.mutate [] s = ⟨.ok [],s,[]⟩) ∧
    (∀ (g : Guided ρ σ) (data : Bytes) (k : Nat), g.ledger.mutators ≠ [] → Stock g.ledger.mutators →
      Enveloped g.pick g.ledger.mutators data k g.source (Guided.mutate (some data) (.whole k)) g) ∧
    (∀ (u : Uniform ρ σ) (data : Bytes) (k : Nat), u.mutators ≠ [] → Stock u.mutators →
      Enveloped u.pick u.mutators data k u.source (Uniform.mutate (some data) (.whole k)) u) := by
  refine ⟨?_,?_,?_,?_,?_⟩
  · intro b data s equipped nonempty
    obtain ⟨out,s',returned⟩ := exists_returns_guarded (supplies.present s trivial) b.name b.mutation data
    exact ⟨out,s',returned,envelope_of_returns supplies equipped nonempty returned⟩
  · intro edits maxGrowth data s some nonempty
    exact exists_edited supplies some maxGrowth nonempty s
  · intro b s
    exact mutate_nil (supplies.present s trivial) b
  · intro g data k filled stock
    refine stock.enveloped supplies (Guided.yields_pick supplies filled) data k g.source ?_
    rintro chosen out s' rfl stacked
    exact ⟨_,Guided.returns_mutate filled stacked⟩
  · intro u data k filled stock
    refine stock.enveloped supplies (Uniform.yields_pick supplies.toAnswering filled) data k u.source ?_
    rintro chosen out s' rfl stacked
    exact ⟨_,Uniform.returns_mutate filled stacked⟩

/-- The six kinds, stacked on three bytes. -/
theorem lengths_enveloped_standard :
    let u : Uniform Rat Cycling := ⟨⟨0⟩,standardMutators standardGrowth 0⟩
    Enveloped u.pick u.mutators [1,2,3] 4 u.source (Uniform.mutate (some [1,2,3]) (.whole (4 : Nat))) u ∧
      grown^[4] 3 = 51 := by
  intro u
  have stock : Stock u.mutators := by
    intro m mem
    obtain ⟨⟨b,i⟩,there,rfl⟩ := List.mem_map.mp mem
    have equipped : ∀ b ∈ (standard standardGrowth : List (Builtin Rat)), b.Equipped := by
      simp [standard,Equipped,Mutation.SerializedEdit.all]
    exact ⟨b,equipped b (List.fst_mem_of_mem_zipIdx there),_,rfl⟩
  have filled : u.mutators ≠ [] := List.cons_ne_nil _ _
  obtain ⟨-,-,-,-,uniform⟩ := lengths_enveloped (Cycling.supplying (ρ := Rat))
  exact ⟨uniform u [1,2,3] 4 filled stock,rfl⟩

end Builtin

end Fuzzing

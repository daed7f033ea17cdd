import Fuzzing.Proofs.Action.Yields

/-!
Sources that answer every request that can be answered. `Answering ρ sound` asks this of the states in `sound` only,
and nothing at all of requests for a number out of an empty range: a computation that always succeeds on every such
source never makes one. `Follows sound draw allowed act value` says that `act` makes the draws of `draw` and no others,
and that its result is `value` of what is drawn, so that the draws can be made again elsewhere (`Follows.apply`).
-/
namespace Fuzzing

variable {ρ σ : Type}

/-- From a sound state, a number out of a range that is not empty is a whole one in that range, and leaves a sound
    state. -/
structure Answering (ρ : Type) {σ : Type} [Source ρ σ] (sound : σ → Prop) : Prop where
  present : ∀ s, sound s → Source.absent ρ s = false
  between : ∀ low high s, sound s → low ≤ high → ∃ n s',
    Source.between low high s = ((.ok (.whole n) : Except (Failure ρ) (Amount ρ)),s') ∧
      low ≤ n ∧ n ≤ high ∧ sound s'
  place : ∀ length s, sound s → 0 < length → ∃ n s',
    Source.place length s = ((.ok (.whole n) : Except (Failure ρ) (Amount ρ)),s') ∧
      0 ≤ n ∧ n < (length : Int) ∧ sound s'

/-- A sound source also gives a fraction and as many bytes as it is asked for, and stays sound. -/
structure Supplying (ρ : Type) {σ : Type} [Source ρ σ] (sound : σ → Prop) : Prop extends Answering ρ sound where
  fraction : ∀ s, sound s → ∃ (x : ρ) (s' : σ), Source.fraction s = (.ok x,s') ∧ sound s'
  bytes : ∀ size s, sound s → ∃ bs s',
    Source.bytes size s = ((.ok bs : Except (Failure ρ) Bytes),s') ∧ bs.length = size ∧ sound s'

/-- All states of a conforming source are sound. -/
theorem Conforming.answering [Quantity ρ] [Source ρ σ] (conforming : Conforming ρ σ) :
    Answering ρ fun _ : σ => True where
  present s _ := conforming.present s
  between low high s _ nonempty := by
    obtain ⟨n,s',drawn,least,most⟩ := conforming.between low high s nonempty
    exact ⟨n,s',drawn,least,most,trivial⟩
  place length s _ nonempty := by
    obtain ⟨n,s',drawn,least,most⟩ := conforming.place length s nonempty
    exact ⟨n,s',drawn,least,most,trivial⟩

theorem Conforming.supplying [Quantity ρ] [Source ρ σ] (conforming : Conforming ρ σ) :
    Supplying ρ fun _ : σ => True where
  toAnswering := conforming.answering
  fraction s _ := by
    obtain ⟨x,s',drawn,-,-⟩ := conforming.fraction s
    exact ⟨x,s',drawn,trivial⟩
  bytes size s _ := by
    obtain ⟨bs,s',drawn,full⟩ := conforming.bytes size s
    exact ⟨bs,s',drawn,full,trivial⟩

/-- A source that answers from every state is sound, where a place in a series is a number in a range. -/
private theorem answering_of_between [Source ρ σ] (present : ∀ s : σ, Source.absent ρ s = false)
    (between : ∀ low high (s : σ), low ≤ high → ∃ n s',
      Source.between low high s = ((.ok (.whole n) : Except (Failure ρ) (Amount ρ)),s') ∧ low ≤ n ∧ n ≤ high)
    (place : ∀ length (s : σ), length ≠ 0 →
      (Source.place length s : Except (Failure ρ) (Amount ρ) × σ) = Source.between 0 (length - 1) s) :
    Answering ρ fun _ : σ => True where
  present s _ := present s
  between low high s _ nonempty := by
    obtain ⟨n,s',drawn,least,most⟩ := between low high s nonempty
    exact ⟨n,s',drawn,least,most,trivial⟩
  place length s _ positive := by
    obtain ⟨n,s',drawn,least,most⟩ := between 0 (length - 1) s (by omega)
    refine ⟨n,s',?_,least,by omega,trivial⟩
    rw [place length s (by omega),drawn]

namespace Twister

private theorem between_mem [Quantity ρ] {low high : Int} (nonempty : low ≤ high) (g : Twister) :
    ∃ n g', Twister.between low high g = ((.ok (.whole n) : Except (Failure ρ) (Amount ρ)),g') ∧
      low ≤ n ∧ n ≤ high := by
  have width : 0 < (high - low + 1).toNat := by omega
  have small := lt_below width g
  refine ⟨low + (g.below (high - low + 1).toNat).1,(g.below (high - low + 1).toNat).2,?_,by omega,by omega⟩
  simp only [Twister.between,if_neg (by omega : ¬ high < low)]

/-- The generator answers from every state. -/
theorem answering [Quantity ρ] : Answering ρ fun _ : Twister => True :=
  answering_of_between (fun _ => rfl) (fun _ _ g nonempty => between_mem nonempty g) fun _ _ some => if_neg some

private theorem length_bytes (size : Nat) (g : Twister) : (g.bytes size).1.length = size := by
  fun_induction Twister.bytes size g with
  | case1 g => rfl
  | case2 g k w g' drawn last =>
    simp only [List.length_drop,wordBytes,List.length_cons,List.length_nil]
    omega
  | case3 g k w g' drawn more rest g'' later ih =>
    rw [later] at ih
    simp only [List.length_append,wordBytes,List.length_cons,List.length_nil,ih]
    omega

/-- The generator also gives a fraction and bytes from every state. -/
theorem supplying [Quantity ρ] : Supplying ρ fun _ : Twister => True where
  toAnswering := answering
  fraction _ _ := ⟨_,_,rfl,trivial⟩
  bytes size g _ := ⟨_,_,rfl,length_bytes size g,trivial⟩

end Twister

/-- The source that always gives the least answer. -/
structure Least where

namespace Least

instance [Quantity ρ] : Source ρ Least where
  absent _ := false
  between low high s := (if high < low then .error .emptyRange else .ok (.whole low),s)
  fraction s := (.ok 0,s)
  bytes size s := (.ok (List.replicate size 0),s)

theorem conforming [Quantity ρ] (least : ¬ (0 : ρ) < 0) (below : (0 : ρ) < 1.0) : Conforming ρ Least where
  present _ := rfl
  between low high s nonempty := ⟨low,s,by simp only [Source.between,if_neg (Int.not_lt.mpr nonempty)],
    Int.le_refl low,nonempty⟩
  place length s some := by
    refine ⟨0,s,?_,Int.le_refl 0,by omega⟩
    simp only [Source.place,if_neg (by omega : ¬ length = 0),if_neg (by omega : ¬ (length : Int) - 1 < 0)]
  fraction s := ⟨0,s,rfl,least,below⟩
  bytes size s := ⟨List.replicate size 0,s,rfl,List.length_replicate⟩

end Least

/-- The source that goes through the numbers of a range in turn. -/
structure Cycling where
  given : Nat

namespace Cycling

instance [Quantity ρ] : Source ρ Cycling where
  absent _ := false
  between low high s :=
    if high < low then (.error .emptyRange,s) else (.ok (.whole (low + s.given % (high - low + 1))),⟨s.given + 1⟩)
  fraction s := (.ok 0,⟨s.given + 1⟩)
  bytes size s := (.ok (List.replicate size 0),⟨s.given + 1⟩)

private theorem between_mem [Quantity ρ] {low high : Int} (nonempty : low ≤ high) (s : Cycling) :
    ∃ n s', Source.between low high s = ((.ok (.whole n) : Except (Failure ρ) (Amount ρ)),s') ∧
      low ≤ n ∧ n ≤ high := by
  have least := Int.emod_nonneg s.given (by omega : high - low + 1 ≠ 0)
  have most := Int.emod_lt_of_pos s.given (by omega : 0 < high - low + 1)
  refine ⟨low + s.given % (high - low + 1),⟨s.given + 1⟩,?_,by omega,by omega⟩
  simp only [Source.between,if_neg (Int.not_lt.mpr nonempty)]

theorem supplying [Quantity ρ] : Supplying ρ fun _ : Cycling => True where
  toAnswering := answering_of_between (fun _ => rfl) (fun _ _ s nonempty => between_mem nonempty s) fun _ _ some =>
    if_neg some
  fraction _ _ := ⟨_,_,rfl,trivial⟩
  bytes _ _ _ := ⟨_,_,rfl,List.length_replicate,trivial⟩

end Cycling

/-- A source, and whether every range that it was asked for was one that is not empty. -/
structure Audited (σ : Type) where
  source : σ
  clean : Bool

namespace Audited

/-- Passes a request on, and remembers whether it could be answered. -/
def pass {α : Type} (answerable : Bool) (request : σ → Except (Failure ρ) α × σ) (a : Audited σ) :
    Except (Failure ρ) α × Audited σ :=
  let (r,s) := request a.source
  (r,⟨s,a.clean && answerable⟩)

variable [Source ρ σ]

instance : Source ρ (Audited σ) where
  absent a := Source.absent ρ a.source
  between low high := pass (decide (low ≤ high)) (Source.between low high)
  place length := pass (decide (0 < length)) (Source.place length)
  inside low high := pass false (Source.inside low high)
  fraction := pass true Source.fraction
  bytes size := pass true (Source.bytes size)

/-- A sound source is still sound while it is audited, and remembers that nothing else was asked of it. -/
theorem supplying {sound : σ → Prop} (supplies : Supplying ρ sound) :
    Supplying ρ fun a : Audited σ => sound a.source ∧ a.clean = true where
  present a good := supplies.present a.source good.1
  between low high a good nonempty := by
    obtain ⟨n,s,drawn,least,most,good'⟩ := supplies.between low high a.source good.1 nonempty
    refine ⟨n,⟨s,true⟩,?_,least,most,good',rfl⟩
    simp only [Source.between,pass,drawn,good.2,nonempty,decide_true,Bool.and_true]
  place length a good positive := by
    obtain ⟨n,s,drawn,least,most,good'⟩ := supplies.place length a.source good.1 positive
    refine ⟨n,⟨s,true⟩,?_,least,most,good',rfl⟩
    simp only [Source.place,pass,drawn,good.2,positive,decide_true,Bool.and_true]
  fraction a good := by
    obtain ⟨x,s,drawn,good'⟩ := supplies.fraction a.source good.1
    refine ⟨x,⟨s,true⟩,?_,good',rfl⟩
    simp only [Source.fraction,pass,drawn,good.2,Bool.and_true]
  bytes size a good := by
    obtain ⟨bs,s,drawn,full,good'⟩ := supplies.bytes size a.source good.1
    refine ⟨bs,⟨s,true⟩,?_,full,good',rfl⟩
    simp only [Source.bytes,pass,drawn,good.2,Bool.and_true]

end Audited

namespace Draw

open Fuzzing.Action (Yields)

variable [Source ρ σ] {sound : σ → Prop}

/-- A present source is asked. -/
theorem ask_apply {α : Type} (answers : Answering ρ sound) {s : σ} (good : sound s) (asked : Drawing)
    {request : σ → Except (Failure ρ) α × σ} {r : Except (Failure ρ) α} {s' : σ} (given : request s = (r,s')) :
    ask asked request s = ⟨r,s',[]⟩ := by
  simp [ask,answers.present s good,Action.ofStep,given]

theorem yields_number (answers : Answering ρ sound) {low : Nat} {high : Int} (nonempty : low ≤ high) :
    Yields sound (number low high : Action ρ σ (Amount ρ)) fun drawn =>
      ∃ n : Nat, drawn = .whole n ∧ low ≤ n ∧ n ≤ high := by
  intro s good
  obtain ⟨n,s',drawn,least,most,good'⟩ := answers.between low high s good nonempty
  refine ⟨.whole n,s',ask_apply answers good _ drawn,good',n.toNat,?_,by omega,by omega⟩
  rw [Int.toNat_of_nonneg (by omega)]

theorem yields_numberBelow (answers : Answering ρ sound) {bound : Nat} (positive : 0 < bound) :
    Yields sound (numberBelow bound : Action ρ σ (Amount ρ)) fun drawn => ∃ n : Nat, drawn = .whole n ∧ n < bound := by
  intro s good
  obtain ⟨n,s',drawn,least,most,good'⟩ := answers.between 0 (bound - 1) s good (by omega)
  have there : ¬ bound = 0 := by omega
  refine ⟨.whole n,s',ask_apply answers good _ (by simpa only [if_neg there] using drawn),good',n.toNat,?_,by omega⟩
  rw [Int.toNat_of_nonneg least]

theorem yields_between (answers : Answering ρ sound) {low : Nat} {high : Int} (nonempty : low ≤ high) :
    Yields sound (between low high : Action ρ σ Nat) fun n => low ≤ n ∧ n ≤ high := by
  refine (yields_number answers nonempty).bind ?_
  rintro _ ⟨n,rfl,least,most⟩
  exact .pure ⟨by simpa using least,by simpa using most⟩

theorem yields_below (answers : Answering ρ sound) {bound : Nat} (positive : 0 < bound) :
    Yields sound (below bound : Action ρ σ Nat) fun n => n < bound := by
  refine (yields_numberBelow answers positive).bind ?_
  rintro _ ⟨n,rfl,small⟩
  exact .pure (by simpa using small)

/-- Both ends of the range are numbers drawn before. -/
theorem yields_span (answers : Answering ρ sound) {low high : Int} (least : 0 ≤ low) (nonempty : low ≤ high) :
    Yields sound (span (.whole low) (.whole high) : Action ρ σ (Amount ρ)) fun drawn =>
      ∃ n : Nat, drawn = .whole n ∧ low ≤ n ∧ n ≤ high := by
  intro s good
  obtain ⟨n,s',drawn,above,most,good'⟩ := answers.between low high s good nonempty
  refine ⟨.whole n,s',ask_apply answers good _ drawn,good',n.toNat,?_,by omega,by omega⟩
  rw [Int.toNat_of_nonneg (by omega)]

omit [Source ρ σ] in
theorem yields_member {α : Type} (kind : Series) {xs : List α} {i : Nat} (inside : i < xs.length) :
    Yields sound (member kind xs i : Action ρ σ α) fun x => xs[i]? = some x := by
  unfold member
  rw [List.getElem?_eq_getElem inside]
  exact .pure rfl

theorem yields_choose (answers : Answering ρ sound) {α : Type} {xs : List α} (nonempty : xs ≠ []) :
    Yields sound (choose xs : Action ρ σ α) fun x => x ∈ xs := by
  have somewhere : Yields sound (ask .choice (Source.place xs.length) : Action ρ σ (Amount ρ)) fun drawn =>
      ∃ n : Nat, drawn = .whole n ∧ n < xs.length := by
    intro s good
    obtain ⟨n,s',drawn,least,most,good'⟩ :=
      answers.place xs.length s good (List.length_pos_iff.mpr nonempty)
    refine ⟨.whole n,s',ask_apply answers good _ drawn,good',n.toNat,?_,by omega⟩
    rw [Int.toNat_of_nonneg least]
  refine somewhere.bind ?_
  rintro _ ⟨n,rfl,inside⟩
  exact (yields_member .growing inside).mono fun x => List.mem_of_getElem?

omit [Source ρ σ] in
theorem yields_asByte {n : Nat} (small : n < 256) :
    Yields sound (asByte n : Action ρ σ UInt8) fun b => b = UInt8.ofNat n := by
  simp only [asByte,if_pos small]
  exact .pure rfl

theorem yields_fraction (supplies : Supplying ρ sound) : Yields sound (fraction : Action ρ σ ρ) fun _ => True := by
  intro s good
  obtain ⟨x,s',drawn,good'⟩ := supplies.fraction s good
  exact ⟨x,s',ask_apply supplies.toAnswering good _ drawn,good',trivial⟩

theorem yields_eachByte (answers : Answering ρ sound) (size : Nat) :
    Yields sound (eachByte size : Action ρ σ Bytes) fun bs => bs.length = size := by
  induction size with
  | zero => exact .pure rfl
  | succ size ih =>
    have one : Yields sound (byte : Action ρ σ UInt8) fun _ => True :=
      (yields_below answers (by decide)).bind fun n small => (yields_asByte small).mono fun _ _ => trivial
    refine one.bind fun b _ => ih.bind fun rest full => .pure ?_
    rw [List.length_cons,full]

end Draw

end Fuzzing

namespace Fuzzing.Action

variable {ρ σ α β γ δ : Type} {sound : σ → Prop}

/-- From every sound state the draws succeed, with something that is allowed, and the computation leaves the state that they
    leave, notes nothing, and ends with the value of what is drawn. -/
def Follows (sound : σ → Prop) (draw : Action ρ σ δ) (allowed : δ → Prop) (act : Action ρ σ β) (value : δ → β) : Prop :=
  ∀ s, sound s → ∃ d s', draw s = ⟨.ok d,s',[]⟩ ∧ sound s' ∧ allowed d ∧ act s = ⟨.ok (value d),s',[]⟩

/-- What follows a computation that noted nothing runs on the state that it leaves. -/
theorem bind_apply_silent {a : Action ρ σ α} {s s' : σ} {x : α} (ran : a s = ⟨.ok x,s',[]⟩) (f : α → Action ρ σ β) :
    (a >>= f) s = f x s' := by
  rw [bind_apply_ok ran]
  rfl

/-- What always succeeds with one result and leaves every state as it is, is that result. -/
theorem eq_pure_of_yields {a : Action ρ σ α} {x : α} (yields : ∀ s, Yields (· = s) a (· = x)) : a = Pure.pure x := by
  ext s
  obtain ⟨_,_,ran,rfl,rfl⟩ := yields s s rfl
  exact ran

namespace Follows

variable {draw : Action ρ σ δ} {allowed : δ → Prop} {act : Action ρ σ β} {value : δ → β}

/-- What is drawn from a sound state is allowed, and decides what the computation does there. -/
theorem apply (follows : Follows sound draw allowed act value) {s s' : σ} {d : δ} (good : sound s)
    (drawn : draw s = ⟨.ok d,s',[]⟩) : sound s' ∧ allowed d ∧ act s = ⟨.ok (value d),s',[]⟩ := by
  obtain ⟨d₁,s₁,ran,good₁,fits,made⟩ := follows s good
  rw [drawn] at ran
  cases ran
  exact ⟨good₁,fits,made⟩

theorem yields (follows : Follows sound draw allowed act value) :
    Yields sound act fun out => ∃ d, allowed d ∧ out = value d := by
  intro s good
  obtain ⟨d,s',-,good',fits,made⟩ := follows s good
  exact ⟨value d,s',made,good',d,fits,rfl⟩

theorem pure {d : δ} {x : β} (fits : allowed d) (made : x = value d) :
    Follows sound (Pure.pure d : Action ρ σ δ) allowed (Pure.pure x) value := by
  intro s good
  refine ⟨d,s,rfl,good,fits,?_⟩
  rw [made]
  rfl

/-- Both begin with the same draw. -/
theorem bind {first : Action ρ σ γ} {begun : γ → Prop} {later : γ → Action ρ σ δ} {goesOn : γ → Action ρ σ β}
    (begins : Yields sound first begun) (follows : ∀ y, begun y → Follows sound (later y) allowed (goesOn y) value) :
    Follows sound (first >>= later) allowed (first >>= goesOn) value := by
  intro s good
  obtain ⟨y,s₁,ran,good₁,holds⟩ := begins s good
  obtain ⟨d,s₂,drawn,good₂,fits,made⟩ := follows y holds s₁ good₁
  refine ⟨d,s₂,?_,good₂,fits,?_⟩
  · rw [bind_apply_silent ran,drawn]
  · rw [bind_apply_silent ran,made]

theorem mono {weak : δ → Prop} (follows : Follows sound draw allowed act value) (implies : ∀ d, allowed d → weak d) :
    Follows sound draw weak act value := by
  intro s good
  obtain ⟨d,s',drawn,good',fits,made⟩ := follows s good
  exact ⟨d,s',drawn,good',implies d fits,made⟩

/-- What is drawn may be told in another way. -/
theorem map {fits : γ → Prop} {told : γ → β} (follows : Follows sound draw allowed act value) (f : δ → γ)
    (keeps : ∀ d, allowed d → fits (f d)) (same : ∀ d, allowed d → told (f d) = value d) :
    Follows sound (f <$> draw) fits act told := by
  intro s good
  obtain ⟨d,s',drawn,good',allows,made⟩ := follows s good
  refine ⟨f d,s',?_,good',keeps d allows,by rw [made,same d allows]⟩
  rw [map_eq_pure_bind,bind_apply_silent drawn]
  rfl

/-- A step that makes the same draws on every usable input draws as often as it is repeated. What it makes is usable, so that
    the result is made of all that is drawn, in turn. -/
private theorem times {usable : α → Prop} {step : α → Action ρ σ α} {value : δ → α → α}
    (follows : ∀ x, usable x → Follows sound draw allowed (step x) fun d => value d x)
    (keeps : ∀ d x, allowed d → usable x → usable (value d x)) (n : Nat) {x : α} (serves : usable x) :
    Follows sound (repeated n draw) (fun ds => ds.length = n ∧ ∀ d ∈ ds, allowed d) (Draw.times n step x)
      fun ds => ds.foldl (fun x d => value d x) x := by
  induction n generalizing x with
  | zero => exact fun s good => ⟨[],s,rfl,good,⟨rfl,fun _ mem => absurd mem List.not_mem_nil⟩,rfl⟩
  | succ n ih =>
    intro s good
    obtain ⟨d,s₁,drawn,good₁,fits,made⟩ := follows x serves s good
    obtain ⟨ds,s₂,drawnLater,good₂,⟨long,all⟩,madeLater⟩ := ih (keeps d x fits serves) s₁ good₁
    refine ⟨d :: ds,s₂,?_,good₂,⟨congrArg Nat.succ long,List.forall_mem_cons.mpr ⟨fits,all⟩⟩,?_⟩
    · rw [repeated,bind_apply_silent drawn,bind_apply_silent drawnLater]
      rfl
    · rw [Draw.times,bind_apply_silent made,madeLater]
      rfl

end Follows

end Fuzzing.Action

namespace Fuzzing

variable {ρ σ α δ : Type} {sound : σ → Prop} [Source ρ σ]

/-- As many draws as are drawn for, but at least one. -/
def Draw.several (most : Int) (draw : Action ρ σ δ) : Action ρ σ (List δ) := do
  let count ← Draw.between 1 most
  Action.repeated count draw

/-- How often a step is repeated is drawn before its own draws. -/
theorem Action.Follows.several (answers : Answering ρ sound) {most : Int} (some : 1 ≤ most) {draw : Action ρ σ δ}
    {allowed : δ → Prop} {usable : α → Prop} {step : α → Action ρ σ α} {value : δ → α → α}
    (follows : ∀ x, usable x → Follows sound draw allowed (step x) fun d => value d x)
    (keeps : ∀ d x, allowed d → usable x → usable (value d x)) {x : α} (serves : usable x) :
    Follows sound (Draw.several most draw) (fun ds => (1 ≤ ds.length ∧ ds.length ≤ most) ∧ ∀ d ∈ ds, allowed d)
      (Draw.between 1 most >>= fun count => Draw.times count step x) fun ds => ds.foldl (fun x d => value d x) x := by
  refine Follows.bind (Draw.yields_between answers some) fun count bounds => ?_
  refine (Follows.times follows keeps count serves).mono ?_
  rintro ds ⟨rfl,all⟩
  exact ⟨bounds,all⟩

end Fuzzing

import Fuzzing.Proofs.Action.Returns
import Fuzzing.Randomness

/-!
What is known where a computation returns, and that it does. `Yields sound a post` says that `a` always succeeds on
sound states, `Gives sound a post` what it returns where it does, and `Ensures a s post` that it returns from the one
state `s`. Each construct has its rule, from its parts to the whole.
-/
namespace Fuzzing.Action

variable {ρ σ τ α β : Type} {sound : σ → Prop}

/-- From every sound state the computation succeeds and notes nothing, its result meets the condition, and the state
    that it leaves is sound. -/
def Yields (sound : σ → Prop) (a : Action ρ σ α) (post : α → Prop) : Prop :=
  ∀ s, sound s → ∃ x s', a s = ⟨.ok x,s',[]⟩ ∧ sound s' ∧ post x

namespace Yields

theorem pure {post : α → Prop} {x : α} (holds : post x) : Yields sound (Pure.pure x : Action ρ σ α) post :=
  fun s good => ⟨x,s,rfl,good,holds⟩

theorem bind {a : Action ρ σ α} {f : α → Action ρ σ β} {first : α → Prop} {post : β → Prop}
    (begins : Yields sound a first) (goesOn : ∀ x, first x → Yields sound (f x) post) :
    Yields sound (a >>= f) post := by
  intro s good
  obtain ⟨x,s₁,ran,good₁,holds⟩ := begins s good
  obtain ⟨y,s₂,ran₂,good₂,holds₂⟩ := goesOn x holds s₁ good₁
  refine ⟨y,s₂,?_,good₂,holds₂⟩
  rw [bind_apply_ok ran,ran₂]
  rfl

theorem ite {c : Prop} [Decidable c] {a b : Action ρ σ α} {post : α → Prop} (yes : c → Yields sound a post)
    (no : ¬ c → Yields sound b post) : Yields sound (if c then a else b) post := by
  by_cases holds : c
  · rw [if_pos holds]
    exact yes holds
  · rw [if_neg holds]
    exact no holds

theorem mono {a : Action ρ σ α} {strong weak : α → Prop} (yields : Yields sound a strong)
    (implies : ∀ x, strong x → weak x) : Yields sound a weak := by
  intro s good
  obtain ⟨x,s',ran,good',holds⟩ := yields s good
  exact ⟨x,s',ran,good',implies x holds⟩

/-- What holds after one more step wherever it held before it, holds after as many steps as there are. -/
theorem times_counted {invariant : Nat → α → Prop} {step : α → Action ρ σ α}
    (keeps : ∀ k x, invariant k x → Yields sound (step x) (invariant (k + 1))) (n : Nat) {k : Nat} {x : α}
    (start : invariant k x) : Yields sound (Draw.times n step x) (invariant (k + n)) := by
  induction n generalizing k x with
  | zero => exact .pure start
  | succ n ih =>
    rw [show k + (n + 1) = k + 1 + n by omega]
    exact (keeps k x start).bind fun y holds => ih holds

end Yields

/-- Where the computation returns from a sound state, its result meets the condition, and the state that it leaves is
    sound. -/
def Gives (sound : σ → Prop) (a : Action ρ σ α) (post : α → Prop) : Prop :=
  ∀ s x s', sound s → Returns a s x s' → sound s' ∧ post x

namespace Gives

theorem of_yields {a : Action ρ σ α} {post : α → Prop} (yields : Yields sound a post) : Gives sound a post := by
  intro s x s' good returned
  obtain ⟨y,s₁,ran,good₁,holds⟩ := yields s good
  obtain ⟨rfl,rfl⟩ := returned.unique ⟨[],ran⟩
  exact ⟨good₁,holds⟩

theorem pure {post : α → Prop} {x : α} (holds : post x) : Gives sound (Pure.pure x : Action ρ σ α) post :=
  of_yields (.pure holds)

private theorem fail {e : Failure ρ} {post : α → Prop} : Gives sound (Action.fail e : Action ρ σ α) post :=
  fun _ _ _ _ returned => absurd returned not_returns_fail

theorem ofExcept (r : Except (Failure ρ) α) : Gives sound (Action.ofExcept r : Action ρ σ α) fun x => r = .ok x := by
  cases r with
  | error e => exact fail
  | ok x => exact pure rfl

theorem bind {a : Action ρ σ α} {f : α → Action ρ σ β} {first : α → Prop} {post : β → Prop}
    (begins : Gives sound a first) (goesOn : ∀ x, first x → Gives sound (f x) post) : Gives sound (a >>= f) post := by
  intro s y s' good returned
  obtain ⟨x,s₁,ran,later⟩ := returns_bind.mp returned
  obtain ⟨good₁,holds⟩ := begins s x s₁ good ran
  exact goesOn x holds s₁ y s' good₁ later

theorem ite {c : Prop} [Decidable c] {a b : Action ρ σ α} {post : α → Prop} (yes : c → Gives sound a post)
    (no : ¬ c → Gives sound b post) : Gives sound (if c then a else b) post := by
  by_cases holds : c
  · rw [if_pos holds]
    exact yes holds
  · rw [if_neg holds]
    exact no holds

theorem mono {a : Action ρ σ α} {strong weak : α → Prop} (gives : Gives sound a strong)
    (implies : ∀ x, strong x → weak x) : Gives sound a weak := by
  intro s x s' good returned
  obtain ⟨good',holds⟩ := gives s x s' good returned
  exact ⟨good',implies x holds⟩

/-- A step that keeps an invariant where it returns keeps it however often it is repeated. -/
theorem times {invariant : α → Prop} {step : α → Action ρ σ α}
    (keeps : ∀ x, invariant x → Gives sound (step x) invariant) (n : Nat) {x : α} (start : invariant x) :
    Gives sound (Draw.times n step x) invariant := by
  induction n generalizing x with
  | zero => exact pure start
  | succ n ih => exact (keeps x start).bind fun y holds => ih holds

end Gives

/-- From a state the computation returns, and the result and the state that it leaves meet the condition. -/
def Ensures (a : Action ρ σ α) (s : σ) (post : α → σ → Prop) : Prop := ∃ x s', Returns a s x s' ∧ post x s'

namespace Ensures

variable {a : Action ρ σ α} {s : σ} {post : α → σ → Prop}

theorem pure {x : α} (holds : post x s) : Ensures (Pure.pure x : Action ρ σ α) s post :=
  ⟨x,s,returns_pure.mpr ⟨rfl,rfl⟩,holds⟩

theorem note {e : Event ρ} {post : Unit → σ → Prop} (holds : post () s) : Ensures (Action.note e) s post :=
  ⟨(),s,returns_note.mpr rfl,holds⟩

theorem noteIf {c : Bool} {e : Event ρ} {post : Unit → σ → Prop} (holds : post () s) :
    Ensures (Action.noteIf c e) s post := ⟨(),s,returns_noteIf.mpr rfl,holds⟩

theorem bind {f : α → Action ρ σ β} {mid : α → σ → Prop} {post : β → σ → Prop} (begins : Ensures a s mid)
    (goesOn : ∀ x s₁, mid x s₁ → Ensures (f x) s₁ post) : Ensures (a >>= f) s post := by
  obtain ⟨x,s₁,first,between⟩ := begins
  obtain ⟨y,s',later,holds⟩ := goesOn x s₁ between
  exact ⟨y,s',returns_bind.mpr ⟨x,s₁,first,later⟩,holds⟩

theorem state_bind {f : σ → Action ρ σ α} (goesOn : Ensures (f s) s post) : Ensures (state >>= f) s post := by
  obtain ⟨x,s',later,holds⟩ := goesOn
  exact ⟨x,s',returns_state_bind.mpr later,holds⟩

theorem ite {c : Prop} [Decidable c] {b : Action ρ σ α} (yes : c → Ensures a s post) (no : ¬ c → Ensures b s post) :
    Ensures (if c then a else b) s post := by
  by_cases holds : c
  · rw [if_pos holds]
    exact yes holds
  · rw [if_neg holds]
    exact no holds

theorem mono {weak : α → σ → Prop} (ensures : Ensures a s post) (implies : ∀ x s', post x s' → weak x s') :
    Ensures a s weak := by
  obtain ⟨x,s',ran,holds⟩ := ensures
  exact ⟨x,s',ran,implies x s' holds⟩

theorem focus {get : τ → σ} {set : σ → τ → τ} {t : τ} (ensures : Ensures a (get t) post) :
    Ensures (Action.focus get set a) t fun x t' => ∃ s', post x s' ∧ t' = set s' t := by
  obtain ⟨x,s',ran,holds⟩ := ensures
  exact ⟨x,set s' t,returns_focus.mpr ⟨s',ran,rfl⟩,s',holds,rfl⟩

/-- What always succeeds on a sound state returns, and leaves a sound state. -/
theorem of_yields {sound : σ → Prop} {holds : α → Prop} (yields : Yields sound a holds) (good : sound s) :
    Ensures a s fun x s' => sound s' ∧ holds x := by
  obtain ⟨x,s',ran,good',meets⟩ := yields s good
  exact ⟨x,s',⟨[],ran⟩,good',meets⟩

end Ensures

end Fuzzing.Action

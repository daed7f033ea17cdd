import Fuzzing.Proofs.Action.Returns
import Fuzzing.Randomness

/-!
Computations that do the same. `Mirrors inv get a b` says that `a`, from a state where the invariant holds, does what
`b` does on a part of that state, and keeps the invariant. `Matches seen rel res a b` says that `a` and `b`, from states
in the relation `rel`, end alike, in states that are in `rel` again, and note the same as far as `seen` tells. Each
construct has its rule.
-/
namespace Fuzzing.Action

variable {ρ σ τ υ φ α β γ δ : Type}

/-- From every state where the invariant holds, the first computation keeps it, and does what the second one does on a
    part of the state. -/
def Mirrors (inv : τ → Prop) (get : τ → σ) (a : Action ρ τ α) (b : Action ρ σ α) : Prop :=
  ∀ t, inv t → b (get t) = ⟨(a t).result,get (a t).state,(a t).events⟩ ∧ inv (a t).state

/-- The state does not depend on what follows, if that leaves it alone. -/
theorem state_bind_of_still {a : Action ρ σ α} {f : α → Action ρ σ β} (still : ∀ x s, (f x s).state = s) (s : σ) :
    ((a >>= f) s).state = (a s).state := by
  rcases ran : a s with ⟨e | x,s',noted⟩
  · rw [bind_apply_error ran]
  · rw [bind_apply_ok ran]
    exact still x s'

namespace Mirrors

variable {inv : τ → Prop} {get : τ → σ}

section

variable {a : Action ρ τ α} {b : Action ρ σ α} (mirrors : Mirrors inv get a b) {t : τ} (holds : inv t)

include mirrors holds

theorem state_eq : (b (get t)).state = get (a t).state := congrArg Trace.state (mirrors t holds).1

/-- Where the second computation returns, so does the first. -/
theorem returns {x : α} {s : σ} (ran : b.Returns (get t) x s) : ∃ t', a.Returns t x t' ∧ get t' = s ∧ inv t' := by
  obtain ⟨same,kept⟩ := mirrors t holds
  obtain ⟨events,ran⟩ := ran
  rcases first : a t with ⟨r,t',noted⟩
  rw [first] at same kept
  rw [ran] at same
  cases same
  exact ⟨t',⟨noted,first⟩,rfl,kept⟩

end

theorem pure (x : α) : Mirrors inv get (Pure.pure x : Action ρ τ α) (Pure.pure x) := fun _ holds => ⟨rfl,holds⟩

theorem fail (e : Failure ρ) : Mirrors inv get (fail e : Action ρ τ α) (fail e) := fun _ holds => ⟨rfl,holds⟩

theorem ofExcept (r : Except (Failure ρ) α) : Mirrors inv get (ofExcept r : Action ρ τ α) (ofExcept r) := by
  cases r with
  | error e => exact fail e
  | ok x => exact pure x

/-- What follows needs to be mirrored for the results that the first computation can have. -/
theorem bind {a : Action ρ τ α} {b : Action ρ σ α} {f : α → Action ρ τ β} {h : α → Action ρ σ β}
    (first : Mirrors inv get a b) (later : ∀ x t t', inv t → a.Returns t x t' → Mirrors inv get (f x) (h x)) :
    Mirrors inv get (a >>= f) (b >>= h) := by
  intro t holds
  obtain ⟨same,kept⟩ := first t holds
  rcases ran : a t with ⟨e | x,t',noted⟩
  · rw [ran] at same kept
    rw [bind_apply_error ran,bind_apply_error same]
    exact ⟨rfl,kept⟩
  · rw [ran] at same kept
    obtain ⟨same',kept'⟩ := later x t t' holds ⟨noted,ran⟩ t' kept
    rw [bind_apply_ok ran,bind_apply_ok same,same']
    exact ⟨rfl,kept'⟩

/-- Both may look at their states. -/
theorem state_bind {f : τ → Action ρ τ α} {h : σ → Action ρ σ α}
    (later : ∀ t, inv t → Mirrors inv get (f t) (h (get t))) : Mirrors inv get (state >>= f) (state >>= h) := by
  intro t holds
  rw [state_bind_apply,state_bind_apply]
  exact later t holds t holds

theorem update {f : τ → τ} {h : σ → σ} (same : ∀ t, inv t → h (get t) = get (f t))
    (kept : ∀ t, inv t → inv (f t)) : Mirrors inv get (update f : Action ρ τ Unit) (update h) := by
  intro t holds
  refine ⟨?_,kept t holds⟩
  show (⟨.ok (),h (get t),[]⟩ : Trace ρ σ Unit) = ⟨.ok (),get (f t),[]⟩
  rw [same t holds]

/-- The larger state may be changed alone, outside of the part. -/
theorem change {change : τ → τ} {f : Unit → Action ρ τ α} {b : Action ρ σ α}
    (same : ∀ t, inv t → get (change t) = get t) (kept : ∀ t, inv t → inv (change t))
    (later : Mirrors inv get (f ()) b) : Mirrors inv get (Action.update change >>= f) b := by
  intro t holds
  have changed : (Action.update change >>= f) t = f () (change t) :=
    bind_apply_ok (rfl : (Action.update change : Action ρ τ Unit) t = ⟨.ok (),change t,[]⟩) f
  rw [changed,← same t holds]
  exact later _ (kept t holds)

/-- A computation on the part is mirrored on the whole. -/
theorem focus {set : σ → τ → τ} {a : Action ρ σ α} (same : ∀ t, inv t → ∀ s, get (set s t) = s)
    (kept : ∀ t, inv t → inv (set (a (get t)).state t)) : Mirrors inv get (Action.focus get set a) a := by
  intro t holds
  refine ⟨?_,kept t holds⟩
  show a (get t) = ⟨(a (get t)).result,get (set (a (get t)).state t),(a (get t)).events⟩
  rw [same t holds]

/-- A computation on another part keeps the invariant, if that does not depend on the part. -/
theorem focused {υ : Type} {read : τ → υ} {set : υ → τ → τ} (kept : ∀ t, inv t → ∀ s, inv (set s t))
    (a : Action ρ υ α) : Mirrors inv id (Action.focus read set a) (Action.focus read set a) :=
  fun t holds => ⟨rfl,kept t holds _⟩

theorem times {step : α → Action ρ τ α} {step' : α → Action ρ σ α} (one : ∀ x, Mirrors inv get (step x) (step' x))
    (n : Nat) (x : α) : Mirrors inv get (Draw.times n step x) (Draw.times n step' x) := by
  induction n generalizing x with
  | zero => exact pure x
  | succ n ih => exact (one x).bind fun y _ _ _ _ => ih y

end Mirrors

/-- Both results are there, in the relation, or the same failure is. -/
inductive Outcomes (res : α → β → Prop) : Except (Failure ρ) α → Except (Failure ρ) β → Prop where
  | ok {x : α} {y : β} : res x y → Outcomes res (.ok x) (.ok y)
  | error (e : Failure ρ) : Outcomes res (.error e) (.error e)

theorem Outcomes.eq {r r' : Except (Failure ρ) α} (outcomes : Outcomes Eq r r') : r' = r := by
  cases outcomes with
  | ok same => rw [same]
  | error => rfl

theorem Outcomes.refl (r : Except (Failure ρ) α) : Outcomes Eq r r := by
  cases r with
  | ok x => exact .ok rfl
  | error e => exact .error e

private theorem Outcomes.mono {res weak : α → β → Prop} {r : Except (Failure ρ) α} {r' : Except (Failure ρ) β}
    (outcomes : Outcomes res r r') (implies : ∀ x y, res x y → weak x y) : Outcomes weak r r' := by
  cases outcomes with
  | ok related => exact .ok (implies _ _ related)
  | error e => exact .error e

/-- Two computations have ended alike. -/
structure Matched (seen : Event ρ → Option (Event ρ)) (rel : σ → τ → Prop) (res : α → β → Prop) (one : Trace ρ σ α)
    (other : Trace ρ τ β) : Prop where
  result : Outcomes res one.result other.result
  state : rel one.state other.state
  events : other.events.filterMap seen = one.events.filterMap seen

/-- Nothing that is noted is seen. -/
def unseen (_ : Event ρ) : Option (Event ρ) := none

theorem filterMap_unseen (events : List (Event ρ)) : events.filterMap unseen = [] :=
  List.filterMap_eq_nil_iff.mpr fun _ _ => rfl

/-- Where nothing is seen, results and states decide. -/
theorem matched_unseen_iff {rel : σ → τ → Prop} {one : Trace ρ σ α} {other : Trace ρ τ α} :
    Matched unseen rel Eq one other ↔ other.result = one.result ∧ rel one.state other.state := by
  constructor
  · intro ended
    exact ⟨ended.result.eq,ended.state⟩
  · rintro ⟨same,kept⟩
    exact ⟨same ▸ .refl _,kept,by rw [filterMap_unseen,filterMap_unseen]⟩

/-- From states in the relation both computations end alike. -/
def Matches (seen : Event ρ → Option (Event ρ)) (rel : σ → τ → Prop) (res : α → β → Prop) (a : Action ρ σ α)
    (b : Action ρ τ β) : Prop := ∀ s t, rel s t → Matched seen rel res (a s) (b t)

namespace Matches

variable {seen : Event ρ → Option (Event ρ)} {rel : σ → τ → Prop} {res : α → β → Prop}

theorem same (a : Action ρ σ α) : Matches seen Eq Eq a a := by
  rintro s _ rfl
  exact ⟨.refl _,rfl,rfl⟩

/-- Whatever else holds of equal states. -/
theorem sameWhere (p : Prop) (a : Action ρ σ α) : Matches seen (fun s t => p ∧ s = t) Eq a a := by
  rintro s _ ⟨holds,rfl⟩
  exact ⟨.refl _,⟨holds,rfl⟩,rfl⟩

theorem pure {x : α} {y : β} (related : res x y) : Matches seen rel res (Pure.pure x) (Pure.pure y) :=
  fun _ _ level => ⟨.ok related,level,rfl⟩

theorem fail (e : Failure ρ) : Matches seen rel res (Action.fail e) (Action.fail e) :=
  fun _ _ level => ⟨.error e,level,rfl⟩

theorem ofExcept {r : Except (Failure ρ) α} {r' : Except (Failure ρ) β} (outcomes : Outcomes res r r') :
    Matches seen rel res (Action.ofExcept r) (Action.ofExcept r') := by
  cases outcomes with
  | error e => exact fail e
  | ok related => exact pure related

theorem note {e e' : Event ρ} (alike : seen e' = seen e) : Matches seen rel Eq (Action.note e) (Action.note e') := by
  refine fun _ _ level => ⟨.ok rfl,level,?_⟩
  show [e'].filterMap seen = [e].filterMap seen
  simp only [List.filterMap_cons,alike]

theorem noteIf (c : Bool) {e e' : Event ρ} (alike : seen e' = seen e) :
    Matches seen rel Eq (Action.noteIf c e) (Action.noteIf c e') := by
  cases c with
  | false => exact pure rfl
  | true => exact note alike

theorem update {f : σ → σ} {h : τ → τ} (kept : ∀ s t, rel s t → rel (f s) (h t)) :
    Matches seen rel Eq (Action.update f) (Action.update h) := fun s t level => ⟨.ok rfl,kept s t level,rfl⟩

theorem bind {res' : γ → δ → Prop} {a : Action ρ σ α} {b : Action ρ τ β} {f : α → Action ρ σ γ} {h : β → Action ρ τ δ}
    (first : Matches seen rel res a b) (later : ∀ x y, res x y → Matches seen rel res' (f x) (h y)) :
    Matches seen rel res' (a >>= f) (b >>= h) := by
  intro s t level
  have begun := first s t level
  rcases left : a s with ⟨r,s',noted⟩
  rcases right : b t with ⟨r',t',noted'⟩
  rw [left,right] at begun
  obtain ⟨outcomes,kept,told⟩ := begun
  cases outcomes with
  | error e =>
    -- Nothing of what follows is done, here or there.
    rw [bind_apply_error left,bind_apply_error right]
    exact ⟨.error e,kept,told⟩
  | ok related =>
    have ended := later _ _ related s' t' kept
    rw [bind_apply_ok left,bind_apply_ok right]
    refine ⟨ended.result,ended.state,?_⟩
    simp only [List.filterMap_append,told,ended.events]

theorem state_bind {f : σ → Action ρ σ α} {h : τ → Action ρ τ β}
    (later : ∀ s t, rel s t → Matches seen rel res (f s) (h t)) :
    Matches seen rel res (Action.state >>= f) (Action.state >>= h) := by
  intro s t level
  rw [state_bind_apply,state_bind_apply]
  exact later s t level s t level

theorem ite {c : Prop} [Decidable c] {a a' : Action ρ σ α} {b b' : Action ρ τ β} (yes : Matches seen rel res a b)
    (no : Matches seen rel res a' b') : Matches seen rel res (if c then a else a') (if c then b else b') := by
  by_cases holds : c
  · rw [if_pos holds,if_pos holds]
    exact yes
  · rw [if_neg holds,if_neg holds]
    exact no

theorem attempt {a : Action ρ σ α} {b : Action ρ τ β} (ends : Matches seen rel res a b) :
    Matches seen rel (Outcomes res) (Action.attempt a) (Action.attempt b) := by
  intro s t level
  obtain ⟨outcomes,kept,told⟩ := ends s t level
  exact ⟨.ok outcomes,kept,told⟩

/-- On parts of the states that are in a relation of their own. -/
theorem focus {inner : υ → φ → Prop} {get : σ → υ} {set : υ → σ → σ} {get' : τ → φ} {set' : φ → τ → τ}
    {a : Action ρ υ α} {b : Action ρ φ β} (inside : Matches seen inner res a b)
    (parts : ∀ s t, rel s t → inner (get s) (get' t))
    (kept : ∀ s t, rel s t → ∀ x y, inner x y → rel (set x s) (set' y t)) :
    Matches seen rel res (Action.focus get set a) (Action.focus get' set' b) := by
  intro s t level
  obtain ⟨outcomes,ended,told⟩ := inside _ _ (parts s t level)
  exact ⟨outcomes,kept s t level _ _ ended,told⟩

theorem times {step : α → Action ρ σ α} {step' : β → Action ρ τ β}
    (one : ∀ x y, res x y → Matches seen rel res (step x) (step' y)) (n : Nat) {x : α} {y : β} (start : res x y) :
    Matches seen rel res (Draw.times n step x) (Draw.times n step' y) := by
  induction n generalizing x y with
  | zero => exact pure start
  | succ n ih => exact (one x y start).bind fun _ _ related => ih related

/-- A step that only the other computation makes, that nobody sees and that leaves the states in the relation. -/
theorem idles {a : Action ρ σ α} {x : Action ρ τ γ} {f : γ → Action ρ τ β} {y : τ → γ} {h : τ → τ}
    {noted : τ → List (Event ρ)} (runs : ∀ t, x t = ⟨.ok (y t),h t,noted t⟩)
    (unseen : ∀ t, (noted t).filterMap seen = []) (kept : ∀ s t, rel s t → rel s (h t))
    (later : ∀ t, Matches seen rel res a (f (y t))) : Matches seen rel res a (x >>= f) := by
  intro s t level
  have ended := later t s (h t) (kept s t level)
  rw [bind_apply_ok (runs t)]
  refine ⟨ended.result,ended.state,?_⟩
  rw [List.filterMap_append,unseen,ended.events,List.nil_append]

theorem mono {weak : α → β → Prop} {a : Action ρ σ α} {b : Action ρ τ β} (ends : Matches seen rel res a b)
    (implies : ∀ x y, res x y → weak x y) : Matches seen rel weak a b := by
  intro s t level
  obtain ⟨outcomes,kept,told⟩ := ends s t level
  exact ⟨outcomes.mono implies,kept,told⟩

end Matches

end Fuzzing.Action

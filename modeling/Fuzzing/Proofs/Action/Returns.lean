import Fuzzing.Action

/-!
What a computation has done. `Returns a s x s'` says that `a` from the state `s` ends with the result `x` and leaves
`s'`, whatever it noted; `Fails a s e s'` says so of a failure `e`, and `Refuses a s` of a refusal that leaves
everything as it is. Each construct has its rule, read from the whole to its parts.
-/
namespace Fuzzing.Action

variable {ρ σ τ α β : Type}

/-- From a state the computation returns a result and leaves a state. -/
def Returns (a : Action ρ σ α) (s : σ) (x : α) (s' : σ) : Prop := ∃ events, a s = ⟨.ok x,s',events⟩

@[simp] theorem returns_pure {x y : α} {s s' : σ} :
    Returns (pure x : Action ρ σ α) s y s' ↔ y = x ∧ s' = s := by
  constructor
  · rintro ⟨events,ran⟩
    cases ran
    exact ⟨rfl,rfl⟩
  · rintro ⟨rfl,rfl⟩
    exact ⟨[],rfl⟩

@[simp] theorem returns_bind {a : Action ρ σ α} {f : α → Action ρ σ β} {s s' : σ} {y : β} :
    Returns (a >>= f) s y s' ↔ ∃ x s₁, Returns a s x s₁ ∧ Returns (f x) s₁ y s' := by
  constructor
  · rintro ⟨events,ran⟩
    rcases first : a s with ⟨_ | x,s₁,noted⟩
    · rw [bind_apply_error first] at ran
      cases ran
    · rw [bind_apply_ok first] at ran
      rcases second : f x s₁ with ⟨r,s₂,more⟩
      rw [second] at ran
      cases ran
      exact ⟨x,s₁,⟨noted,first⟩,more,second⟩
  · rintro ⟨x,s₁,⟨noted,first⟩,more,second⟩
    refine ⟨noted ++ more,?_⟩
    rw [bind_apply_ok first,second]

@[simp] theorem returns_map {a : Action ρ σ α} {f : α → β} {s s' : σ} {y : β} :
    Returns (f <$> a) s y s' ↔ ∃ x, Returns a s x s' ∧ y = f x := by
  rw [map_eq_pure_bind,returns_bind]
  constructor
  · rintro ⟨x,s₁,first,second⟩
    obtain ⟨rfl,rfl⟩ := returns_pure.mp second
    exact ⟨x,first,rfl⟩
  · rintro ⟨x,first,rfl⟩
    exact ⟨x,s',first,returns_pure.mpr ⟨rfl,rfl⟩⟩

@[simp] theorem not_returns_fail {e : Failure ρ} {s s' : σ} {x : α} : ¬ Returns (fail e : Action ρ σ α) s x s' := by
  rintro ⟨events,ran⟩
  cases ran

@[simp] theorem not_returns_refuse {why : Refusal ρ} {s s' : σ} {x : α} :
    ¬ Returns (refuse why : Action ρ σ α) s x s' := not_returns_fail

@[simp] theorem returns_note {e : Event ρ} {s s' : σ} {x : Unit} :
    Returns (note e : Action ρ σ Unit) s x s' ↔ s' = s := by
  constructor
  · rintro ⟨events,ran⟩
    cases ran
    rfl
  · rintro rfl
    exact ⟨[e],rfl⟩

@[simp] theorem returns_noteIf {c : Bool} {e : Event ρ} {s s' : σ} {x : Unit} :
    Returns (noteIf c e : Action ρ σ Unit) s x s' ↔ s' = s := by
  cases c <;> simp [noteIf]

@[simp] theorem returns_update {f : σ → σ} {s s' : σ} {x : Unit} :
    Returns (update f : Action ρ σ Unit) s x s' ↔ s' = f s := by
  constructor
  · rintro ⟨events,ran⟩
    cases ran
    rfl
  · rintro rfl
    exact ⟨[],rfl⟩

/-- What follows a look at the state runs on it. -/
@[simp] theorem returns_state_bind {f : σ → Action ρ σ α} {s s' : σ} {x : α} :
    Returns (state >>= f) s x s' ↔ Returns (f s) s x s' := by
  rw [Returns,state_bind_apply]
  rfl

/-- What follows a change runs on the changed state. -/
@[simp] theorem returns_update_bind {change : σ → σ} {f : Unit → Action ρ σ α} {s s' : σ} {x : α} :
    Returns (update change >>= f) s x s' ↔ Returns (f ()) (change s) x s' := by
  rw [returns_bind]
  constructor
  · rintro ⟨_,s₁,changed,later⟩
    obtain rfl := returns_update.mp changed
    exact later
  · intro later
    exact ⟨(),_,returns_update.mpr rfl,later⟩

@[simp] theorem returns_ofExcept {r : Except (Failure ρ) α} {s s' : σ} {x : α} :
    Returns (ofExcept r : Action ρ σ α) s x s' ↔ r = .ok x ∧ s' = s := by
  cases r with
  | error e => simp [ofExcept]
  | ok y => simp [ofExcept,eq_comm]

@[simp] theorem returns_focus {get : τ → σ} {set : σ → τ → τ} {a : Action ρ σ α} {t t' : τ} {x : α} :
    Returns (focus get set a) t x t' ↔ ∃ s', Returns a (get t) x s' ∧ t' = set s' t := by
  rcases ran : a (get t) with ⟨r,s',noted⟩
  have whole : focus get set a t = ⟨r,set s' t,noted⟩ := by simp only [focus,ran]
  constructor
  · rintro ⟨events,same⟩
    rw [whole] at same
    cases same
    exact ⟨s',⟨noted,ran⟩,rfl⟩
  · rintro ⟨s₁,⟨events,same⟩,rfl⟩
    rw [ran] at same
    cases same
    exact ⟨noted,whole⟩

theorem focus_map (get : τ → σ) (set : σ → τ → τ) (f : α → β) (a : Action ρ σ α) :
    focus get set (f <$> a) = f <$> focus get set a := by
  ext t
  simp only [map_eq_pure_bind]
  rcases ran : a (get t) with ⟨e | x,s',noted⟩
  · have whole : focus get set a t = ⟨.error e,set s' t,noted⟩ := by simp only [focus,ran]
    rw [bind_apply_error whole]
    simp only [focus,bind_apply_error ran]
  · have whole : focus get set a t = ⟨.ok x,set s' t,noted⟩ := by simp only [focus,ran]
    rw [bind_apply_ok whole]
    simp only [focus,bind_apply_ok ran]
    rfl

/-- From a state there is one way to return. -/
theorem Returns.unique {a : Action ρ σ α} {s s₁ s₂ : σ} {x y : α} (first : Returns a s x s₁) (second : Returns a s y s₂) :
    x = y ∧ s₁ = s₂ := by
  obtain ⟨events,ran⟩ := first
  obtain ⟨others,again⟩ := second
  rw [ran] at again
  cases again
  exact ⟨rfl,rfl⟩

theorem Returns.state_eq {a : Action ρ σ α} {s s' : σ} {x : α} (returned : Returns a s x s') : (a s).state = s' := by
  obtain ⟨events,ran⟩ := returned
  rw [ran]

theorem repeated_map (f : α → β) (a : Action ρ σ α) (n : Nat) :
    repeated n (f <$> a) = List.map f <$> repeated n a := by
  induction n with
  | zero => simp only [repeated,map_pure,List.map_nil]
  | succ n ih =>
    rw [repeated,repeated,ih]
    simp only [map_eq_pure_bind,bind_assoc,pure_bind,List.map_cons]

/-- What holds between the ends of no step, and is carried on by a step in front, holds between the ends of every
    repetition. -/
theorem repeated_induction {a : Action ρ σ α} {motive : σ → List α → σ → Prop} (none : ∀ s, motive s [] s)
    (step : ∀ {s x s₁ xs s'}, Returns a s x s₁ → motive s₁ xs s' → motive s (x :: xs) s') {n : Nat} {s s' : σ}
    {xs : List α} (ran : Returns (repeated n a) s xs s') : motive s xs s' := by
  induction n generalizing s xs with
  | zero =>
    obtain ⟨rfl,rfl⟩ := returns_pure.mp ran
    exact none _
  | succ n ih =>
    obtain ⟨x,s₁,first,later⟩ := returns_bind.mp ran
    obtain ⟨rest,s₂,more,last⟩ := returns_bind.mp later
    obtain ⟨rfl,rfl⟩ := returns_pure.mp last
    exact step first (ih more)

/-- From a state the computation ends with a refusal, and has done nothing. -/
def Refuses (a : Action ρ σ α) (s : σ) : Prop := ∃ why, a s = ⟨.error (.refused why),s,[]⟩

theorem refuses_refuse (why : Refusal ρ) (s : σ) : Refuses (refuse why : Action ρ σ α) s := ⟨why,rfl⟩

theorem Refuses.bind {a : Action ρ σ α} {s : σ} (refuses : Refuses a s) (f : α → Action ρ σ β) :
    Refuses (a >>= f) s := by
  obtain ⟨why,ended⟩ := refuses
  exact ⟨why,bind_apply_error ended f⟩

theorem refuses_after {a : Action ρ σ α} {s : σ} {x : α} {f : α → Action ρ σ β} (looks : a s = ⟨.ok x,s,[]⟩)
    (refuses : Refuses (f x) s) : Refuses (a >>= f) s := by
  obtain ⟨why,ended⟩ := refuses
  refine ⟨why,?_⟩
  rw [bind_apply_ok looks,ended]
  rfl

/-- Behind a check, the rest runs where the check passes; otherwise the state stays as it is. -/
theorem state_checked {check : Action ρ σ Unit} {s : σ} {accepted : Prop} [Decidable accepted]
    (passes : accepted → check s = ⟨.ok (),s,[]⟩) (refuses : ¬ accepted → Refuses check s) (f : Unit → Action ρ σ α) :
    ((check >>= f) s).state = if accepted then (f () s).state else s := by
  split
  next holds => rw [bind_apply_ok (passes holds)]
  next fails =>
    obtain ⟨why,ended⟩ := (refuses fails).bind f
    rw [ended]

/-- From a state the computation ends with a failure and leaves a state. -/
def Fails (a : Action ρ σ α) (s : σ) (e : Failure ρ) (s' : σ) : Prop := ∃ events, a s = ⟨.error e,s',events⟩

variable {s s' : σ} {e : Failure ρ}

theorem fails_of_result {a : Action ρ σ α} (failed : (a s).result = .error e) : Fails a s e (a s).state := by
  refine ⟨(a s).events,?_⟩
  rw [← failed]

theorem Fails.state_eq {a : Action ρ σ α} (failed : Fails a s e s') : (a s).state = s' := by
  obtain ⟨events,ran⟩ := failed
  rw [ran]

theorem fails_bind {a : Action ρ σ α} {f : α → Action ρ σ β} :
    Fails (a >>= f) s e s' ↔ Fails a s e s' ∨ ∃ x s₁, Returns a s x s₁ ∧ Fails (f x) s₁ e s' := by
  rcases first : a s with ⟨e₁ | x,s₁,noted⟩
  · constructor
    · rintro ⟨events,ran⟩
      rw [bind_apply_error first] at ran
      cases ran
      exact .inl ⟨noted,first⟩
    · rintro (⟨events,failed⟩ | ⟨x,s₂,⟨events,returned⟩,-⟩)
      · rw [first] at failed
        cases failed
        exact ⟨noted,bind_apply_error first f⟩
      · rw [first] at returned
        cases returned
  · constructor
    · rintro ⟨events,ran⟩
      rw [bind_apply_ok first] at ran
      rcases second : f x s₁ with ⟨r,s₂,more⟩
      rw [second] at ran
      cases ran
      exact .inr ⟨x,s₁,⟨noted,first⟩,more,second⟩
    · rintro (⟨events,failed⟩ | ⟨y,s₂,⟨events,returned⟩,more,failed⟩)
      · rw [first] at failed
        cases failed
      · rw [first] at returned
        cases returned
        refine ⟨noted ++ more,?_⟩
        rw [bind_apply_ok first,failed]

@[simp] theorem not_fails_pure {x : α} : ¬ Fails (pure x : Action ρ σ α) s e s' := by
  rintro ⟨events,ran⟩
  cases ran

@[simp] theorem fails_fail {e' : Failure ρ} : Fails (fail e' : Action ρ σ α) s e s' ↔ e = e' ∧ s' = s := by
  constructor
  · rintro ⟨events,ran⟩
    cases ran
    exact ⟨rfl,rfl⟩
  · rintro ⟨rfl,rfl⟩
    exact ⟨[],rfl⟩

theorem not_fails_note {event : Event ρ} : ¬ Fails (note event : Action ρ σ Unit) s e s' := by
  rintro ⟨events,ran⟩
  cases ran

theorem not_fails_noteIf {c : Bool} {event : Event ρ} : ¬ Fails (noteIf c event : Action ρ σ Unit) s e s' := by
  cases c with
  | false => exact not_fails_pure
  | true => exact not_fails_note

theorem not_fails_update {change : σ → σ} {e : Failure ρ} : ¬ Fails (update change) s e s' := by
  rintro ⟨events,ran⟩
  cases ran

/-- Where what follows never fails, the first part does. -/
theorem fails_of_bind {a : Action ρ σ α} {f : α → Action ρ σ β} (failed : Fails (a >>= f) s e s')
    (later : ∀ x s₁, ¬ Fails (f x) s₁ e s') : Fails a s e s' := by
  obtain first | ⟨x,s₁,-,second⟩ := fails_bind.mp failed
  · exact first
  · exact absurd second (later x s₁)

/-- What follows a change fails on the changed state. -/
theorem fails_update_bind {change : σ → σ} {f : Unit → Action ρ σ α} :
    Fails (update change >>= f) s e s' ↔ Fails (f ()) (change s) e s' := by
  rw [fails_bind]
  constructor
  · rintro (⟨events,ran⟩ | ⟨x,s₁,changed,later⟩)
    · cases ran
    · rwa [returns_update.mp changed] at later
  · intro later
    exact .inr ⟨(),_,returns_update.mpr rfl,later⟩

theorem fails_state_bind {f : σ → Action ρ σ α} : Fails (state >>= f) s e s' ↔ Fails (f s) s e s' := by
  rw [Fails,state_bind_apply]
  rfl

theorem fails_ofExcept {r : Except (Failure ρ) α} :
    Fails (ofExcept r : Action ρ σ α) s e s' ↔ r = .error e ∧ s' = s := by
  cases r with
  | ok x => simp
  | error e' => simp [ofExcept,eq_comm]

theorem fails_focus {get : τ → σ} {set : σ → τ → τ} {a : Action ρ σ α} {t t' : τ} :
    Fails (focus get set a) t e t' ↔ ∃ s', Fails a (get t) e s' ∧ t' = set s' t := by
  rcases ran : a (get t) with ⟨r,s₁,noted⟩
  have whole : focus get set a t = ⟨r,set s₁ t,noted⟩ := by simp only [focus,ran]
  constructor
  · rintro ⟨events,same⟩
    rw [whole] at same
    cases same
    exact ⟨s₁,⟨noted,ran⟩,rfl⟩
  · rintro ⟨s₂,⟨events,same⟩,rfl⟩
    rw [ran] at same
    cases same
    exact ⟨noted,whole⟩

end Fuzzing.Action

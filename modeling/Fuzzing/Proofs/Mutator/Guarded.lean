import Fuzzing.Mutator
import Fuzzing.Proofs.Action.Returns

/-!
The boundary around what is done to a buffer. An empty buffer passes, and draws nothing; any other one becomes what the
mutation makes of it, and stays as it is where that fails (`guarded_apply`).
-/
namespace Fuzzing

variable {ρ σ : Type} [Source ρ σ] {mutation : Bytes → Action ρ σ Bytes} {data out : Bytes} {name : String} {s s' : σ}

theorem guarded_nil (present : Source.absent ρ s = false) (name : String) :
    guarded name mutation [] s = ⟨.ok [],s,[]⟩ := by
  rw [guarded,Action.state_bind_apply,present]
  rfl

/-- On a buffer that is not empty the boundary gives what the mutation gives, and the buffer where that fails. -/
theorem guarded_apply (present : Source.absent ρ s = false) (nonempty : data ≠ []) (name : String) :
    guarded name mutation data s = match mutation data s with
      | ⟨.ok out,s',noted⟩ => ⟨.ok out,s',noted⟩
      | ⟨.error _,s',noted⟩ => ⟨.ok data,s',noted ++ [.mutationFailed name]⟩ := by
  have there : data.isEmpty = false := List.isEmpty_eq_false_iff.mpr nonempty
  rw [guarded,Action.state_bind_apply]
  simp only [present,there,Bool.false_eq_true,if_false]
  rcases ran : mutation data s with ⟨e | out,s',noted⟩
  · have caught : (mutation data).attempt s = ⟨.ok (.error e),s',noted⟩ := by simp only [Action.attempt,ran]
    rw [Action.bind_apply_ok caught]
    rfl
  · have caught : (mutation data).attempt s = ⟨.ok (.ok out),s',noted⟩ := by simp only [Action.attempt,ran]
    rw [Action.bind_apply_ok caught]
    exact congrArg (Trace.mk _ _) (List.append_nil noted)

theorem guarded_apply_ok (present : Source.absent ρ s = false) (nonempty : data ≠ []) (name : String)
    (made : mutation data s = ⟨.ok out,s',[]⟩) : guarded name mutation data s = ⟨.ok out,s',[]⟩ := by
  rw [guarded_apply present nonempty,made]

theorem returns_guarded (present : Source.absent ρ s = false) (nonempty : data ≠ []) :
    (guarded name mutation data).Returns s out s' ↔
      (mutation data).Returns s out s' ∨ out = data ∧ ∃ e, (mutation data).Fails s e s' := by
  rw [Action.Returns,guarded_apply present nonempty]
  rcases ran : mutation data s with ⟨e | x,s₁,noted⟩
  · constructor
    · rintro ⟨events,same⟩
      cases same
      exact .inr ⟨rfl,e,noted,ran⟩
    · rintro (⟨events,returned⟩ | ⟨rfl,e',events,failed⟩)
      · rw [ran] at returned
        cases returned
      · rw [ran] at failed
        cases failed
        exact ⟨_,rfl⟩
  · constructor
    · rintro ⟨events,same⟩
      cases same
      exact .inl ⟨noted,ran⟩
    · rintro (⟨events,returned⟩ | ⟨rfl,e',events,failed⟩)
      · rw [ran] at returned
        cases returned
        exact ⟨_,rfl⟩
      · rw [ran] at failed
        cases failed

theorem exists_returns_guarded (present : Source.absent ρ s = false) (name : String)
    (mutation : Bytes → Action ρ σ Bytes) (data : Bytes) :
    ∃ out s', (guarded name mutation data).Returns s out s' := by
  by_cases empty : data = []
  · exact ⟨[],s,[],by rw [empty,guarded_nil present]⟩
  · rw [← ne_eq] at empty
    rcases ran : mutation data s with ⟨e | out,s',noted⟩
    · exact ⟨data,s',(returns_guarded present empty).mpr (.inr ⟨rfl,e,noted,ran⟩)⟩
    · exact ⟨out,s',(returns_guarded present empty).mpr (.inl ⟨noted,ran⟩)⟩

theorem Builtin.mutate_nil [Quantity ρ] (present : Source.absent ρ s = false) (b : Builtin ρ) :
    b.mutate [] s = ⟨.ok [],s,[]⟩ :=
  guarded_nil present b.name

end Fuzzing

import Fuzzing.Settings.Build

/-!
What settings that were accepted satisfy. `Reading.Gives r p` says that `r`, if it accepts a value at all, accepts one
with `p`; a field gives what its standard value and every value that passes its check have in common (`gives_field`).
So whatever environment and keywords a section is built from, its integers are within their bounds
(`gives_build_campaign`, `gives_build_mutation`), and so are those of all settings together (`accepted_of_build`).
-/
namespace Fuzzing

/-- The bounds of a campaign: the report interval can divide, and there is a size below the bound of fresh inputs. -/
structure CampaignPolicy.Accepted {ρ : Type} (p : CampaignPolicy ρ) : Prop where
  iterations : 1 ≤ p.iterations
  seed : 0 ≤ p.seed
  timeout : 1 ≤ p.timeout
  reportInterval : 1 ≤ p.reportInterval
  maxInputSize : 2 ≤ p.maxInputSize

/-- The bounds of mutations: one at least can be stacked. -/
structure MutationLimits.Accepted (l : MutationLimits) : Prop where
  least : 1 ≤ l.maxMutations
  most : l.maxMutations ≤ 100
  growth : 1 ≤ l.maxInsertGrowth

namespace Settings

section

variable {α β : Type}

theorem bounded_ok {coerce : Document Float → Except Fault α} {test : α → Except Fault α} {d : Document Float} {x : α}
    (passed : bounded coerce test d = .ok x) : ∃ y, test y = .ok x := by
  rw [bounded] at passed
  split at passed
  next y _ => exact ⟨y,passed⟩
  · cases passed

private theorem integerWithin_ok {least n m : Int} {most : Option Int} (passed : integerWithin least most n = .ok m) :
    least ≤ m ∧ ∀ bound ∈ most, m ≤ bound := by
  unfold integerWithin at passed
  split at passed
  · cases passed
  next above =>
    split at passed
    next bound =>
      split at passed
      · cases passed
      next below =>
        cases passed
        refine ⟨Int.not_lt.mp above,?_⟩
        rintro _ ⟨⟩
        exact Int.not_lt.mp below
    · cases passed
      exact ⟨Int.not_lt.mp above,nofun⟩

private theorem asAtLeast_ok {least n : Int} {d : Document Float} (passed : asAtLeast least d = .ok n) : least ≤ n := by
  obtain ⟨m,within⟩ := bounded_ok passed
  exact (integerWithin_ok within).1

/-- Every value that the reading accepts meets the condition. -/
def Reading.Gives (r : Reading α) (p : α → Prop) : Prop := ∀ x, r = .accepted x → p x

namespace Reading

variable {r : Reading α} {p q : α → Prop}

theorem gives_true : r.Gives fun _ => True := fun _ _ => trivial

theorem gives_seq {f : Reading (α → β)} {p : β → Prop} (first : f.Gives fun g => ∀ x, q x → p (g x))
    (second : r.Gives q) : (f <*> r).Gives p := by
  intro y read
  change apply f r = .accepted y at read
  cases f with
  | accepted g =>
    cases r with
    | accepted x =>
      cases read
      exact first g rfl x (second x rfl)
    | _ => cases read
  | _ => cases r <;> cases read

theorem gives_map {f : α → β} {p : β → Prop} (second : r.Gives q) (holds : ∀ x, q x → p (f x)) : (f <$> r).Gives p := by
  have first : (accepted f).Gives fun g => ∀ x, q x → p (g x) := by
    rintro _ ⟨⟩
    exact holds
  exact gives_seq first second

private theorem Gives.objecting (gives : r.Gives p) (more : List Complaint) : (r.objecting more).Gives p := by
  intro x read
  cases more with
  | nil => exact gives x read
  | cons => cases r <;> cases read

private theorem Gives.ensuring (gives : r.Gives p) (consistent : α → Bool) : (r.ensuring consistent).Gives p := by
  intro x read
  cases r with
  | accepted y =>
    rw [Reading.ensuring] at read
    split at read
    · exact gives x read
    · cases read
  | _ => cases read

private theorem Gives.inside (gives : r.Gives p) (name : String) : (r.inside name).Gives p := by
  intro x read
  cases r with
  | accepted y => exact gives x read
  | _ => cases read

private theorem Gives.orStop (gives : r.Gives p) : r.orStop.Gives p := by
  intro x read
  cases r with
  | accepted y => exact gives x read
  | _ => cases read

private theorem Gives.of_toExcept (gives : r.Gives p) {x : α} (ok : r.toExcept = .ok x) : p x := by
  refine gives x ?_
  cases r with
  | accepted y =>
    cases ok
    rfl
  | _ => cases ok

/-- A field is read to its standard value or to one that passed its check. -/
theorem gives_field {given : Fields Float} {name : String} {coerce : Document Float → Except Fault α} {standard : α}
    (holds : p standard) (checked : ∀ d x, coerce d = .ok x → p x) : (field given name coerce standard).Gives p := by
  intro x read
  rw [field] at read
  split at read
  · cases read
    exact holds
  next d _ =>
    split at read
    next y passed =>
      cases read
      exact checked d _ passed
    · cases read

theorem gives_atLeast {given : Fields Float} {name : String} {least standard : Int} (holds : least ≤ standard) :
    (field given name (asAtLeast least) standard).Gives fun n => least ≤ n :=
  gives_field holds fun _ _ => asAtLeast_ok

end Reading

end

open Reading

theorem gives_readCampaign (given : Fields Float) : (readCampaign given).Gives CampaignPolicy.Accepted := by
  refine gives_seq (gives_seq (gives_seq (gives_seq (gives_seq (gives_seq (gives_map (gives_atLeast ?_) ?_)
    (gives_atLeast ?_)) gives_true) (gives_atLeast ?_)) (gives_atLeast ?_)) (gives_atLeast ?_)) gives_true
  case refine_2 =>
    intro iterations iterated seed seeded share _ timeout timed interval reported size sized guided _
    exact ⟨iterated,seeded,timed,reported,sized⟩
  all_goals decide

theorem gives_readMutation (given : Fields Float) : (readMutation given).Gives MutationLimits.Accepted := by
  have stacking : (field given "max_mutations" (bounded asInteger (integerWithin 1 (some 100)))
      MutationLimits.standard.maxMutations).Gives fun n => 1 ≤ n ∧ n ≤ 100 := by
    refine gives_field (by decide) fun d n passed => ?_
    obtain ⟨m,within⟩ := bounded_ok passed
    obtain ⟨least,most⟩ := integerWithin_ok within
    exact ⟨least,most 100 rfl⟩
  refine gives_seq (gives_map stacking ?_) (gives_atLeast (by decide))
  intro mutations stacked growth grown
  exact ⟨stacked.1,stacked.2,grown⟩

namespace Chapter

variable {α : Type} {c : Chapter α} {p : α → Prop}

/-- A section that is built was read. -/
theorem gives_build (gives : ∀ given, (c.read given).Gives p) (env : Environment) (keywords : Fields Float) :
    (c.build env keywords).Gives p := by
  have assembled (ambient keywords foremost : Fields Float) : (c.assemble ambient keywords foremost).Gives p := by
    rw [assemble]
    split
    · exact ((gives _).objecting _).ensuring _
    · exact nofun
  rw [build]
  split
  · exact nofun
  · exact nofun
  · exact assembled _ _ _
  · split
    · exact nofun
    · split
      · exact nofun
      · exact assembled _ _ _

private theorem gives_buildWithin (gives : ∀ given, (c.read given).Gives p) (env : Environment) (given : Fields Float) :
    (c.buildWithin env given).Gives p := by
  rw [buildWithin]
  split
  · exact (gives_build gives env []).orStop
  next fields _ =>
    have built := gives_build gives env fields
    split
    · split <;> exact nofun
    · exact built.inside _
  · exact nofun

end Chapter

section

variable (env : Environment) (keywords : Fields Float)

theorem gives_build_mutation : (Chapter.mutation.build env keywords).Gives MutationLimits.Accepted :=
  Chapter.gives_build gives_readMutation env keywords

/-- All settings are read section by section. -/
theorem gives_readAll {selects : SelectionPolicy Float → Prop} {limits : MutationLimits → Prop}
    {runs : CampaignPolicy Float → Prop} (selection : ∀ given, (readSelection given).Gives selects)
    (mutation : ∀ given, (readMutation given).Gives limits) (campaign : ∀ given, (readCampaign given).Gives runs) :
    (readAll env keywords).Gives fun s : Settings Float =>
      selects s.selection ∧ limits s.mutation ∧ runs s.campaign := by
  have selection : (Chapter.selection.buildWithin env keywords).Gives selects :=
    Chapter.gives_buildWithin selection env keywords
  have mutation : (Chapter.mutation.buildWithin env keywords).Gives limits :=
    Chapter.gives_buildWithin mutation env keywords
  have campaign : (Chapter.campaign.buildWithin env keywords).Gives runs :=
    Chapter.gives_buildWithin campaign env keywords
  refine gives_seq (gives_seq (gives_seq (gives_seq (gives_seq (gives_map gives_true ?_) gives_true) selection)
    mutation) campaign) gives_true
  intro name _ version _ policy selected mutation limited campaign run logging _
  exact ⟨selected,limited,run⟩

end

/-- A computation in two parts succeeds where both do. -/
theorem exists_of_bind_ok {ε α β : Type} {first : Except ε α} {later : α → Except ε β} {y : β}
    (ok : first >>= later = .ok y) : ∃ x, first = .ok x ∧ later x = .ok y := by
  cases first with
  | error why => cases ok
  | ok x => exact ⟨x,rfl,ok⟩

/-- Settings that are built were read. -/
theorem of_build {env : Environment} {p : Settings Float → Prop} (gives : ∀ given, (readAll env given).Gives p)
    {keywords : Fields Float} {s : Settings Float} (built : build env keywords = .ok s) : p s := by
  obtain ⟨sources,-,reading⟩ := exists_of_bind_ok built
  cases sources with
  | none => exact (gives []).of_toExcept reading
  | some sources =>
    obtain ⟨foremost,-,checking⟩ := exists_of_bind_ok reading
    dsimp only at checking
    split at checking
    · cases checking
    · obtain ⟨ambient,-,settling⟩ := exists_of_bind_ok checking
      obtain ⟨_,-,last⟩ := exists_of_bind_ok settling
      exact (gives _).of_toExcept last

end Settings

end Fuzzing

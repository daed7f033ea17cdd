import Fuzzing.Proofs.Campaign.Likeness
import Fuzzing.Proofs.Engine.Stack
import Fuzzing.Proofs.Engine.Twins

/-!
Campaigns with renamed mutators. A campaign never looks at the name of a mutator: with twins in the slots of its engine
it makes the same inputs, selects from the same slots and ends in the same way, however often a name is repeated
(`twins_act_alike`). What it shows under names, and notes with them, is all that may differ.
-/
namespace Fuzzing

variable {ρ σ κ : Type} [Quantity ρ] [Source ρ σ]

open Fuzzing.Action (Matches Outcomes)

/-- Guided campaigns with twins in the slots of their engines. -/
private def Likeness.renamed (f : Nat → Nat) (injective : Function.Injective f) : Likeness ρ σ where
  seen := Event.seen
  mutators := Mutator.Twins f
  guided := Guided.Twins f
  uniform _ _ := False
  trackers := Eq
  seeds := Eq
  shown v v' := v'.corpusSize = v.corpusSize ∧ v'.coveragePercentage = v.coveragePercentage
  guided_source twins := ⟨twins.source,fun _ => { twins with source := rfl }⟩
  uniform_source impossible := impossible.elim
  guided_last twins := twins.last
  mutates_guided := Guided.pairs_mutateOnce
  mutates_uniform _ _ _ _ impossible := impossible.elim
  records twins := Guided.pairs_recordFeedback injective (.some twins)
  succeeds twins := Guided.pairs_recordSuccess injective (.some twins)
  observes _ := .same _
  clears := .same _
  forgets := Guided.pairs_resetStatistics
  zero := ⟨rfl,rfl⟩
  shows_guided _ same _ := ⟨rfl,same ▸ rfl⟩
  shows_uniform impossible := impossible.elim
  started same total kind n := by rw [same]
  progresses shows executions crashes := by rw [shows.1,shows.2]
  completed level := by
    obtain ⟨⟨size,percentage⟩,same⟩ := level
    rw [same,Totals.showing,size,percentage]
    rfl

/-- What a round did, with the slot of the mutator in its place. -/
def Round.placed (g : Guided ρ σ) (r : Round ρ σ) : Bytes × Bool × Option Nat × Execution ρ × List Signal :=
  (r.data,r.mutated,r.selected.map g.slotOf,r.result,r.fresh)

namespace Campaign

/-- Two guided campaigns that differ in nothing but the names of mutators. -/
def SameButNames (c d : Campaign ρ σ κ) : Prop := ∃ g g' listed, c.engine = .guided g ∧ g.SameButNames g' ∧
  d = { c with engine := .guided g', totals := { c.totals with mutators := listed } }

open Likeness

variable {f : Nat → Nat} {injective : Function.Injective f} {g g' : Guided ρ σ}

private theorem sameButNames_of_renamed {c d : Campaign ρ σ κ} (level : (renamed f injective).Level c d) : c.SameButNames d := by
  obtain ⟨g,g',one,other,twins⟩ : ∃ g g', c.engine = .guided g ∧ d.engine = .guided g' ∧ g.Twins f g' := by
    have engines := level.engine
    generalize c.engine = e at engines
    generalize d.engine = e' at engines
    cases engines with
    | guided twins => exact ⟨_,_,rfl,rfl,twins⟩
    | uniform impossible => exact impossible.elim
  have totals : c.totals.showing d.totals.shown = { c.totals with mutators := d.totals.mutators } := by
    rw [Totals.showing,level.totals.1.1,level.totals.1.2]
    rfl
  have tracker : c.tracker = d.tracker := level.tracker
  have seed : c.seed = d.seed := level.seed
  have same := level.eq_with
  rw [other,← tracker,← seed,totals] at same
  exact ⟨g,g',_,one,twins.sameButNames injective,same⟩

private theorem placed_of_renamed (twins : g.Twins f g') {rounds rounds' : List (Round ρ σ)}
    (alike : List.Forall₂ (renamed f injective).Rounds rounds rounds') :
    rounds'.map (Round.placed g') = rounds.map (Round.placed g) := by
  induction alike with
  | nil => rfl
  | cons first _ ih =>
    rw [List.map_cons,List.map_cons,ih,Round.placed,first.data,first.mutated,first.result,first.fresh,
      twins.slotOf? injective first.selected]
    rfl

private theorem placed_of_outcomes (twins : g.Twins f g') {r r' : Except (Failure ρ) (List (Round ρ σ))}
    (outcomes : Outcomes (List.Forall₂ (renamed f injective).Rounds) r r') :
    r'.map (·.map (Round.placed g')) = r.map (·.map (Round.placed g)) := by
  cases outcomes with
  | ok alike => exact congrArg Except.ok (placed_of_renamed twins alike)
  | error e => rfl

/-- Engines with twins in their slots answer the same requests in the same way, request by request, and campaigns with
    these engines go through the same rounds, up to names. -/
theorem twins_act_alike (injective : Function.Injective f) (twins : g.Twins f g') :
    (∀ {requests requests' : List (Guided.Request ρ σ)}, List.Forall₂ (Guided.Request.Twins f) requests requests' →
      let one := Guided.Request.performAll requests g
      let other := Guided.Request.performAll requests' g'
      other.result = one.result ∧ one.state.SameButNames other.state ∧
        other.events.map Event.unnamed = one.events.map Event.unnamed) ∧
    (∀ (c : Campaign ρ σ κ) (listed : List (String × Statistics ρ)) (count : Document ρ),
      let one := runWatched count { c with engine := .guided g }
      let other := runWatched count { c with engine := .guided g', totals := { c.totals with mutators := listed } }
      other.result.map (·.map (Round.placed g')) = one.result.map (·.map (Round.placed g)) ∧
        one.state.SameButNames other.state ∧ other.events.map Event.unnamed = one.events.map Event.unnamed) ∧
    (∀ seed count, (Guided.mutate seed count : Action ρ (Guided ρ σ) Bytes) = Prod.fst <$> Guided.mutateTold seed count) ∧
    ∀ count, (run count : Action ρ (Campaign ρ σ κ) Unit) = (fun _ => ()) <$> runWatched count := by
  have unnamed (events : List (Event ρ)) : events.filterMap Event.seen = events.map Event.unnamed :=
    congrFun List.filterMap_eq_map events
  refine ⟨?_,?_,Guided.mutate_eq_told,run_eq_watched⟩
  · intro requests requests' alike
    obtain ⟨result,state,events⟩ := Guided.Request.pairs_performAll injective alike g g' twins
    exact ⟨result.eq,state.sameButNames injective,by rwa [unnamed,unnamed] at events⟩
  · intro c listed count
    have level : (renamed f injective).Level { c with engine := .guided g }
        { c with engine := .guided g', totals := { c.totals with mutators := listed } } :=
      ⟨.guided twins,rfl,rfl,rfl,rfl,rfl,rfl,rfl,rfl,⟨rfl,rfl⟩,rfl⟩
    obtain ⟨result,state,events⟩ := carries_runWatched count _ _ level
    have told := (unnamed _).symm.trans (events.trans (unnamed _))
    exact ⟨placed_of_outcomes twins result,sameButNames_of_renamed state,told⟩

/-- The engine of the small campaign. -/
def pair : Guided Rat Least := ⟨⟨⟩,.standard,[⟨idle 0,.zero⟩,⟨idle 1,.zero⟩],none⟩

open Guided (Request) in
/-- With one name for all mutators, three mutations still go through the slots in turn, feedback is given by slot, and
    the second round of the small campaign still selects the first mutator. -/
theorem twins_act_alike_aliased :
    (Request.performAll [.mutate (some [7]) (.whole 3),.feedback 2 true true (some 5),.success 9 (some 1)]
      mixedGuided.aliased).result =
        .ok [.ok ⟨some [7,7],[0,1,2]⟩,.ok ⟨none,[]⟩,.error (.refused .noMutatorForFeedback)] ∧
    (runWatched (.whole 2) { small with engine := .guided pair.aliased }).result.map (·.map (Round.placed pair.aliased)) =
      .ok [([0],false,none,⟨.success,some 1,["seen"],.null⟩,["seen"]),
        ([0],true,some 0,⟨.crashed,some 1,["seen"],.null⟩,[])] := by
  have injective : Function.Injective (· + 1) := fun _ _ => Nat.succ.inj
  obtain ⟨requests,-⟩ := twins_act_alike (κ := Nat) injective mixedGuided.twins_aliased
  obtain ⟨-,rounds,-⟩ := twins_act_alike injective pair.twins_aliased
  have alike : List.Forall₂ (Request.Twins (ρ := Rat) (σ := Cycling) (· + 1))
      [.mutate (some [7]) (.whole 3),.feedback 2 true true (some 5),.success 9 (some 1)]
      [.mutate (some [7]) (.whole 3),.feedback 2 true true (some 5),.success 9 (some 1)] :=
    .cons (.mutate _ _) (.cons (.feedback _ _ _ _) (.cons (.success _ _) .nil))
  exact ⟨(requests alike).1.trans rfl,(rounds small [] (.whole 2)).1.trans rfl⟩

end Campaign

end Fuzzing

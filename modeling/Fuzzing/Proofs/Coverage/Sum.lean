import Mathlib.Algebra.BigOperators.Group.List.Basic
import Mathlib.Algebra.Ring.Int.Defs
import Mathlib.Logic.Function.Basic
import Fuzzing.Proofs.Coverage.Reachable

/-!
Counts are sums. After some writes, the known names are those that were known or mentioned, and every count has grown
by what the writes add to it (`knows_foldl_applied`, `count_foldl_applied`). Sums depend neither on the order of the
writes, so that callers may interleave them as they like, nor on how they are split among trackers that are merged
afterwards; and to merge is to add one tracker to another, which may be the same one (`counts_are_sums`).
-/
namespace Fuzzing

/-- A list goes through some lists in turns, and keeps the order of each of them. -/
inductive Interleaved {α : Type} : List (List α) → List α → Prop where
  | done {parts : List (List α)} : (∀ part ∈ parts, part = []) → Interleaved parts []
  | turn {before after : List (List α)} {part whole : List α} {x : α} :
    Interleaved (before ++ part :: after) whole → Interleaved (before ++ (x :: part) :: after) (x :: whole)

private theorem Interleaved.perm {α : Type} {parts : List (List α)} {whole : List α} (turns : Interleaved parts whole) :
    whole.Perm parts.flatten := by
  induction turns with
  | done empty => rw [List.flatten_eq_nil_iff.mpr empty]
  | @turn before after part whole x _ ih =>
    rw [List.flatten_append,List.flatten_cons] at ih ⊢
    exact (ih.cons x).trans List.perm_middle.symm

namespace Coverage

variable {ρ : Type}

/-- The trackers have the same names and the same count for each, in whatever order. -/
def SameMap (c d : Coverage ρ Int) : Prop := ∀ signal, Table.get? signal c.counts = Table.get? signal d.counts

private theorem sameMap_iff {c d : Coverage ρ Int} :
    c.SameMap d ↔ ∀ signal, c.knows signal = d.knows signal ∧ c.count signal = d.count signal := by
  constructor
  · intro same signal
    rw [knows,knows,count,count,same signal]
    exact ⟨rfl,rfl⟩
  · intro same signal
    obtain ⟨known,counted⟩ := same signal
    rw [knows,knows] at known
    rw [count,count] at counted
    cases left : Table.get? signal c.counts with
    | none =>
      rw [left] at known
      exact (Option.isNone_iff_eq_none.mp (Option.isSome_eq_false_iff.mp known.symm)).symm
    | some m =>
      rw [left] at known counted
      obtain ⟨n,right⟩ := Option.isSome_iff_exists.mp known.symm
      rw [right] at counted ⊢
      exact congrArg some counted

namespace Write

/-- Makes writes one after the other, up to the first that is refused. -/
def performAll : List Write → Action ρ (Coverage ρ Int) Unit
  | [] => pure ()
  | w :: rest => do
    let _ ← w.perform
    performAll rest

private theorem returns_performAll {ws : List Write} {c c' : Coverage ρ Int} :
    (performAll ws).Returns c () c' ↔ (∀ w ∈ ws, w.Accepted) ∧ c' = ws.foldl applied c := by
  induction ws generalizing c with
  | nil =>
    constructor
    · intro ran
      exact ⟨fun w mem => absurd mem List.not_mem_nil,(Action.returns_pure.mp ran).2⟩
    · rintro ⟨-,rfl⟩
      exact Action.returns_pure.mpr ⟨rfl,rfl⟩
  | cons w rest ih =>
    rw [List.forall_mem_cons,List.foldl_cons,performAll,Action.returns_bind]
    constructor
    · rintro ⟨fresh,c₁,first,later⟩
      obtain ⟨accepted,-,rfl⟩ := returns_perform_iff.mp first
      obtain ⟨all,rfl⟩ := ih.mp later
      exact ⟨⟨accepted,all⟩,rfl⟩
    · rintro ⟨⟨accepted,all⟩,rfl⟩
      exact ⟨_,_,returns_perform accepted c,ih.mpr ⟨all,rfl⟩⟩

end Write

theorem knows_foldl_applied (ws : List Write) (c : Coverage ρ Int) (signal : Signal) :
    (ws.foldl Write.applied c).knows signal = (c.knows signal || ws.any fun w => w.names.contains signal) := by
  induction ws generalizing c with
  | nil => exact (Bool.or_false _).symm
  | cons w rest ih =>
    rw [List.foldl_cons,ih,Write.knows_applied,List.any_cons,Bool.or_comm (w.names.contains signal),Bool.or_assoc]

theorem count_foldl_applied (ws : List Write) (c : Coverage ρ Int) (signal : Signal) :
    (ws.foldl Write.applied c).count signal = c.count signal + (ws.map fun w => w.hits signal).sum := by
  induction ws generalizing c with
  | nil => exact (Int.add_zero _).symm
  | cons w rest ih => rw [List.foldl_cons,ih,Write.count_applied,List.map_cons,List.sum_cons,Int.add_assoc]

private theorem sameMap_of_perm {ws ws' : List Write} (perm : ws.Perm ws') (c : Coverage ρ Int) :
    (ws.foldl Write.applied c).SameMap (ws'.foldl Write.applied c) := by
  refine sameMap_iff.mpr fun signal => ⟨?_,?_⟩
  · rw [knows_foldl_applied,knows_foldl_applied,perm.any_eq]
  · rw [count_foldl_applied,count_foldl_applied,(perm.map _).sum_eq]

private theorem knows_absorb (c d : Coverage ρ Int) (signal : Signal) :
    (c.absorb d.counts).knows signal = (c.knows signal || d.knows signal) := by
  rw [absorb,knows_foldl (f := Prod.fst) (fun c e t => knows_hit c e.1 t e.2),Bool.or_comm,knows,knows,
    Table.isSome_get? signal d.counts,List.contains_eq_any_beq,List.any_map]
  congr 2
  funext e
  exact BEq.comm

private theorem Sound.count_absorb {d : Coverage ρ Int} (sound : d.Sound) (c : Coverage ρ Int) (signal : Signal) :
    (c.absorb d.counts).count signal = c.count signal + d.count signal := Coverage.count_absorb sound.distinct c signal

/-- What writes do to a new tracker, a merge adds to another one: it is as if they had been made there. -/
private theorem sameMap_absorb_foldl (ws : List Write) (accepted : ∀ w ∈ ws, w.Accepted) (name : Document ρ)
    (c : Coverage ρ Int) :
    (c.absorb (ws.foldl Write.applied (⟨name,[]⟩ : Coverage ρ Int)).counts).SameMap (ws.foldl Write.applied c) := by
  have sound := (sound_empty name).foldl_applied accepted
  refine sameMap_iff.mpr fun signal => ⟨?_,?_⟩
  · rw [knows_absorb,knows_foldl_applied,knows_foldl_applied]
    rfl
  · rw [sound.count_absorb,count_foldl_applied,count_foldl_applied]
    congr 1
    exact Int.zero_add _

private theorem Sound.sameMap_absorb_comm {c d : Coverage ρ Int} (left : c.Sound) (right : d.Sound) :
    (c.absorb d.counts).SameMap (d.absorb c.counts) := by
  refine sameMap_iff.mpr fun signal => ⟨?_,?_⟩
  · rw [knows_absorb,knows_absorb,Bool.or_comm]
  · rw [right.count_absorb,left.count_absorb,Int.add_comm]

private theorem Sound.sameMap_absorb_assoc {c d e : Coverage ρ Int} (middle : d.Sound) (right : e.Sound) :
    ((c.absorb d.counts).absorb e.counts).SameMap (c.absorb (d.absorb e.counts).counts) := by
  have both : (d.absorb e.counts).Sound := middle.absorb right.fit
  refine sameMap_iff.mpr fun signal => ⟨?_,?_⟩
  · rw [knows_absorb,knows_absorb,knows_absorb,knows_absorb,Bool.or_assoc]
  · rw [right.count_absorb,middle.count_absorb,both.count_absorb,right.count_absorb,Int.add_assoc]

/-- Merges one of several trackers into another one, or into itself. Its counts are read before any is written. -/
def mergeInto (target source : Nat) : Action ρ (Nat → Coverage ρ Int) Unit := do
  let trackers ← .state
  Action.focus (fun trackers => trackers target) (fun c trackers => Function.update trackers target c)
    (merge (some (trackers source).snapshot))

private theorem returns_mergeInto {trackers : Nat → Coverage ρ Int} {source : Nat} (sound : (trackers source).Sound)
    (target : Nat) :
    (mergeInto target source).Returns trackers ()
      (Function.update trackers target ((trackers target).absorb (trackers source).counts)) :=
  Action.returns_state_bind.mpr (Action.returns_focus.mpr ⟨_,sound.returns_merge (trackers target),rfl⟩)

/-- Counts are sums. Writes that are accepted add what they mention and what they hit, in any order and in any
    interleaving of callers; what is done to another tracker and merged counts as if it had been done here; to merge
    is commutative and associative, and changes the target only, whose counts are doubled if it is the source too. -/
theorem counts_are_sums :
    (∀ (c c' : Coverage ρ Int) (ws : List Write), (Write.performAll ws).Returns c () c' → ∀ signal,
      c'.knows signal = (c.knows signal || ws.any fun w => w.names.contains signal) ∧
      c'.count signal = c.count signal + (ws.map fun w => w.hits signal).sum) ∧
    (∀ (c c₁ : Coverage ρ Int) (callers : List (List Write)) (ws ws' : List Write), Interleaved callers ws →
      Interleaved callers ws' → (Write.performAll ws).Returns c () c₁ →
        ∃ c₂, (Write.performAll ws').Returns c () c₂ ∧ c₁.SameMap c₂) ∧
    (∀ (c c₁ d₁ : Coverage ρ Int) (name : Document ρ) (ws ws' : List Write), (Write.performAll ws).Returns c () c₁ →
      (Write.performAll ws').Returns ⟨name,[]⟩ () d₁ →
        ∃ merged c₂, (merge (some d₁.snapshot)).Returns c₁ () merged ∧
          (Write.performAll (ws ++ ws')).Returns c () c₂ ∧ merged.SameMap c₂) ∧
    (∀ c d : Coverage ρ Int, c.Reachable → d.Reachable →
      ∃ cd dc, (merge (some d.snapshot)).Returns c () cd ∧ (merge (some c.snapshot)).Returns d () dc ∧
        cd.SameMap dc) ∧
    (∀ c d e : Coverage ρ Int, d.Reachable → e.Reachable →
      ∃ cd cd_e de c_de, (merge (some d.snapshot)).Returns c () cd ∧ (merge (some e.snapshot)).Returns cd () cd_e ∧
        (merge (some e.snapshot)).Returns d () de ∧ (merge (some de.snapshot)).Returns c () c_de ∧
        cd_e.SameMap c_de) ∧
    (∀ (trackers : Nat → Coverage ρ Int) (target source : Nat), (trackers source).Reachable →
      ∃ trackers', (mergeInto target source).Returns trackers () trackers' ∧
        (∀ other, other ≠ target → trackers' other = trackers other) ∧
        (∀ signal, (trackers' target).knows signal =
            ((trackers target).knows signal || (trackers source).knows signal) ∧
          (trackers' target).count signal = (trackers target).count signal + (trackers source).count signal) ∧
        (source = target → ∀ signal, (trackers' target).knows signal = (trackers target).knows signal ∧
          (trackers' target).count signal = 2 * (trackers target).count signal)) := by
  refine ⟨?_,?_,?_,?_,?_,?_⟩
  · intro c c' ws ran signal
    obtain ⟨-,rfl⟩ := Write.returns_performAll.mp ran
    exact ⟨knows_foldl_applied ws c signal,count_foldl_applied ws c signal⟩
  · intro c c₁ callers ws ws' turns turns' ran
    obtain ⟨accepted,rfl⟩ := Write.returns_performAll.mp ran
    have perm := turns.perm.trans turns'.perm.symm
    exact ⟨_,Write.returns_performAll.mpr ⟨fun w mem => accepted w (perm.mem_iff.mpr mem),rfl⟩,
      sameMap_of_perm perm c⟩
  · intro c c₁ d₁ name ws ws' first second
    obtain ⟨accepted,rfl⟩ := Write.returns_performAll.mp first
    obtain ⟨accepted',rfl⟩ := Write.returns_performAll.mp second
    have sound := (sound_empty name).foldl_applied accepted'
    refine ⟨_,_,sound.returns_merge _,Write.returns_performAll.mpr ⟨?_,rfl⟩,?_⟩
    · exact List.forall_mem_append.mpr ⟨accepted,accepted'⟩
    · rw [List.foldl_append]
      exact sameMap_absorb_foldl ws' accepted' name _
  · intro c d left right
    exact ⟨_,_,right.sound.returns_merge c,left.sound.returns_merge d,left.sound.sameMap_absorb_comm right.sound⟩
  · intro c d e middle right
    have both : (d.absorb e.counts).Sound := middle.sound.absorb right.sound.fit
    exact ⟨_,_,_,_,middle.sound.returns_merge c,right.sound.returns_merge _,right.sound.returns_merge d,
      both.returns_merge c,middle.sound.sameMap_absorb_assoc right.sound⟩
  · intro trackers target source reached
    have added (signal : Signal) := reached.sound.count_absorb (trackers target) signal
    refine ⟨_,returns_mergeInto reached.sound target,fun other apart => Function.update_of_ne apart ..,?_,?_⟩
    · intro signal
      rw [Function.update_self]
      exact ⟨knows_absorb _ _ signal,added signal⟩
    · rintro rfl signal
      rw [Function.update_self,knows_absorb,added,Bool.or_self]
      exact ⟨rfl,(Int.two_mul _).symm⟩

/-- Two callers name a signal twice, merge a zero and make a signal known without a hit; and a tracker is merged into
    itself. -/
theorem counts_are_sums_small :
    (∃ c₁ c₂ : Coverage Rat Int,
      (Write.performAll [.declare "d",.merge (some [("a",3),("c",0)]),.observe ["a","b","a"],.increment "b" 2]).Returns
        ⟨standardName,[]⟩ () c₁ ∧
      (Write.performAll [.merge (some [("a",3),("c",0)]),.increment "b" 2,.declare "d",.observe ["a","b","a"]]).Returns
        ⟨standardName,[]⟩ () c₂ ∧ c₁.SameMap c₂ ∧
      c₁.count "a" = 4 ∧ c₁.count "b" = 3 ∧ c₁.count "c" = 0 ∧ c₁.knows "c" = true ∧ c₁.knows "d" = true) ∧
    ∃ trackers' : Nat → Coverage Rat Int,
      (mergeInto 0 0).Returns (fun _ => (Operation.write (.increment "a" 2)).next ⟨standardName,[]⟩) () trackers' ∧
      (trackers' 0).count "a" = 4 ∧ (trackers' 1).count "a" = 2 := by
  obtain ⟨sums,order,-,-,-,into⟩ := counts_are_sums (ρ := Rat)
  constructor
  · have turns : Interleaved
        [[.declare "d",.observe ["a","b","a"]],[.merge (some [("a",3),("c",0)]),.increment "b" 2]]
        [.declare "d",.merge (some [("a",3),("c",0)]),.observe ["a","b","a"],Write.increment "b" 2] :=
      @Interleaved.turn _ [] [_] _ _ _ (@Interleaved.turn _ [_] [] _ _ _ (@Interleaved.turn _ [] [_] _ _ _
        (@Interleaved.turn _ [[]] [] _ _ _ (.done (by simp)))))
    have turns' : Interleaved
        [[.declare "d",.observe ["a","b","a"]],[.merge (some [("a",3),("c",0)]),.increment "b" 2]]
        [.merge (some [("a",3),("c",0)]),.increment "b" 2,.declare "d",Write.observe ["a","b","a"]] :=
      @Interleaved.turn _ [_] [] _ _ _ (@Interleaved.turn _ [_] [] _ _ _ (@Interleaved.turn _ [] [_] _ _ _
        (@Interleaved.turn _ [] [_] _ _ _ (.done (by simp)))))
    have accepted : ∀ w ∈ [.declare "d",.merge (some [("a",3),("c",0)]),.observe ["a","b","a"],
        Write.increment "b" 2], w.Accepted := by decide
    have ran := (Write.returns_performAll (c := (⟨standardName,[]⟩ : Coverage Rat Int))).mpr ⟨accepted,rfl⟩
    obtain ⟨c₂,again,same⟩ := order _ _ _ _ _ turns turns' ran
    refine ⟨_,c₂,ran,again,same,?_,?_,?_,?_,?_⟩
    · exact (sums _ _ _ ran "a").2
    · exact (sums _ _ _ ran "b").2
    · exact (sums _ _ _ ran "c").2
    · exact (sums _ _ _ ran "c").1
    · exact (sums _ _ _ ran "d").1
  · have new : Reachable (⟨standardName,[]⟩ : Coverage Rat Int) :=
      .create (rfl : create standardName [] = ⟨.ok (),⟨standardName,[]⟩,[]⟩)
    obtain ⟨trackers',merged,others,-,doubled⟩ := into
      (fun _ => (Operation.write (.increment "a" 2)).next ⟨standardName,[]⟩) 0 0 (new.next _)
    refine ⟨trackers',merged,(doubled rfl "a").2,?_⟩
    rw [others 1 (by decide)]
    rfl

end Coverage

end Fuzzing

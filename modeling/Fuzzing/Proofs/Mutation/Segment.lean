import Mathlib.Data.List.Basic
import Fuzzing.Mutation.Buffer
import Fuzzing.Proofs.Bytes
import Fuzzing.Proofs.Quantity
import Fuzzing.Proofs.Randomness

/-!
Edits that change the shape of a buffer. What they draw depends on the length of the buffer only. To insert or to
duplicate puts one run of bytes in, which can be taken out again (`Grown`); to delete takes one run out, of at most half of
the buffer (`Shrunk`). Two segments of at most a quarter of the buffer always fit beside each other (`roomBeside_ne_nil`),
and to swap them moves all bytes and loses none (`segments_exchanged`).
-/
namespace Fuzzing.Mutation

open Fuzzing.Action (Follows Yields)

section

variable {ρ σ : Type} {sound : σ → Prop} {data : Bytes} {pos : Nat}

/-- A buffer with a run of bytes put in at a position. -/
structure Grown (data : Bytes) (pos : Nat) (run out : Bytes) : Prop where
  inside : pos ≤ data.length
  whole : out = data.take pos ++ run ++ data.drop pos
  undone : out.removed pos run.length = data

/-- What is left of a buffer after a run is taken out. -/
structure Shrunk (data : Bytes) (run : Segment) (out : Bytes) : Prop where
  fits : run.pos + run.size ≤ data.length
  whole : out = data.take run.pos ++ data.drop (run.pos + run.size)
  some : out ≠ []

private theorem grown_inserted (inside : pos ≤ data.length) (run : Bytes) : Grown data pos run (data.inserted pos run) :=
  ⟨inside,rfl,Bytes.removed_inserted inside run⟩

private theorem shrunk_removed {run : Segment} (fits : run.pos + run.size ≤ data.length) (less : run.size < data.length) :
    Shrunk data run (data.removed run.pos run.size) where
  fits := fits
  whole := by rw [Bytes.removed,Bytes.replaced,List.append_nil]
  some := by
    have shorter := Bytes.length_replaced fits []
    rw [List.length_nil] at shorter
    refine List.ne_nil_of_length_pos ?_
    rw [Bytes.removed]
    omega

variable [Source ρ σ]

/-- A run of random bytes, and where it goes in a buffer of some length. -/
def drawInsertion (length : Nat) : Action ρ σ (Nat × Bytes) := do
  let count ← Draw.between 1 mostInserted
  let pos ← Draw.between 0 length
  let fresh ← Draw.eachByte count
  pure (pos,fresh)

/-- A run of at most half of a buffer of some length. -/
def drawRun (length : Nat) : Action ρ σ Segment := do
  let size ← Draw.between 1 (max 1 (length / 2))
  let pos ← Draw.between 0 (length - size)
  pure ⟨pos,size⟩

/-- Such a run, and where its copy goes. -/
def drawCopy (length : Nat) : Action ρ σ (Segment × Nat) := do
  let run ← drawRun length
  let target ← Draw.between 0 length
  pure (run,target)

private theorem follows_insertRandom (answers : Answering ρ sound) (data : Bytes) :
    Follows sound (drawInsertion data.length : Action ρ σ (Nat × Bytes))
      (fun d => d.1 ≤ data.length ∧ 1 ≤ d.2.length ∧ d.2.length ≤ mostInserted) (insertRandom data)
      fun d => data.inserted d.1 d.2 := by
  simp only [drawInsertion,Draw.between,bind_assoc]
  refine Follows.bind (Draw.yields_number answers (by decide)) ?_
  rintro _ ⟨count,rfl,least,most⟩
  simp only [Draw.index_whole,pure_bind]
  refine Follows.bind (Draw.yields_number answers (by omega)) ?_
  rintro _ ⟨pos,rfl,-,inside⟩
  simp only [Draw.index_whole,Draw.bound_whole,pure_bind,Int.toNat_natCast]
  refine Follows.bind (Draw.yields_eachByte answers count) fun fresh full => ?_
  have some : 1 ≤ fresh.length := by omega
  have few : fresh.length ≤ mostInserted := by omega
  exact .pure ⟨Int.ofNat_le.mp inside,some,few⟩ rfl

variable [Quantity ρ]

private theorem follows_deleteRun (answers : Answering ρ sound) (long : 2 ≤ data.length) :
    Follows sound (drawRun data.length : Action ρ σ Segment)
      (fun run => 1 ≤ run.size ∧ run.size ≤ data.length / 2 ∧ run.pos + run.size ≤ data.length) (deleteRun data)
      fun run => data.removed run.pos run.size := by
  rw [deleteRun,if_neg (by omega)]
  simp only [drawRun,Draw.between,bind_assoc]
  refine Follows.bind (Draw.yields_number answers (by omega)) ?_
  rintro _ ⟨size,rfl,least,most⟩
  simp only [Draw.index_whole,pure_bind,Amount.minus_whole,Int.toNat_natCast]
  refine Follows.bind (Draw.yields_number answers (by omega)) ?_
  rintro _ ⟨pos,rfl,-,inside⟩
  simp only [Draw.index_whole,segment,Draw.bound_whole,pure_bind,Int.toNat_natCast]
  have half : size ≤ data.length / 2 := by omega
  have fits : pos + size ≤ data.length := by omega
  exact .pure ⟨least,half,fits⟩ rfl

private theorem follows_duplicateSegment (answers : Answering ρ sound) (long : 2 ≤ data.length) :
    Follows sound (drawCopy data.length : Action ρ σ (Segment × Nat))
      (fun d => 1 ≤ d.1.size ∧ d.1.size ≤ data.length / 2 ∧ d.1.pos + d.1.size ≤ data.length ∧ d.2 ≤ data.length)
      (duplicateSegment data) fun d => data.inserted d.2 (data.slice d.1.pos d.1.size) := by
  rw [duplicateSegment,if_neg (by omega)]
  simp only [drawCopy,drawRun,Draw.between,bind_assoc]
  refine Follows.bind (Draw.yields_number answers (by omega)) ?_
  rintro _ ⟨size,rfl,least,most⟩
  simp only [Draw.index_whole,pure_bind,Amount.minus_whole,Int.toNat_natCast]
  refine Follows.bind (Draw.yields_number answers (by omega)) ?_
  rintro _ ⟨pos,rfl,-,inside⟩
  simp only [Draw.index_whole,pure_bind,Int.toNat_natCast]
  refine Follows.bind (Draw.yields_number answers (by omega)) ?_
  rintro _ ⟨target,rfl,-,within⟩
  simp only [Draw.index_whole,segment,Draw.bound_whole,pure_bind,Int.toNat_natCast]
  have half : size ≤ data.length / 2 := by omega
  have fits : pos + size ≤ data.length := by omega
  exact .pure ⟨least,half,fits,Int.ofNat_le.mp within⟩ rfl

/-- To insert puts one to ten bytes in, anywhere. To delete takes out a run of at most half of the buffer, to duplicate puts
    a copy of such a run in, anywhere, inside of itself, too; both leave a buffer of less than two bytes as it is and draw
    nothing. -/
theorem one_run_changed (answers : Answering ρ sound) (data : Bytes) {s : σ} (good : sound s) :
    (∃ pos fresh s', sound s' ∧ drawInsertion data.length s = (⟨.ok (pos,fresh),s',[]⟩ : Trace ρ σ (Nat × Bytes)) ∧
      1 ≤ fresh.length ∧ fresh.length ≤ 10 ∧
      ∃ out, SegmentEdit.insert.perform data s = (⟨.ok out,s',[]⟩ : Trace ρ σ Bytes) ∧ Grown data pos fresh out) ∧
    (data.length < 2 → ∀ edit ∈ [SegmentEdit.delete,SegmentEdit.duplicate],
      edit.perform data s = (⟨.ok data,s,[]⟩ : Trace ρ σ Bytes)) ∧
    (2 ≤ data.length → ∃ run s', sound s' ∧ drawRun data.length s = (⟨.ok run,s',[]⟩ : Trace ρ σ Segment) ∧
      1 ≤ run.size ∧ run.size ≤ data.length / 2 ∧
      ∃ out, SegmentEdit.delete.perform data s = (⟨.ok out,s',[]⟩ : Trace ρ σ Bytes) ∧ Shrunk data run out) ∧
    (2 ≤ data.length → ∃ run target s', sound s' ∧
      drawCopy data.length s = (⟨.ok (run,target),s',[]⟩ : Trace ρ σ (Segment × Nat)) ∧
      1 ≤ run.size ∧ run.size ≤ data.length / 2 ∧ run.pos + run.size ≤ data.length ∧
      ∃ out, SegmentEdit.duplicate.perform data s = (⟨.ok out,s',[]⟩ : Trace ρ σ Bytes) ∧
        (data.slice run.pos run.size).length = run.size ∧ Grown data target (data.slice run.pos run.size) out) := by
  refine ⟨?_,?_,?_,?_⟩
  · obtain ⟨⟨pos,fresh⟩,s',drawn,good',⟨inside,least,most⟩,made⟩ := follows_insertRandom answers data s good
    exact ⟨pos,fresh,s',good',drawn,least,most,_,made,grown_inserted inside fresh⟩
  · intro short edit listed
    obtain rfl | rfl : edit = .delete ∨ edit = .duplicate := by simpa using listed
    · rw [SegmentEdit.perform,deleteRun,if_pos short]
      rfl
    · rw [SegmentEdit.perform,duplicateSegment,if_pos short]
      rfl
  · intro long
    obtain ⟨run,s',drawn,good',⟨least,most,fits⟩,made⟩ := follows_deleteRun answers long s good
    exact ⟨run,s',good',drawn,least,most,_,made,shrunk_removed fits (by omega)⟩
  · intro long
    obtain ⟨⟨run,target⟩,s',drawn,good',⟨least,most,fits,inside⟩,made⟩ := follows_duplicateSegment answers long s good
    exact ⟨run,target,s',good',drawn,least,most,fits,_,made,Bytes.length_slice fits,grown_inserted inside _⟩

/-- A copy of the last two bytes of four goes in between them. A single byte is neither deleted nor duplicated. -/
theorem one_run_changed_inside :
    2 ≤ ([1,2,3,4] : Bytes).length ∧
    drawCopy ([1,2,3,4] : Bytes).length (⟨1⟩ : Cycling) = (⟨.ok (⟨2,2⟩,3),⟨4⟩,[]⟩ : Trace Rat Cycling (Segment × Nat)) ∧
    SegmentEdit.duplicate.perform [1,2,3,4] (⟨1⟩ : Cycling) =
      (⟨.ok [1,2,3,3,4,4],⟨4⟩,[]⟩ : Trace Rat Cycling Bytes) ∧
    Grown [1,2,3,4] 3 [3,4] [1,2,3,3,4,4] ∧
    (∃ run s', drawRun ([1,2,3,4] : Bytes).length (⟨1⟩ : Cycling) = (⟨.ok run,s',[]⟩ : Trace Rat Cycling Segment) ∧
      ∃ out, SegmentEdit.delete.perform [1,2,3,4] (⟨1⟩ : Cycling) = (⟨.ok out,s',[]⟩ : Trace Rat Cycling Bytes) ∧
        Shrunk [1,2,3,4] run out) ∧
    ([9] : Bytes).length < 2 ∧
    SegmentEdit.delete.perform [9] (⟨1⟩ : Cycling) = (⟨.ok [9],⟨1⟩,[]⟩ : Trace Rat Cycling Bytes) := by
  have answers : Answering Rat fun _ : Cycling => True := Cycling.supplying.toAnswering
  have long : 2 ≤ ([1,2,3,4] : Bytes).length := by decide
  have short : ([9] : Bytes).length < 2 := by decide
  have drawn : drawCopy ([1,2,3,4] : Bytes).length (⟨1⟩ : Cycling) =
    (⟨.ok (⟨2,2⟩,3),⟨4⟩,[]⟩ : Trace Rat Cycling (Segment × Nat)) := rfl
  have copied : SegmentEdit.duplicate.perform [1,2,3,4] (⟨1⟩ : Cycling) =
    (⟨.ok [1,2,3,3,4,4],⟨4⟩,[]⟩ : Trace Rat Cycling Bytes) := rfl
  obtain ⟨-,-,deletes,duplicates⟩ := one_run_changed answers [1,2,3,4] (s := ⟨1⟩) trivial
  obtain ⟨run,s₁,-,drawnRun,-,-,deleted⟩ := deletes long
  obtain ⟨_,_,_,-,again,-,-,-,out,made,-,grown⟩ := duplicates long
  rw [drawn] at again
  cases again
  rw [copied] at made
  cases made
  exact ⟨long,drawn,copied,grown,⟨run,s₁,drawnRun,deleted⟩,short,
    (one_run_changed answers [9] (s := ⟨1⟩) trivial).2.1 short .delete (by decide)⟩

end

section

variable {ρ : Type} [Quantity ρ]

/-- A range of starts is given by whole numbers, and a segment that starts in it lies in the buffer and does not
    touch the first one. -/
private theorem bounds_of_mem_roomBeside {length pos₁ size₁ size₂ : Nat} {first last : Amount ρ}
    (listed : (first,last) ∈ roomBeside length (.whole pos₁) (.whole size₁) (.whole size₂)) :
    ∃ low high : Nat, first = .whole low ∧ last = .whole high ∧ low ≤ high ∧
      ∀ pos, low ≤ pos → pos ≤ high →
        (pos + size₂ ≤ pos₁ ∨ pos₁ + size₁ ≤ pos) ∧ (pos₁ + size₁ ≤ length → pos + size₂ ≤ length) := by
  simp only [roomBeside,Amount.isAtMost_whole,Amount.plus_whole,Amount.minus_whole,List.mem_append] at listed
  rcases listed with before | behind
  · by_cases room : (size₂ : Int) ≤ pos₁
    · simp only [room,decide_true,if_true,List.mem_singleton,Prod.mk.injEq] at before
      obtain ⟨rfl,rfl⟩ := before
      refine ⟨0,pos₁ - size₂,rfl,?_,by omega,fun pos _ _ => ⟨.inl (by omega),fun _ => by omega⟩⟩
      congr 1
      omega
    · simp [room] at before
  · by_cases room : (pos₁ : Int) + size₁ + size₂ ≤ length
    · simp only [room,decide_true,if_true,List.mem_singleton,Prod.mk.injEq] at behind
      obtain ⟨rfl,rfl⟩ := behind
      refine ⟨pos₁ + size₁,length - size₂,rfl,?_,by omega,fun pos _ _ => ⟨.inr (by omega),fun _ => by omega⟩⟩
      congr 1
      omega
    · simp [room] at behind

/-- Two segments of at most a quarter of a buffer leave room for one another: if the second does not fit in front of
    the first, the first starts in the first quarter. -/
theorem roomBeside_ne_nil {length pos₁ size₁ size₂ : Nat} (quarter₁ : 4 * size₁ ≤ length)
    (quarter₂ : 4 * size₂ ≤ length) :
    (roomBeside length (.whole pos₁) (.whole size₁) (.whole size₂) : List (Amount ρ × Amount ρ)) ≠ [] := by
  simp only [roomBeside,Amount.isAtMost_whole,Amount.plus_whole]
  by_cases before : (size₂ : Int) ≤ pos₁
  · simp [before]
  · have behind : (pos₁ : Int) + size₁ + size₂ ≤ length := by omega
    simp [behind]

variable {σ : Type} [Source ρ σ] {sound : σ → Prop}

omit [Quantity ρ] [Source ρ σ] in
private theorem yields_segment (pos size : Nat) :
    Yields sound (segment (.whole pos) (.whole size) : Action ρ σ Segment) fun drawn => drawn = ⟨pos,size⟩ :=
  .pure rfl

/-- The two segments of a swap: in order, apart from each other, in the buffer, and not empty nor too large. -/
private structure Swapped (data : Bytes) (one other : Segment) : Prop where
  apart : one.pos + one.size ≤ other.pos
  inside : other.pos + other.size ≤ data.length
  least₁ : 1 ≤ one.size
  least₂ : 1 ≤ other.size
  most₁ : one.size ≤ min (data.length / 4) mostInserted
  most₂ : other.size ≤ min (data.length / 4) mostInserted

/-- The two segments that a swap draws, in the order of the draws. -/
def drawSegments (data : Bytes) : Action ρ σ (Segment × Segment) := do
  let limit := max 1 (min (data.length / 4) mostInserted)
  let size₁ ← Draw.number 1 limit
  let pos₁ ← Draw.span (.whole 0) ((Amount.whole data.length).minus size₁)
  let size₂ ← Draw.number 1 limit
  let room := roomBeside data.length pos₁ size₁ size₂
  if room.isEmpty then .fail (.noSwapRoom data.length pos₁.document size₁.document size₂.document)
  else do
    let (first,last) ← Draw.choose room
    let pos₂ ← Draw.span first last
    let one ← segment pos₁ size₁
    let other ← segment pos₂ size₂
    pure (one,other)

/-- Exchanges two segments in the order of their places. -/
private def exchangedInOrder (data : Bytes) (one other : Segment) : Bytes :=
  if one.pos < other.pos ∨ (one.pos = other.pos ∧ one.size ≤ other.size) then exchanged data one other
  else exchanged data other one

private theorem swapSegments_eq {data : Bytes} (long : 4 ≤ data.length) :
    (swapSegments data : Action ρ σ Bytes) =
      drawSegments data >>= fun drawn => pure (exchangedInOrder data drawn.1 drawn.2) := by
  rw [swapSegments,if_neg (by omega),drawSegments]
  simp only [bind_assoc]
  refine bind_congr fun size₁ => bind_congr fun pos₁ => bind_congr fun size₂ => ?_
  split
  · rfl
  · simp only [bind_assoc,pure_bind,exchangedInOrder]
    refine bind_congr fun range => bind_congr fun pos₂ => bind_congr fun one => bind_congr fun other => ?_
    split <;> rfl

private theorem yields_drawSegments (answers : Answering ρ sound) {data : Bytes} (long : 4 ≤ data.length) :
    Yields sound (drawSegments data : Action ρ σ (Segment × Segment)) fun drawn =>
      Swapped data drawn.1 drawn.2 ∨ Swapped data drawn.2 drawn.1 := by
  refine (Draw.yields_number answers (by omega)).bind ?_
  rintro _ ⟨size₁,rfl,least₁,most₁⟩
  rw [Amount.minus_whole]
  refine (Draw.yields_span answers (by omega) (by omega)).bind ?_
  rintro _ ⟨pos₁,rfl,_,inside₁⟩
  refine (Draw.yields_number answers (by omega)).bind ?_
  rintro _ ⟨size₂,rfl,least₂,most₂⟩
  have room : (roomBeside data.length (.whole pos₁) (.whole size₁) (.whole size₂) :
      List (Amount ρ × Amount ρ)) ≠ [] := roomBeside_ne_nil (by omega) (by omega)
  simp only [List.isEmpty_iff,if_neg room]
  refine (Draw.yields_choose answers room).bind ?_
  rintro ⟨first,last⟩ listed
  obtain ⟨low,high,rfl,rfl,nonempty,starts⟩ := bounds_of_mem_roomBeside listed
  refine (Draw.yields_span answers (by omega) (by omega)).bind ?_
  rintro _ ⟨pos₂,rfl,above,below⟩
  obtain ⟨apart,inside₂⟩ := starts pos₂ (by omega) (by omega)
  refine (yields_segment pos₁ size₁).bind ?_
  rintro _ rfl
  refine (yields_segment pos₂ size₂).bind ?_
  rintro _ rfl
  have within := inside₂ (by omega)
  have whole₁ : pos₁ + size₁ ≤ data.length := by omega
  have some : 1 ≤ mostInserted := by decide
  have small₁ : size₁ ≤ min (data.length / 4) mostInserted := by omega
  have small₂ : size₂ ≤ min (data.length / 4) mostInserted := by omega
  obtain behind | before := apart
  · exact .pure (.inr ⟨behind,whole₁,least₂,least₁,small₂,small₁⟩)
  · exact .pure (.inl ⟨before,within,least₁,least₂,small₁,small₂⟩)

omit [Quantity ρ] [Source ρ σ] in
private theorem Swapped.exchangedInOrder_eq {data : Bytes} {one other : Segment} (swapped : Swapped data one other) :
    exchangedInOrder data one other = exchanged data one other ∧
      exchangedInOrder data other one = exchanged data one other := by
  have apart := swapped.apart
  have least := swapped.least₁
  constructor
  · rw [exchangedInOrder,if_pos (by omega)]
  · rw [exchangedInOrder,if_neg (by omega)]

private theorem yields_swapSegments (answers : Answering ρ sound) (data : Bytes) :
    Yields sound (swapSegments data : Action ρ σ Bytes) fun out =>
      (data.length < 4 ∧ out = data) ∨
      (4 ≤ data.length ∧ ∃ one other, Swapped data one other ∧ out = exchanged data one other) := by
  by_cases short : data.length < 4
  · rw [swapSegments,if_pos short]
    exact .pure (.inl ⟨short,rfl⟩)
  · have long : 4 ≤ data.length := by omega
    rw [swapSegments_eq long]
    refine (yields_drawSegments answers long).bind fun drawn either => .pure (.inr ⟨long,?_⟩)
    obtain swapped | swapped := either
    · exact ⟨_,_,swapped,swapped.exchangedInOrder_eq.1⟩
    · exact ⟨_,_,swapped,swapped.exchangedInOrder_eq.2⟩

omit [Quantity ρ] in
private theorem Swapped.length_exchanged {data : Bytes} {one other : Segment} (swapped : Swapped data one other) :
    (exchanged data one other).length = data.length := by
  have apart := swapped.apart
  have inside := swapped.inside
  have whole : one.pos + one.size ≤ data.length := by omega
  rw [exchanged]
  simp only [List.length_append,List.length_take,List.length_drop,Bytes.length_slice inside,Bytes.length_slice whole]
  omega

/-- Every edit of segments succeeds on every buffer. It takes at most half of the buffer away, and adds at most ten
    bytes or half of the buffer. -/
theorem yields_editSegments (answers : Answering ρ sound) (data : Bytes) :
    Yields sound (editSegments data : Action ρ σ Bytes) fun out =>
      data.length - data.length / 2 ≤ out.length ∧ out.length ≤ data.length + max mostInserted (data.length / 2) := by
  refine (Draw.yields_choose answers (by decide)).bind fun edit _ => ?_
  cases edit with
  | insert =>
    refine (follows_insertRandom answers data).yields.mono ?_
    rintro _ ⟨⟨pos,fresh⟩,⟨inside,-,few⟩,rfl⟩
    rw [Bytes.length_inserted inside]
    omega
  | delete =>
    by_cases short : data.length < 2
    · rw [SegmentEdit.perform,deleteRun,if_pos short]
      exact .pure ⟨by omega,by omega⟩
    · refine (follows_deleteRun answers (by omega)).yields.mono ?_
      rintro _ ⟨run,⟨-,half,inside⟩,rfl⟩
      have shorter := Bytes.length_replaced inside []
      rw [List.length_nil] at shorter
      rw [Bytes.removed]
      omega
  | duplicate =>
    by_cases short : data.length < 2
    · rw [SegmentEdit.perform,duplicateSegment,if_pos short]
      exact .pure ⟨by omega,by omega⟩
    · refine (follows_duplicateSegment answers (by omega)).yields.mono ?_
      rintro _ ⟨⟨run,target⟩,⟨-,half,inside,within⟩,rfl⟩
      rw [Bytes.length_inserted within,Bytes.length_slice inside]
      omega
  | swap =>
    refine (yields_swapSegments answers data).mono ?_
    rintro _ (⟨_,rfl⟩ | ⟨_,one,other,swapped,rfl⟩)
    · omega
    · rw [swapped.length_exchanged]
      omega

end

section

variable {ρ σ : Type} [Quantity ρ] [Source ρ σ] {sound : σ → Prop} {data out : Bytes} {one other : Segment}

/-- A buffer with the contents of two segments exchanged, which are given in order: what stands before, between and
    behind them stays. -/
def Exchanges (data : Bytes) (one other : Segment) (out : Bytes) : Prop :=
  ∃ a x b y c : Bytes, data = a ++ x ++ b ++ y ++ c ∧ out = a ++ y ++ b ++ x ++ c ∧
    one = ⟨a.length,x.length⟩ ∧ other = ⟨(a ++ x ++ b).length,y.length⟩

private theorem take_append_slice (data : Bytes) (pos size : Nat) :
    data.take pos ++ data.slice pos size = data.take (pos + size) := by
  rw [Bytes.slice,List.take_add]

private theorem take_append_between {pos stop : Nat} (le : pos ≤ stop) (data : Bytes) :
    data.take pos ++ (data.take stop).drop pos = data.take stop := by
  have front : (data.take stop).take pos = data.take pos := by rw [List.take_take,Nat.min_eq_left le]
  rw [← front,List.take_append_drop]

private theorem Swapped.exchanges (swapped : Swapped data one other) : Exchanges data one other (exchanged data one other) := by
  have apart := swapped.apart
  have inside := swapped.inside
  have runs : data.take one.pos ++ data.slice one.pos one.size ++ (data.take other.pos).drop (one.pos + one.size) =
      data.take other.pos := by
    rw [take_append_slice,take_append_between apart]
  refine ⟨data.take one.pos,data.slice one.pos one.size,(data.take other.pos).drop (one.pos + one.size),
    data.slice other.pos other.size,data.drop (other.pos + other.size),?_,rfl,?_,?_⟩
  · rw [runs,take_append_slice,List.take_append_drop]
  · rw [List.length_take_of_le (by omega),Bytes.length_slice (by omega)]
  · rw [runs,List.length_take_of_le (by omega),Bytes.length_slice inside]

private theorem Exchanges.perm (exchanges : Exchanges data one other out) : out.Perm data := by
  obtain ⟨a,x,b,y,c,rfl,rfl,-,-⟩ := exchanges
  rw [List.perm_iff_count]
  intro v
  simp only [List.count_append]
  omega

/-- A swap leaves a buffer of less than four bytes as it is and draws nothing. In any other one it finds a place for both
    segments that it draws, neither of them empty nor larger than a quarter of the buffer or ten bytes, and exchanges
    them in the order of their places, so that length and bytes stay. -/
theorem segments_exchanged (answers : Answering ρ sound) (data : Bytes) {s : σ} (good : sound s) :
    (data.length < 4 → SegmentEdit.swap.perform data s = (⟨.ok data,s,[]⟩ : Trace ρ σ Bytes)) ∧
    (4 ≤ data.length → ∃ one other out s', sound s' ∧
      drawSegments data s = (⟨.ok (one,other),s',[]⟩ : Trace ρ σ (Segment × Segment)) ∧
      SegmentEdit.swap.perform data s = (⟨.ok out,s',[]⟩ : Trace ρ σ Bytes) ∧
      (Exchanges data one other out ∨ Exchanges data other one out) ∧
      1 ≤ one.size ∧ one.size ≤ min (data.length / 4) 10 ∧ 1 ≤ other.size ∧ other.size ≤ min (data.length / 4) 10 ∧
      out.length = data.length ∧ out.Perm data) := by
  constructor
  · intro short
    rw [SegmentEdit.perform,swapSegments,if_pos short]
    rfl
  · intro long
    obtain ⟨⟨one,other⟩,s',drawn,good',either⟩ := yields_drawSegments answers long s good
    have whole : SegmentEdit.swap.perform data s =
        (⟨.ok (exchangedInOrder data one other),s',[]⟩ : Trace ρ σ Bytes) := by
      rw [SegmentEdit.perform,swapSegments_eq long,Action.bind_apply_ok drawn]
      rfl
    refine ⟨one,other,_,s',good',drawn,whole,?_⟩
    obtain swapped | swapped := either
    · rw [swapped.exchangedInOrder_eq.1]
      have exchanges := swapped.exchanges
      exact ⟨.inl exchanges,swapped.least₁,swapped.most₁,swapped.least₂,swapped.most₂,exchanges.perm.length_eq,
        exchanges.perm⟩
    · rw [swapped.exchangedInOrder_eq.2]
      have exchanges := swapped.exchanges
      exact ⟨.inr exchanges,swapped.least₂,swapped.most₂,swapped.least₁,swapped.most₁,exchanges.perm.length_eq,
        exchanges.perm⟩

/-- The second segment that is drawn ends where the first one starts. -/
theorem segments_exchanged_adjacent :
    4 ≤ ([1,2,3,4,5,6,7,8] : Bytes).length ∧
    drawSegments [1,2,3,4,5,6,7,8] (⟨1⟩ : Cycling) =
      (⟨.ok (⟨2,2⟩,⟨0,2⟩),⟨6⟩,[]⟩ : Trace Rat Cycling (Segment × Segment)) ∧
    SegmentEdit.swap.perform [1,2,3,4,5,6,7,8] (⟨1⟩ : Cycling) =
      (⟨.ok [3,4,1,2,5,6,7,8],⟨6⟩,[]⟩ : Trace Rat Cycling Bytes) ∧
    ∃ one other out s', drawSegments [1,2,3,4,5,6,7,8] (⟨1⟩ : Cycling) =
        (⟨.ok (one,other),s',[]⟩ : Trace Rat Cycling (Segment × Segment)) ∧
      SegmentEdit.swap.perform [1,2,3,4,5,6,7,8] (⟨1⟩ : Cycling) = (⟨.ok out,s',[]⟩ : Trace Rat Cycling Bytes) ∧
      (Exchanges [1,2,3,4,5,6,7,8] one other out ∨ Exchanges [1,2,3,4,5,6,7,8] other one out) ∧
      out.Perm [1,2,3,4,5,6,7,8] := by
  have long : 4 ≤ ([1,2,3,4,5,6,7,8] : Bytes).length := by decide
  refine ⟨long,rfl,rfl,?_⟩
  obtain ⟨one,other,out,s',-,drawn,made,exchanges,-,-,-,-,-,perm⟩ :=
    (segments_exchanged Cycling.supplying.toAnswering (ρ := Rat) [1,2,3,4,5,6,7,8] (s := ⟨1⟩) trivial).2 long
  exact ⟨one,other,out,s',drawn,made,exchanges,perm⟩

end

end Fuzzing.Mutation

import Fuzzing.Proofs.Mutation.Serialized

/-!
Edits of a compact integer, whatever follows it. The integer is the first one in cyclic order from a place that is drawn
(`findMarker?_cases`). Another marker takes one byte, another value stays behind the marker, and a value of the catalog
takes as many bytes as it has, or as many as are left (`marker_edited`). The buffer is as long as ever in each case.
-/
namespace Fuzzing.Mutation

open Fuzzing.Action (Ensures)
open Fuzzing.Bytes (SameOutside Stamped)

variable {ρ σ : Type} [Quantity ρ] [Source ρ σ] {sound : σ → Prop} {data : Bytes} {start offset header way : Nat}
  {s s₁ : σ}

/-- A compact integer at an offset that comes before every other one in cyclic order from a start. -/
structure FirstMarker (data : Bytes) (start offset header : Nat) : Prop where
  reads : ∃ value, CompactInt.read? data offset = some (value,header)
  leads : ∃ j, j < data.length ∧ offset = (start + j) % data.length ∧
    ∀ i, i < j → CompactInt.read? data ((start + i) % data.length : Nat) = none

private theorem FirstMarker.offset_lt (first : FirstMarker data start offset header) : offset < data.length := by
  obtain ⟨value,reads⟩ := first.reads
  have bounds := CompactInt.size_of_read? reads
  omega

/-- A search for a compact integer finds none where none can be read, and the one that comes first otherwise. -/
theorem findMarker?_cases (inside : start < data.length) :
    (findMarker? data start = none ∧ ∀ offset : Nat, CompactInt.read? data offset = none) ∨
      ∃ offset header, findMarker? data start = some (offset,header) ∧ FirstMarker data start offset header := by
  have unread (i : Nat) : CompactInt.atOffset markerAt? data i = none ↔ CompactInt.read? data i = none := by
    rw [CompactInt.atOffset,markerAt?,Option.map_eq_none_iff,CompactInt.read?_natCast]
  rw [findMarker?,Nat.mod_eq_of_lt inside]
  rcases CompactInt.firstCyclic_cases markerAt? inside with ⟨nothing,all⟩ | ⟨⟨offset,header⟩,found,j,short,there,before⟩
  · refine .inl ⟨nothing,fun offset => ?_⟩
    by_cases within : offset < data.length
    · -- The search has been at every offset, also at those in front of its start.
      have answer := all (data.length - start + offset)
      rw [show start + (data.length - start + offset) = data.length + offset by omega,Nat.add_mod_left,
        Nat.mod_eq_of_lt within] at answer
      exact (unread offset).mp answer
    · rw [CompactInt.read?_natCast,List.drop_eq_nil_of_le (by omega)]
      rfl
  · obtain ⟨⟨value,size⟩,read,same⟩ := Option.map_eq_some_iff.mp there
    obtain ⟨place,rfl⟩ := Prod.mk.inj same
    refine .inr ⟨offset,size,found,⟨value,?_⟩,j,short,place.symm,fun i less => (unread _).mp (before i less)⟩
    rw [← place,CompactInt.read?_natCast,read]

private theorem FirstMarker.eq {offset' header' : Nat} (first : FirstMarker data start offset header)
    (second : FirstMarker data start offset' header') : (offset,header) = (offset',header') := by
  obtain ⟨value,reads⟩ := first.reads
  obtain ⟨value',reads'⟩ := second.reads
  obtain ⟨j,-,rfl,beforeJ⟩ := first.leads
  obtain ⟨k,-,rfl,beforeK⟩ := second.leads
  rcases Nat.lt_trichotomy j k with less | rfl | more
  · rw [beforeK j less] at reads
    cases reads
  · rw [reads] at reads'
    cases reads'
    rfl
  · rw [beforeJ k more] at reads'
    cases reads'

private theorem findMarker?_eq_some_iff (inside : start < data.length) :
    findMarker? data start = some (offset,header) ↔ FirstMarker data start offset header := by
  rcases findMarker?_cases inside with ⟨nothing,unread⟩ | ⟨other,size,found,first⟩
  · rw [nothing]
    constructor
    · intro found
      cases found
    · rintro ⟨⟨value,reads⟩,-⟩
      rw [unread offset] at reads
      cases reads
  · rw [found,Option.some.injEq]
    exact ⟨fun same => by cases same; exact first,first.eq⟩

/-- From a place that it draws, an edit of markers comes to a compact integer, and then draws a way of editing it. -/
def LocatedMarker (ρ : Type) [Source ρ σ] (data : Bytes) (s : σ) (offset header way : Nat) (s' : σ) : Prop :=
  ∃ start s₁, (Draw.below data.length : Action ρ σ Nat).Returns s start s₁ ∧ FirstMarker data start offset header ∧
    (Draw.numberBelow 3 : Action ρ σ (Amount ρ)).Returns s₁ (.whole way) s'

omit [Quantity ρ] in
private theorem exists_locatedMarker (answers : Answering ρ sound) (good : sound s)
    (readable : ∃ offset : Nat, CompactInt.read? data offset ≠ none) :
    ∃ (offset header way : Nat) (s' : σ), LocatedMarker ρ data s offset header way s' ∧ way < 3 := by
  obtain ⟨somewhere,reads⟩ := readable
  have nonempty : 0 < data.length := by
    obtain ⟨⟨value,size⟩,reads⟩ := Option.ne_none_iff_exists'.mp reads
    have bounds := CompactInt.size_of_read? reads
    omega
  obtain ⟨start,s₁,began,inside,good₁⟩ := exists_start answers nonempty good
  obtain ⟨way,s',drawn,few,-⟩ := exists_way answers good₁
  rcases findMarker?_cases inside with ⟨-,unread⟩ | ⟨offset,header,-,first⟩
  · exact absurd (unread somewhere) reads
  · exact ⟨offset,header,way,s',⟨start,s₁,began,first,drawn⟩,few⟩

/-- What an edit makes of a buffer with a compact integer at an offset, by the way that is drawn. -/
structure Remarked (ρ : Type) [Source ρ σ] (data : Bytes) (offset header way : Nat) (s₁ : σ) (out : Bytes)
    (s' : σ) : Prop where
  length : out.length = data.length
  marker : way = 0 → ∃ marker ∈ ([0xFD,0xFE,0xFF] : Bytes), out = data.set offset marker
  value : way = 1 → SameOutside offset header data out ∧ ∃ n, CompactInt.read? out offset = some (n,header)
  catalog : way = 2 → ∃ value ∈ serializedCatalog,
    (Draw.choose serializedCatalog : Action ρ σ Bytes).Returns s₁ value s' ∧ Stamped data offset value out

private theorem ensures_editFoundMarker (answers : Answering ρ sound) (good : sound s) {value : Nat}
    (reads : CompactInt.read? data offset = some (value,header)) :
    Ensures (editFoundMarker data (offset,header) (.whole way) : Action ρ σ Bytes) s fun out s' =>
      sound s' ∧ Remarked ρ data offset header way s out s' := by
  have bounds := CompactInt.size_of_read? reads
  have isZero : Amount.isWhole 0 (.whole way : Amount ρ) = true ↔ way = 0 := isWhole_natCast 0 way
  have isOne : Amount.isWhole 1 (.whole way : Amount ρ) = true ↔ way = 1 := isWhole_natCast 1 way
  simp only [editFoundMarker,isZero,isOne]
  refine .ite (fun zero => ?_) fun _ => .ite (fun one => ?_) fun _ => ?_
  · -- Each way has a condition of its own, and the other two do not apply to it.
    refine (Ensures.of_yields (yields_newMarker answers (by omega)) good).mono ?_
    rintro _ s' ⟨good',marker,listed,rfl⟩
    exact ⟨good',List.length_set,fun _ => ⟨marker,listed,rfl⟩,by omega,by omega⟩
  · refine (Ensures.of_yields (yields_newValue answers reads) good).mono ?_
    rintro out s' ⟨good',same,again⟩
    exact ⟨good',same.length,by omega,fun _ => ⟨same,again⟩,by omega⟩
  · obtain ⟨value,s',ran,good',listed⟩ := Draw.yields_choose answers serializedCatalog_ne_nil s good
    have chosen : (Draw.choose serializedCatalog : Action ρ σ Bytes).Returns s value s' := ⟨[],ran⟩
    have stamped := Bytes.stamped_stamped (by omega : offset ≤ data.length) value
    refine ⟨data.stamped offset value,s',Action.returns_bind.mpr ⟨value,s',chosen,Action.returns_pure.mpr ⟨rfl,rfl⟩⟩,good',?_⟩
    exact ⟨stamped.outside.length,by omega,by omega,fun _ => ⟨value,listed,chosen,stamped⟩⟩

private theorem LocatedMarker.ensures_remarked (answers : Answering ρ sound) (good : sound s)
    (located : LocatedMarker ρ data s offset header way s₁) :
    Ensures (editMarker data : Action ρ σ Bytes) s fun out s' =>
      sound s' ∧ Remarked ρ data offset header way s₁ out s' := by
  obtain ⟨start,s₂,began,first,drawn⟩ := located
  have nonempty : 0 < data.length := Nat.zero_lt_of_lt first.offset_lt
  obtain ⟨inside,good₂⟩ := start_lt answers nonempty good began
  have good₁ := (way_lt answers good₂ drawn).2
  obtain ⟨value,reads⟩ := first.reads
  rw [editMarker_eq]
  exact ensures_found began ((findMarker?_eq_some_iff inside).mpr first) drawn
    (ensures_editFoundMarker answers good₁ reads)

private theorem ensures_editMarker_unread (answers : Answering ρ sound) (good : sound s) (nonempty : 0 < data.length)
    (unread : ∀ offset : Nat, CompactInt.read? data offset = none) :
    Ensures (editMarker data : Action ρ σ Bytes) s fun out s' =>
      sound s' ∧ out.length = data.length ∧ (data.changes out).length ≤ 1 := by
  obtain ⟨start,s₁,began,inside,good₁⟩ := exists_start answers nonempty good
  rw [editMarker_eq]
  refine ensures_overwritten answers nonempty good₁ began ?_
  rcases findMarker?_cases inside with ⟨nothing,-⟩ | ⟨offset,header,-,first⟩
  · exact nothing
  · obtain ⟨value,reads⟩ := first.reads
    rw [unread offset] at reads
    cases reads

/-- An edit of markers keeps the length of a buffer. Where no compact integer can be read, it changes one byte at most.
    Otherwise it comes to the first one in cyclic order from a place that it draws. It puts another marker there, or another
    value of the same size, or it writes a value of the catalog over the buffer from there on. -/
theorem marker_edited (answers : Answering ρ sound) (data : Bytes) (nonempty : data ≠ []) {s : σ} (good : sound s)
    (maxGrowth : Document ρ) :
    Ensures (SerializedEdit.marker.perform maxGrowth data) s (fun out s' => sound s' ∧ out.length = data.length) ∧
    ((∀ offset : Nat, CompactInt.read? data offset = none) →
      Ensures (SerializedEdit.marker.perform maxGrowth data) s fun out s' =>
        sound s' ∧ out.length = data.length ∧ (data.changes out).length ≤ 1) ∧
    ((∃ offset : Nat, CompactInt.read? data offset ≠ none) →
      ∃ (offset header way : Nat) (s₁ : σ), LocatedMarker ρ data s offset header way s₁ ∧ way < 3) ∧
    (∀ (offset header way : Nat) (s₁ : σ), LocatedMarker ρ data s offset header way s₁ →
      Ensures (SerializedEdit.marker.perform maxGrowth data) s fun out s' =>
        sound s' ∧ Remarked ρ data offset header way s₁ out s') := by
  have some : 0 < data.length := List.length_pos_iff.mpr nonempty
  rw [SerializedEdit.perform]
  exact ⟨.of_yields (yields_editMarker answers some) good,ensures_editMarker_unread answers good some,
    exists_locatedMarker answers good,fun _ _ _ _ located => located.ensures_remarked answers good⟩

/-- A search from the last of four bytes, a marker that the end cuts off, wraps and comes to the front. There a value of
    five bytes is written as far as it fits. In the other buffer nothing can be read. -/
theorem marker_edited_wrapping :
    LocatedMarker Rat [0xFD,0x05,0x00,0xFE] (⟨7⟩ : Cycling) 0 3 2 ⟨9⟩ ∧
    SerializedEdit.marker.perform .null [0xFD,0x05,0x00,0xFE] (⟨7⟩ : Cycling) =
      (⟨.ok [0xFE,0xFF,0xFF,0xFF],⟨10⟩,[]⟩ : Trace Rat Cycling Bytes) ∧
    (∃ (offset header way : Nat) (s₁ : Cycling),
      LocatedMarker Rat [0xFD,0x05,0x00,0xFE] (⟨7⟩ : Cycling) offset header way s₁ ∧ way < 3) ∧
    Ensures (SerializedEdit.marker.perform .null [0xFD,0x05,0x00,0xFE] : Action Rat Cycling Bytes) ⟨7⟩
      (Remarked Rat [0xFD,0x05,0x00,0xFE] 0 3 2 ⟨9⟩) ∧
    (∀ offset : Nat, CompactInt.read? [0xFD,0xFE] offset = none) ∧
    Ensures (SerializedEdit.marker.perform .null [0xFD,0xFE] : Action Rat Cycling Bytes) ⟨7⟩
      (fun out _ => out.length = 2 ∧ (Bytes.changes [0xFD,0xFE] out).length ≤ 1) := by
  have answers : Answering Rat fun _ : Cycling => True := Cycling.supplying.toAnswering
  have first : FirstMarker [0xFD,0x05,0x00,0xFE] 3 0 3 := (findMarker?_eq_some_iff (by decide)).mp (by decide)
  have located : LocatedMarker Rat [0xFD,0x05,0x00,0xFE] (⟨7⟩ : Cycling) 0 3 2 ⟨9⟩ :=
    ⟨3,⟨8⟩,⟨[],rfl⟩,first,[],rfl⟩
  have unread : ∀ offset : Nat, CompactInt.read? [0xFD,0xFE] offset = none := by
    rcases findMarker?_cases (by decide : 0 < ([0xFD,0xFE] : Bytes).length) with ⟨-,unread⟩ | ⟨offset,header,found,-⟩
    · exact unread
    · have nothing : findMarker? [0xFD,0xFE] 0 = none := by decide
      rw [nothing] at found
      cases found
  have readable : ∃ offset : Nat, CompactInt.read? [0xFD,0x05,0x00,0xFE] offset ≠ none := ⟨0,by decide⟩
  have edited := marker_edited answers [0xFD,0x05,0x00,0xFE] (by decide) (s := ⟨7⟩) trivial .null
  refine ⟨located,rfl,edited.2.2.1 readable,(edited.2.2.2 0 3 2 _ located).mono fun _ _ => And.right,unread,?_⟩
  exact ((marker_edited answers [0xFD,0xFE] (by decide) trivial .null).2.1 unread).mono fun _ _ => And.right

end Fuzzing.Mutation

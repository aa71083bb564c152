import Mathlib
import LineBridge.Proofs.Loading

/-! What memory holds when an image has been loaded. Segments are laid down in order and each
brings its padding along, so that a segment stands whole unless the padding of a later one
reaches into it; there memory reads zero. -/

namespace LineBridge

theorem Addr.Spans.distance_lt_iff {a : Addr} {len : Nat} (spans : a.Spans len) (b : Addr) :
    a.distance b < len ↔ b.val.toNat ∈ Set.Ico a.val.toNat (a.val.toNat + len) := by
  have first := a.val.toNat_lt
  have second := b.val.toNat_lt
  have inside : a.val.toNat + len ≤ 2 ^ 32 := spans
  rw [distance, UInt32.toNat_sub, Set.mem_Ico]
  omega

theorem Addr.Spans.toNat_offset {a : Addr} {len i : Nat} (spans : a.Spans len)
    (inside : i < len) : (a.offset i).val.toNat = a.val.toNat + i := by
  rw [Addr.toNat_offset, Nat.mod_eq_of_lt ((Nat.add_lt_add_left inside _).trans_le spans)]

namespace Segment

/-- The addresses of the data. -/
def range (segment : Segment) : Set Nat :=
  Set.Ico segment.addr.val.toNat (segment.addr.val.toNat + segment.data.length)

/-- The addresses of the zeros behind the data. -/
def padding (segment : Segment) : Set Nat :=
  Set.Ico (segment.addr.val.toNat + segment.data.length)
    (segment.addr.val.toNat + segment.padded.length)

instance (a b : Segment) : Decidable (Disjoint a.range b.range) :=
  decidable_of_iff _ Set.Ico_disjoint_Ico.symm

theorem mem_range (segment : Segment) {i : Nat} (inside : i < segment.data.length) :
    segment.addr.val.toNat + i ∈ segment.range :=
  ⟨Nat.le_add_right _ _, Nat.add_lt_add_left inside _⟩

theorem length_le_padded (segment : Segment) : segment.data.length ≤ segment.padded.length := by
  rw [padded, Bytes.padTo, List.length_append]
  exact Nat.le_add_right _ _

variable {segment : Segment} (spans : segment.addr.Spans segment.padded.length) (f : Flat)
include spans

theorem write_of_mem_range {i : Nat} (inside : i < segment.data.length) :
    f.write segment.addr segment.padded (segment.addr.offset i) = segment.data[i] := by
  have short := segment.length_le_padded.trans spans.le_spaceBytes
  rw [Flat.write, segment.addr.distance_offset (by omega), padded, Bytes.padTo,
    List.getD_append _ _ _ _ inside, List.getD_eq_getElem]

theorem write_of_mem_padding {a : Addr} (padding : a.val.toNat ∈ segment.padding) :
    f.write segment.addr segment.padded a = 0 := by
  have whole := segment.length_le_padded
  have data : segment.addr.Spans segment.data.length :=
    (Nat.add_le_add_left whole _).trans spans
  have inside : segment.addr.distance a < segment.padded.length :=
    (spans.distance_lt_iff a).mpr ⟨(Nat.le_add_right _ _).trans padding.1, padding.2⟩
  have behind : segment.data.length ≤ segment.addr.distance a := by
    by_contra short
    have before := ((data.distance_lt_iff a).mp (Nat.not_le.mp short)).2
    exact absurd padding.1 (Nat.not_le.mpr before)
  have zero : segment.addr.distance a - segment.data.length <
      (lineBytes - segment.data.length % lineBytes) % lineBytes := by
    rw [padded, Bytes.padTo, List.length_append, List.length_replicate] at inside
    omega
  rw [Flat.write, padded, Bytes.padTo, List.getD_append_right _ _ _ _ behind,
    List.getD_replicate _ zero]

theorem write_of_not_mem {a : Addr} (data : a.val.toNat ∉ segment.range)
    (padding : a.val.toNat ∉ segment.padding) :
    f.write segment.addr segment.padded a = f a := by
  apply Flat.write_of_le
  by_contra short
  have inside := (spans.distance_lt_iff a).mp (Nat.not_le.mp short)
  have either := Nat.lt_or_ge a.val.toNat (segment.addr.val.toNat + segment.data.length)
  rcases either with within | behind
  · exact data ⟨inside.1, within⟩
  · exact padding ⟨behind, inside.2⟩

end Segment

namespace Flat

/-- What later segments do to a byte that is in none of their ranges. -/
theorem lay_apply {segments : List Segment} {a : Addr}
    (spans : ∀ segment ∈ segments, segment.addr.Spans segment.padded.length)
    (clear : ∀ segment ∈ segments, a.val.toNat ∉ segment.range) (f : Flat) :
    ((∃ segment ∈ segments, a.val.toNat ∈ segment.padding) → f.lay segments a = 0) ∧
    ((∀ segment ∈ segments, a.val.toNat ∉ segment.padding) → f.lay segments a = f a) := by
  induction segments generalizing f with
  | nil => simp [lay]
  | cons segment rest ih =>
    rw [List.forall_mem_cons] at spans clear
    have later := ih spans.2 clear.2 (f.write segment.addr segment.padded)
    by_cases padded : ∃ segment ∈ rest, a.val.toNat ∈ segment.padding
    · refine ⟨fun _ => later.1 padded, fun none => ?_⟩
      obtain ⟨segment, member, inside⟩ := padded
      exact absurd inside (none segment (List.mem_cons_of_mem _ member))
    · have kept := later.2 fun segment member inside => padded ⟨segment, member, inside⟩
      constructor
      · intro some
        rcases (List.exists_mem_cons_iff ..).mp some with first | some
        · exact kept.trans (Segment.write_of_mem_padding spans.1 f first)
        · exact absurd some padded
      · intro none
        exact kept.trans
          (Segment.write_of_not_mem spans.1 f clear.1 (none segment (List.mem_cons_self ..)))

/-- A segment whose range no later segment shares, when all of them have been laid down. -/
theorem lay_apply_segment {earlier later : List Segment} {segment : Segment}
    (spans : ∀ part ∈ earlier ++ segment :: later, part.addr.Spans part.padded.length)
    (apart : ∀ other ∈ later, Disjoint segment.range other.range) (f : Flat) {i : Nat}
    (inside : i < segment.data.length) :
    let byte := f.lay (earlier ++ segment :: later) (segment.addr.offset i)
    ((∃ other ∈ later, segment.addr.val.toNat + i ∈ other.padding) → byte = 0) ∧
    ((∀ other ∈ later, segment.addr.val.toNat + i ∉ other.padding) →
      byte = segment.data[i]) := by
  rw [List.forall_mem_append, List.forall_mem_cons] at spans
  obtain ⟨-, own, rest⟩ := spans
  have place := own.toNat_offset (inside.trans_le segment.length_le_padded)
  have clear : ∀ other ∈ later, (segment.addr.offset i).val.toNat ∉ other.range := by
    intro other member
    rw [place]
    exact Set.disjoint_left.mp (apart other member) (segment.mem_range inside)
  have after := lay_apply rest clear ((f.lay earlier).write segment.addr segment.padded)
  rw [place, Segment.write_of_mem_range own _ inside] at after
  rwa [lay, List.foldl_append]

end Flat

section Loads

variable {σ : Type} {view : σ → Device} {s : Settings} {channel : Channel σ}

/-- After a load every byte of every segment is in memory, unless the padding of a later segment
covers it; there memory is zero. -/
theorem load_leaves_image (fronts : channel.Fronts view False) (valid : s.validate = .ok ())
    (inTime : channel.InTime s.poll.limits) {l l' : Loader σ} {f : Flat}
    (serves : Serves view s l.memory f) {image : Image}
    (fit : ∀ segment ∈ image.segments, segment.Fits)
    (disjoint : image.segments.Pairwise fun a b => Disjoint a.range b.range)
    {verify : Bool} {report : LoadReport}
    (loaded : (Loader.load channel.link image verify).run l = (.ok report, l'))
    {earlier later : List Segment} {segment : Segment}
    (parts : image.segments = earlier ++ segment :: later) :
    let memory := (view l'.memory.host.state).memory
    (∀ i (_ : i < segment.data.length),
      ((∃ other ∈ later, segment.addr.val.toNat + i ∈ other.padding) →
        memory.byteAt (segment.addr.offset i) = 0) ∧
      ((∀ other ∈ later, segment.addr.val.toNat + i ∉ other.padding) →
        memory.byteAt (segment.addr.offset i) = segment.data[i])) ∧
    ((∀ other ∈ later, Disjoint segment.range other.padding) →
      memory.peek segment.addr segment.data.length = segment.data) := by
  have ending := load_outcome fronts valid inTime serves fit verify
  cases flat : (Flat.loadSegments image.segments 0).run f with
  | mk outcome f' =>
    rw [flat] at ending
    cases outcome with
    | error e =>
      obtain ⟨_, failed, -⟩ := ending
      rw [loaded] at failed
      cases failed
    | ok bytes =>
      obtain ⟨_, _, run, -, after⟩ := ending
      rw [loaded] at run
      cases run
      obtain ⟨spans, -, rfl⟩ := Flat.run_loadSegments_ok_iff.mp flat
      have held := after.memory
      rw [parts] at spans held disjoint
      have apart := (List.pairwise_cons.mp (List.pairwise_append.mp disjoint).2.1).1
      have byte := fun i (inside : i < segment.data.length) =>
        Flat.lay_apply_segment spans apart f inside
      rw [← held] at byte
      refine ⟨byte, fun free => List.ext_getElem (LineStore.length_peek ..) ?_⟩
      intro i _ inside
      have none : ∀ other ∈ later, segment.addr.val.toNat + i ∉ other.padding :=
        fun other member => Set.disjoint_left.mp (free other member) (segment.mem_range inside)
      simp only [LineStore.peek, List.getElem_map, List.getElem_range]
      exact (byte i inside).2 none

end Loads

/-- A segment in the padding of a later one: two of its bytes are gone, and two still there. -/
theorem load_leaves_image_overlaid :
    let image : Image := ⟨[⟨⟨0x1e⟩, [1, 2, 3, 4]⟩, ⟨⟨0x10⟩, [9]⟩], 0⟩
    let l : Loader Device := { memory := ({} : Settings).memory {} }
    ∃ report l', (Loader.load Device.link image true).run l = (.ok report, l') ∧
      let memory := l'.memory.host.state.memory
      memory.byteAt ⟨0x1f⟩ = 0 ∧ memory.byteAt ⟨0x20⟩ = 3 ∧ memory.peek ⟨0x10⟩ 1 = [9] := by
  intro image l
  have valid : ({} : Settings).validate = .ok () := by decide
  have inTime : Device.channel.InTime ({} : Settings).poll.limits :=
    Device.inTime (by decide)
  have serves : Serves id {} l.memory fun _ => 0 := serves_new
  have fit : ∀ segment ∈ image.segments, segment.Fits := by decide
  have spans : ∀ segment ∈ image.segments, segment.addr.Spans segment.padded.length := by decide
  have disjoint : image.segments.Pairwise fun a b => Disjoint a.range b.range := by decide
  obtain ⟨report, l', loaded, -⟩ :=
    load_ok Channel.fronts_device valid inTime serves fit spans true
  have parts : image.segments = [] ++ ⟨⟨0x1e⟩, [1, 2, 3, 4]⟩ :: [⟨⟨0x10⟩, [9]⟩] := rfl
  have ends : image.segments = [⟨⟨0x1e⟩, [1, 2, 3, 4]⟩] ++ ⟨⟨0x10⟩, [9]⟩ :: [] := rfl
  have first := load_leaves_image Channel.fronts_device valid inTime serves fit disjoint
    loaded parts
  have last := load_leaves_image Channel.fronts_device valid inTime serves fit disjoint
    loaded ends
  refine ⟨report, l', loaded, (first.1 1 (by decide)).1 ?_, (first.1 2 (by decide)).2 ?_, ?_⟩
  · exact ⟨_, List.mem_singleton_self _, by decide, by decide⟩
  · intro other member inside
    rw [List.mem_singleton.mp member] at inside
    exact absurd inside.2 (by decide)
  · exact last.2 fun _ none => absurd none List.not_mem_nil

/-- Segments apart from each other, the second of which still wipes out the first. -/
theorem load_pads_over_segment :
    let image : Image := ⟨[⟨⟨0x18⟩, [1, 2, 3, 4]⟩, ⟨⟨0x10⟩, [9]⟩], 0⟩
    let l : Loader Device := { memory := ({} : Settings).memory {} }
    (image.segments.Pairwise fun a b => Disjoint a.range b.range) ∧
      ({} : Settings).validate = .ok () ∧
      Device.channel.InTime ({} : Settings).poll.limits ∧
      Serves id {} l.memory (fun _ => 0) ∧
      ∃ report l', (Loader.load Device.link image true).run l = (.ok report, l') ∧
        l'.memory.host.state.memory.peek ⟨0x18⟩ 4 = [0, 0, 0, 0] := by
  intro image l
  have valid : ({} : Settings).validate = .ok () := by decide
  have inTime : Device.channel.InTime ({} : Settings).poll.limits :=
    Device.inTime (by decide)
  have serves : Serves id {} l.memory fun _ => 0 := serves_new
  have fit : ∀ segment ∈ image.segments, segment.Fits := by decide
  have spans : ∀ segment ∈ image.segments, segment.addr.Spans segment.padded.length := by decide
  obtain ⟨report, l', loaded, -, after⟩ :=
    load_ok Channel.fronts_device valid inTime serves fit spans true
  refine ⟨by decide, valid, inTime, serves, report, l', loaded, ?_⟩
  have held : l'.memory.host.state.memory.byteAt = _ := after.memory
  rw [LineStore.peek_eq_read, held]
  decide

end LineBridge

import Mathlib
import LineBridge.Proofs.Loading

/-! What a load does, for every image. Either all segments stay in the space, and memory holds
them laid down in order; or the first that does not stay ends the load, and memory holds the
segments before it. How the driver is set up, and whether it reads back, makes no difference. -/

namespace LineBridge

namespace Segment

/-- There is nothing to load, or all of it stays in the space, padding included. -/
def Loadable (segment : Segment) : Prop :=
  segment.data ≠ [] → segment.addr.Spans segment.padded.length

instance (segment : Segment) : Decidable segment.Loadable := inferInstanceAs (Decidable (_ → _))

theorem loadable_iff (segment : Segment) :
    segment.Loadable ↔ segment.addr.Spans segment.padded.length := by
  constructor
  · intro loadable
    by_cases none : segment.data = []
    · have empty : segment.padded.length = 0 := by rw [length_padded, none, List.length_nil]
      rw [empty]
      exact Nat.le_of_lt segment.addr.val.toNat_lt_size
    · exact loadable none
  · intro spans _
    exact spans

end Segment

/-- What was moved, apart from how long it took and whether it was read back. -/
def LoadReport.moved (report : LoadReport) : Nat × Nat × UInt32 :=
  (report.segments, report.bytes, report.entry)

/-- The first segment that leaves the space ends a run over segments, behind the others. -/
theorem Flat.run_loadSegments_error {earlier later : List Segment} {segment : Segment}
    (spans : ∀ part ∈ earlier, part.addr.Spans part.padded.length)
    (outside : ¬segment.addr.Spans segment.padded.length) (written : Nat) (f : Flat) :
    (loadSegments (earlier ++ segment :: later) written).run f =
      (.error (.outOfRange segment.addr.val.toNat segment.padded.length), f.lay earlier) := by
  induction earlier generalizing written f with
  | nil =>
    have refused : (loadSegment segment).run f =
        (.error (.outOfRange segment.addr.val.toNat segment.padded.length), f) :=
      Action.run_bind_error (run_store_of_not_spans outside f)
    exact Action.run_bind_error refused
  | cons part rest ih =>
    rw [List.forall_mem_cons] at spans
    have stored : (loadSegment part).run f =
        (.ok part.padded.length, f.write part.addr part.padded) :=
      Action.run_bind_ok (run_store spans.1 f)
    exact (Action.run_bind_ok stored).trans (ih spans.2 _ _)

section Loads

variable {σ : Type} {view : σ → Device} {s : Settings} {channel : Channel σ}

/-- The outcome of a load, what it leaves in memory, and which entry point is remembered. They
depend on the image, on what memory held, and on the entry point remembered before. -/
theorem load_exact (fronts : channel.Fronts view False) (valid : s.validate = .ok ())
    (inTime : channel.InTime s.poll.limits) {l : Loader σ} {f : Flat}
    (serves : Serves view s l.memory f) {image : Image}
    (fit : ∀ segment ∈ image.segments, segment.Fits) (verify : Bool) :
    let run := (Loader.load channel.link image verify).run l
    let memory := (view run.2.memory.host.state).memory.byteAt
    ((∀ segment ∈ image.segments, segment.Loadable) →
      (∃ elapsed, run.1 = .ok ⟨image.segments.length,
        (image.segments.map (·.padded.length)).sum, image.entry, verify, elapsed⟩) ∧
      memory = f.lay image.segments ∧ run.2.entry = some image.entry) ∧
    (∀ earlier segment later, image.segments = earlier ++ segment :: later →
      (∀ part ∈ earlier, part.Loadable) → ¬segment.Loadable →
      run.1 = .error (.outOfRange segment.addr.val.toNat segment.padded.length) ∧
      memory = f.lay earlier ∧ run.2.entry = l.entry) ∧
    ∀ (s₂ : Settings) (l₂ : Loader σ) (verify₂ : Bool), s₂.validate = .ok () →
      channel.InTime s₂.poll.limits → Serves view s₂ l₂.memory f → l₂.entry = l.entry →
      let run₂ := (Loader.load channel.link image verify₂).run l₂
      run₂.1.map LoadReport.moved = run.1.map LoadReport.moved ∧
        (view run₂.2.memory.host.state).memory.byteAt = memory ∧ run₂.2.entry = run.2.entry := by
  have ending := load_outcome fronts valid inTime serves fit verify
  refine ⟨fun loadable => ?_, fun earlier segment later parts loadable outside => ?_,
    fun s₂ l₂ verify₂ valid₂ inTime₂ serves₂ same => ?_⟩
  · have spans : ∀ segment ∈ image.segments, segment.addr.Spans segment.padded.length :=
      fun segment member => segment.loadable_iff.mp (loadable segment member)
    rw [Flat.run_loadSegments_ok_iff.mpr ⟨spans, rfl, rfl⟩] at ending
    obtain ⟨elapsed, l', loaded, entry, after⟩ := ending
    rw [loaded, Nat.zero_add]
    exact ⟨⟨elapsed, rfl⟩, after.memory, entry⟩
  · have spans : ∀ part ∈ earlier, part.addr.Spans part.padded.length :=
      fun part member => part.loadable_iff.mp (loadable part member)
    rw [parts, Flat.run_loadSegments_error spans (segment.loadable_iff.not.mp outside)] at ending
    obtain ⟨l', refused, entry, after⟩ := ending
    rw [refused]
    exact ⟨rfl, after.memory, entry⟩
  · have ending₂ := load_outcome fronts valid₂ inTime₂ serves₂ fit verify₂
    cases flat : (Flat.loadSegments image.segments 0).run f with
    | mk outcome f' =>
      rw [flat] at ending ending₂
      cases outcome with
      | ok bytes =>
        obtain ⟨_, l', loaded, entry, after⟩ := ending
        obtain ⟨_, l₂', loaded₂, entry₂, after₂⟩ := ending₂
        rw [loaded, loaded₂]
        exact ⟨rfl, after₂.memory.trans after.memory.symm, entry₂.trans entry.symm⟩
      | error e =>
        obtain ⟨l', refused, entry, after⟩ := ending
        obtain ⟨l₂', refused₂, entry₂, after₂⟩ := ending₂
        rw [refused, refused₂]
        exact ⟨rfl, after₂.memory.trans after.memory.symm, entry₂.trans (same.trans entry.symm)⟩

end Loads

/-- Segments that overlap, one of them empty, and then one that leaves the space; and the same
load in small pages, without packed writes and without reading back. -/
theorem load_exact_overlaid :
    let segments : List Segment := [⟨⟨0x1e⟩, [1, 2, 3, 4]⟩, ⟨⟨0x40⟩, []⟩, ⟨⟨0x1f⟩, [9]⟩]
    let misfit : Segment := ⟨⟨0xfffffff8⟩, [5]⟩
    let paged : Settings := { transfer := { loadPageBytes := 16, packedWrites := false } }
    let l : Loader Device := { memory := ({} : Settings).memory {}, entry := some 3 }
    let l₂ : Loader Device := { memory := paged.memory {}, entry := some 3 }
    let run := (Loader.load Device.link ⟨segments, 7⟩ true).run l
    let cut := (Loader.load Device.link ⟨segments ++ [misfit], 7⟩ true).run l
    let run₂ := (Loader.load Device.link ⟨segments, 7⟩ false).run l₂
    (∃ elapsed, run.1 = .ok ⟨3, 32, 7, true, elapsed⟩) ∧ run.2.entry = some 7 ∧
      cut.1 = .error (.outOfRange 0xfffffff8 16) ∧ cut.2.entry = some 3 ∧
      run.2.memory.host.state.memory.peek ⟨0x1e⟩ 4 = [1, 9, 0, 0] ∧
      cut.2.memory.host.state.memory.peek ⟨0x1e⟩ 4 = [1, 9, 0, 0] ∧
      run₂.1.map LoadReport.moved = run.1.map LoadReport.moved := by
  intro segments misfit paged l l₂ run cut run₂
  have valid : ({} : Settings).validate = .ok () := by decide
  have inTime : Device.channel.InTime ({} : Settings).poll.limits :=
    Device.inTime (by decide)
  have serves : Serves id {} l.memory fun _ => 0 := serves_new
  have serves₂ : Serves id paged l₂.memory fun _ => 0 :=
    ⟨rfl, rfl, ⟨rfl, rfl, by decide⟩, ⟨rfl, rfl, rfl, rfl, rfl⟩, funext LineStore.byteAt_empty⟩
  have fit : ∀ segment ∈ (⟨segments, 7⟩ : Image).segments, segment.Fits := by decide
  have fit' : ∀ segment ∈ (⟨segments ++ [misfit], 7⟩ : Image).segments, segment.Fits := by decide
  obtain ⟨whole, -, alike⟩ := load_exact Channel.fronts_device valid inTime serves fit true
  obtain ⟨-, broken, -⟩ := load_exact Channel.fronts_device valid inTime serves fit' true
  obtain ⟨loaded, held, entry⟩ := whole (by decide)
  obtain ⟨refused, held', entry'⟩ := broken segments misfit [] rfl (by decide) (by decide)
  have same := alike paged l₂ false (by decide) inTime serves₂ rfl
  refine ⟨loaded, entry, refused, entry', ?_, ?_, same.1⟩
  · have held : run.2.memory.host.state.memory.byteAt = _ := held
    rw [LineStore.peek_eq_read, held]
    decide
  · have held : cut.2.memory.host.state.memory.byteAt = _ := held'
    rw [LineStore.peek_eq_read, held]
    decide

end LineBridge

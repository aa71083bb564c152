import Mathlib
import LineBridge.Proofs.Pieces
import LineBridge.Proofs.Transactions

/-! Requests for bytes, moved piece by piece over a channel that fronts a device. In the flat
view of its memory a read delivers the range from whatever state the device is in, and a write
that fails has stored the pieces that it reported, and perhaps the one that failed. -/

namespace LineBridge

open LineBridge.Action (Ends)

variable {σ α : Type} {view : σ → Device} {lossy : Prop}

namespace Device

/-- `d'` holds `f`, and behaves on the link as `d` does. -/
structure Becomes (d : Device) (f : Flat) (d' : Device) : Prop where
  memory : d'.memory.byteAt = f
  latency : d'.latency = d.latency
  skew : d'.skew = d.skew
  stuck : d'.stuck = d.stuck

theorem Keeps.becomes {d d' : Device} (h : d.Keeps d') : d.Becomes d.memory.byteAt d' :=
  ⟨congrArg LineStore.byteAt h.memory, h.latency, h.skew, h.stuck⟩

theorem Applied.becomes {d d' : Device} {addr : Addr} {data : Bytes}
    (h : d.Applied addr data d') (fits : data.length ≤ spaceBytes) :
    d.Becomes (Flat.write d.memory.byteAt addr data) d' :=
  ⟨by rw [h.memory, LineStore.byteAt_poke _ _ fits], h.latency, h.skew, h.stuck⟩

/-- What has been written is what memory holds. -/
theorem Applied.peek {d d' : Device} {addr : Addr} {payload : Bytes}
    (applied : d.Applied addr payload d') (fits : payload.length ≤ spaceBytes) :
    d'.memory.peek addr payload.length = payload := by
  rw [applied.memory, LineStore.peek_eq_read, LineStore.byteAt_poke _ _ fits,
    Flat.read_write _ _ fits]

theorem Becomes.trans {a b c : Device} {f g : Flat} (first : a.Becomes f b)
    (last : b.Becomes g c) : a.Becomes g c :=
  ⟨last.memory, last.latency.trans first.latency, last.skew.trans first.skew,
    last.stuck.trans first.stuck⟩

theorem Becomes.healthy_iff {d d' : Device} {f : Flat} (h : d.Becomes f d') (limits : PollLimits) :
    d'.Healthy limits ↔ d.Healthy limits := by
  constructor
  · intro healthy
    exact ⟨h.stuck ▸ healthy.free, h.skew ▸ healthy.straight, h.latency ▸ healthy.prompt⟩
  · intro healthy
    exact ⟨h.stuck.trans healthy.free, h.skew.trans healthy.straight,
      h.latency.symm ▸ healthy.prompt⟩

/-- Where a read of `len` bytes that succeeds leaves a device. An empty one does not touch it. -/
def AfterRead (d : Device) (len : Nat) (d' : Device) : Prop :=
  (len = 0 → d' = d) ∧ (len ≠ 0 → d.ReadOut d')

theorem AfterRead.refl (d : Device) : d.AfterRead 0 d := ⟨fun _ => rfl, fun no => absurd rfl no⟩

theorem ReadOut.afterRead {a b c : Device} (first : a.ReadOut b) {rest len : Nat}
    (later : b.AfterRead rest c) (some : len ≠ 0) : a.AfterRead len c := by
  refine ⟨fun none => absurd none some, fun _ => ?_⟩
  by_cases done : rest = 0
  · rw [later.1 done]
    exact first
  · exact first.toKeeps.trans_readOut (later.2 done)

theorem AfterRead.keeps {d d' : Device} {len : Nat} (h : d.AfterRead len d') : d.Keeps d' := by
  by_cases none : len = 0
  · rw [h.1 none]
    exact .refl d
  · exact (h.2 none).toKeeps

theorem AfterRead.idle {d d' : Device} {len : Nat} (h : d.AfterRead len d') (idle : d.Idle) :
    d'.Idle := by
  by_cases none : len = 0
  · rw [h.1 none]
    exact idle
  · exact (h.2 none).toIdle

/-- A write that failed has changed nothing, or it has changed all that it was to change. -/
def Torn (d : Device) (addr : Addr) (data : Bytes) (d' : Device) : Prop :=
  d.Becomes d.memory.byteAt d' ∨ d.Becomes (Flat.write d.memory.byteAt addr data) d'

/-- A fragment has been replaced by one write of its line, with the rest of the line as it was. -/
structure Patched (d : Device) (addr : Addr) (data : Bytes) (d' : Device) : Prop
    extends Becomes d (Flat.write d.memory.byteAt addr data) d' where
  writes : d'.writes = ⟨addr.lineBase, d'.memory.peek addr.lineBase lineBytes⟩ :: d.writes

theorem length_merged (m : LineStore) {addr : Addr} {data : Bytes}
    (inside : addr.lineOffset + data.length ≤ lineBytes) :
    (Memory.splice (m.peek addr.lineBase lineBytes) addr.lineOffset data).length = lineBytes := by
  rw [Memory.length_splice (by rwa [LineStore.length_peek]), LineStore.length_peek]

/-- Writing back the line that was read, with the fragment merged into it, replaces the
fragment. -/
theorem Applied.patched {d d₁ d' : Device} {addr : Addr} {data : Bytes}
    (inside : addr.lineOffset + data.length ≤ lineBytes) (kept : d.Keeps d₁)
    (applied : d₁.Applied addr.lineBase
      (Memory.splice (d.memory.peek addr.lineBase lineBytes) addr.lineOffset data) d') :
    d.Patched addr data d' := by
  have size := length_merged d.memory inside
  have space : lineBytes ≤ spaceBytes := by decide
  have same := Flat.write_splice d.memory.byteAt addr inside
  rw [← LineStore.peek_eq_read] at same
  generalize Memory.splice _ _ _ = merged at applied size same
  have fits : merged.length ≤ spaceBytes := size ▸ space
  refine ⟨kept.becomes.trans ?_, ?_⟩
  · rw [← same, ← kept.memory]
    exact applied.becomes fits
  · rw [applied.writes, kept.writes, ← size, applied.peek fits]

end Device

theorem Device.Becomes.troubled {d d' : Device} {f : Flat} (h : d.Becomes f d') {channel : Channel σ}
    {limits : PollLimits} (troubled : Troubled lossy channel limits d') :
    Troubled lossy channel limits d := by
  unfold Troubled at troubled ⊢
  rwa [h.healthy_iff limits] at troubled

/-- A write that starts with an empty buffer fails only for one of the known reasons. -/
theorem troubled_of_overdue {d : Device} {channel : Channel σ} {limits : PollLimits}
    (empty : d.writeFifo = #[])
    (cause : lossy ∨ (channel.InTime limits → d.stuck = false → d.Overdue limits)) :
    Troubled lossy channel limits d := by
  apply troubled_of
  refine cause.imp_right fun late inTime healthy => ?_
  have overdue := late inTime healthy.free
  rw [Device.Overdue, if_pos empty] at overdue
  exact absurd healthy.prompt (Nat.not_lt.mpr overdue)

namespace Host

def Outline.reported (o : Outline) (b : Batch) : Outline :=
  if o.observed then { o with batches := b :: o.batches } else o

/-- The outline when pieces have been moved, each with its report. -/
def Outline.moved (o : Outline) (direction : Direction) : List (Addr × Piece) → Outline
  | [] => o
  | (addr, piece) :: rest =>
    (o.reported ⟨direction, piece.kind, addr, piece.bytes, piece.lines⟩).moved direction rest

theorem Outline.limits_moved (o : Outline) (direction : Direction) (done : List (Addr × Piece)) :
    (o.moved direction done).limits = o.limits := by
  induction done generalizing o with
  | nil => rfl
  | cons _ rest ih =>
    rw [moved, ih, reported]
    split <;> rfl

theorem reportBatch_ends {o : Outline} {I : σ → Prop} (b : Batch) :
    Ends (At o I) (report (.batch b)) (fun _ => At (o.reported b) I) (fun _ _ => False) := by
  refine Ends.modify ?_
  intro h after
  obtain ⟨rfl, inside⟩ := after
  by_cases observed : h.observed = true
  · have seen : h.outline.observed = true := observed
    rw [if_pos observed, Outline.reported, if_pos seen]
    exact ⟨rfl, inside⟩
  · have unseen : ¬h.outline.observed = true := observed
    rw [if_neg observed, Outline.reported, if_neg unseen]
    exact ⟨rfl, inside⟩

section Lines

variable {channel : Channel σ} (fronts : channel.Fronts view lossy) {o : Outline}
include fronts

/-- Lines are stored as a whole or not at all. -/
theorem storeLines_ends {addr : Addr} {lines : Nat} {payload : Bytes}
    (valid : Writable addr lines payload) (d : Device) (empty : d.writeFifo = #[]) :
    Ends (At o (view · = d)) (writeLines channel.link addr lines payload)
      (fun _ => At o fun s => d.Becomes (Flat.write d.memory.byteAt addr payload) (view s) ∧
        (view s).Idle)
      (fun _ => At o fun s => d.Torn addr payload (view s) ∧
        Troubled lossy channel o.limits d) := by
  have fits : payload.length ≤ spaceBytes := by
    have inside := valid.inside
    rw [valid.size]
    omega
  refine (writeLines_ends fronts addr lines payload d).weaken (fun _ before => before) ?_ ?_
  · intro _ h after
    exact ⟨after.1, (after.2.2.applied empty).becomes fits, after.2.2.idle⟩
  · intro _ h after
    refine ⟨after.1, ?_, troubled_of_overdue empty (after.2.2 valid)⟩
    exact after.2.1.imp Device.Keeps.becomes fun applied => applied.2.becomes fits

/-- A fragment is replaced as a whole, by one write of its line, or not at all. -/
theorem patchLine_patches {addr : Addr} {data : Bytes}
    (inside : addr.lineOffset + data.length ≤ lineBytes) (d : Device) :
    Ends (At o (view · = d)) (Memory.patchLine channel.link addr data)
      (fun _ => At o fun s => d.Patched addr data (view s) ∧ (view s).Idle)
      (fun _ => At o fun s => (d.Keeps (view s) ∨ d.Patched addr data (view s)) ∧
        Troubled lossy channel o.limits d) := by
  have line := addr.addressable_lineBase
  apply Ends.bind (Ends.onFault (readLines_ends fronts addr.lineBase 1 d)
    fun _ _ after => ⟨after.1, .inl after.2.1, after.2.2 line⟩)
  intro bytes
  apply Ends.bind (now_ends channel.link)
  intro started
  apply Ends.bind (endPhase_ends channel.link .prep started)
  intro _
  apply each_device (R := fun d' => bytes = d.memory.peek addr.lineBase (1 * lineBytes) ∧
    d.ReadOut d')
  intro d₁ after
  obtain ⟨delivered, drained⟩ := after
  have kept := drained.toKeeps
  rw [Nat.one_mul] at delivered
  subst delivered
  have merged : Writable addr.lineBase 1
      (Memory.splice (d.memory.peek addr.lineBase lineBytes) addr.lineOffset data) :=
    ⟨line, Device.length_merged d.memory inside⟩
  refine (writeLines_ends_of_writable fronts merged d₁).weaken (fun _ before => before) ?_ ?_
  · intro _ h after
    exact ⟨after.1, (after.2.applied drained.writeFifo).patched inside kept, after.2.idle⟩
  · intro _ h after
    obtain ⟨outlined, uncertain, cause⟩ := after
    refine ⟨outlined, uncertain.imp (kept.trans ·) (fun applied => applied.2.patched inside kept),
      kept.becomes.troubled (troubled_of_overdue drained.writeFifo cause)⟩

/-- A fragment is replaced as a whole or not at all. -/
theorem patchLine_ends {addr : Addr} {data : Bytes}
    (inside : addr.lineOffset + data.length ≤ lineBytes) (d : Device) :
    Ends (At o (view · = d)) (Memory.patchLine channel.link addr data)
      (fun _ => At o fun s => d.Becomes (Flat.write d.memory.byteAt addr data) (view s) ∧
        (view s).Idle)
      (fun _ => At o fun s => d.Torn addr data (view s) ∧
        Troubled lossy channel o.limits d) :=
  (patchLine_patches fronts inside d).weaken (fun _ before => before)
    (fun _ _ after => ⟨after.1, after.2.1.toBecomes, after.2.2⟩)
    (fun _ _ after => ⟨after.1, after.2.1.imp Device.Keeps.becomes Device.Patched.toBecomes,
      after.2.2⟩)

end Lines

end Host

namespace Memory

/-- A memory with given settings, whose host is in `P`. -/
def Holds (t : TransferSettings) (P : Host σ → Prop) (m : Memory σ) : Prop :=
  m.transfer = t ∧ P m.host

section Rules

variable {t : TransferSettings} {o : Host.Outline} {P : Host σ → Prop} {I : σ → Prop}
  {E : Fault → Memory σ → Prop}

theorem onHost_ends {x : Action (Host σ) α} {Q : α → Host σ → Prop} {E : Fault → Host σ → Prop}
    (h : Ends P x Q E) :
    Ends (Holds t P) (onHost x) (fun a => Holds t (Q a)) (fun e => Holds t (E e)) :=
  Ends.on h (fun _ _ => rfl) (fun _ _ same => same)

theorem settings_ends {f : TransferSettings → Action (Memory σ) α} {Q : α → Memory σ → Prop}
    (h : Ends (Holds t P) (f t) Q E) : Ends (Holds t P) (settings >>= f) Q E := by
  intro m after
  obtain ⟨rfl, inside⟩ := after
  exact h m ⟨rfl, inside⟩

theorem reportPiece_ends (direction : Direction) (addr : Addr) (piece : Piece) :
    Ends (Holds t (Host.At o I)) (reportPiece direction addr piece)
      (fun _ => Holds t (Host.At (o.moved direction [(addr, piece)]) I)) E := by
  have reported := onHost_ends (t := t) (Host.reportBatch_ends (o := o) (I := I)
    ⟨direction, piece.kind, addr, piece.bytes, piece.lines⟩)
  exact reported.onFault fun _ _ no => no.2.elim

theorem each_device {R : Device → Prop} {x : Action (Memory σ) α} {Q : α → Memory σ → Prop}
    (h : ∀ d, R d → Ends (Holds t (Host.At o (view · = d))) x Q E) :
    Ends (Holds t (Host.At o fun s => R (view s))) x Q E :=
  fun m before => h (view m.host.state) before.2.2 m ⟨before.1, before.2.1, rfl⟩

end Rules

section Pieces

variable {channel : Channel σ} (fronts : channel.Fronts view lossy) {t : TransferSettings}
  {o : Host.Outline}
include fronts

theorem readPiece_ends (batch : Nat) (addr : Addr) (len : Nat) (d : Device) :
    Ends (Holds t (Host.At o (view · = d)))
      (readPiece channel.link addr (Piece.first batch addr len))
      (fun data => Holds t (Host.At o fun s =>
        data = Flat.read d.memory.byteAt addr (Piece.first batch addr len).bytes ∧
        d.ReadOut (view s)))
      (fun _ => Holds t (Host.At o fun s => d.Keeps (view s) ∧ (batch ≤ maxBatchLines →
        addr.Spans len → Troubled lossy channel o.limits d))) := by
  have part := Piece.bytes_first_le batch addr len
  have shape := Piece.shape_first batch addr len
  generalize Piece.first batch addr len = piece at part shape
  cases shape with
  | fragment inside =>
    apply Ends.bind (Ends.onFault (onHost_ends (Host.readLines_ends fronts addr.lineBase 1 d)) ?_)
    · intro line
      refine Ends.pure fun m after => ⟨after.1, after.2.1, ?_, after.2.2.2⟩
      have delivered := after.2.2.1
      rw [Nat.one_mul, LineStore.peek_eq_read] at delivered
      rw [delivered]
      exact Flat.read_fragment _ _ inside
    · intro _ m after
      obtain ⟨same, outlined, kept, trouble⟩ := after
      exact ⟨same, outlined, kept, fun _ _ => trouble addr.addressable_lineBase⟩
  | whole aligned positive bounded =>
    refine Ends.onFault (onHost_ends (Host.readLines_ends fronts addr _ d)) ?_
    intro _ m after
    obtain ⟨same, outlined, kept, trouble⟩ := after
    exact ⟨same, outlined, kept, fun fits spans =>
      trouble (Piece.addressable_of_whole aligned positive bounded fits spans part)⟩

theorem writePiece_ends {batch : Nat} {addr : Addr} {len : Nat} (fits : batch ≤ maxBatchLines)
    (spans : addr.Spans len) {data : Bytes}
    (size : data.length = (Piece.first batch addr len).bytes)
    (d : Device) (empty : d.writeFifo = #[]) :
    Ends (Holds t (Host.At o (view · = d)))
      (writePiece channel.link addr (Piece.first batch addr len) data)
      (fun _ => Holds t (Host.At o fun s =>
        d.Becomes (Flat.write d.memory.byteAt addr data) (view s) ∧ (view s).Idle))
      (fun _ => Holds t (Host.At o fun s => d.Torn addr data (view s) ∧
        Troubled lossy channel o.limits d)) := by
  have part := Piece.bytes_first_le batch addr len
  have shape := Piece.shape_first batch addr len
  generalize Piece.first batch addr len = piece at part shape size
  cases shape with
  | fragment inside =>
    exact onHost_ends (Host.patchLine_ends fronts (size ▸ inside) d)
  | whole aligned positive bounded =>
    have valid := Piece.addressable_of_whole aligned positive bounded fits spans part
    have stored := onHost_ends (t := t) (Host.storeLines_ends fronts (o := o) ⟨valid, size⟩ d empty)
    apply settings_ends
    split
    · rw [Host.writeLinesPacked_eq_writeLines]
      exact stored
    · exact stored

/-- A read delivers the range; a failed one has reported the pieces before it. -/
theorem readFrom_ends (batch : Nat) (addr : Addr) (len : Nat) (report : TransferReport)
    (done : List Bytes) (d : Device) :
    Ends (Holds t (Host.At o (view · = d)))
      (readFrom channel.link batch addr len report done)
      (fun result => Holds t (Host.At (o.moved .read (pieces batch addr len)) fun s =>
        result = (done.reverse.flatten ++ Flat.read d.memory.byteAt addr len,
          (pieces batch addr len).foldl (fun r p => r.add p.2) report) ∧
        d.AfterRead len (view s)))
      (fun _ => Holds t fun h => ∃ k, k < (pieces batch addr len).length ∧
        Host.At (o.moved .read ((pieces batch addr len).take k)) (fun s => d.Keeps (view s) ∧
          (batch ≤ maxBatchLines → addr.Spans len →
            Troubled lossy channel o.limits d)) h) := by
  induction addr, len using pieces_induction batch generalizing report done d o with
  | done addr =>
    rw [readFrom, if_pos rfl, pieces_zero]
    refine Ends.pure fun m ⟨same, outlined, there⟩ => ?_
    refine ⟨same, outlined, ?_, ?_⟩
    · simp [Flat.read]
    · rw [there]
      exact .refl d
  | step addr len nonempty ih =>
    have part := Piece.bytes_first_le batch addr len
    have moved := readPiece_ends fronts (t := t) (o := o) batch addr len d
    rw [readFrom, if_neg nonempty, pieces_of_ne_zero batch addr nonempty]
    generalize Piece.first batch addr len = piece at *
    apply Ends.bind (moved.onFault fun _ m after => ⟨after.1, 0, Nat.succ_pos _, after.2⟩)
    intro data
    apply Ends.bind (reportPiece_ends .read addr piece)
    intro _
    apply each_device (R := fun d' => data = Flat.read d.memory.byteAt addr piece.bytes ∧
      d.ReadOut d')
    intro d' after
    obtain ⟨rfl, drained⟩ := after
    have kept := drained.toKeeps
    have later := ih (o := o.moved .read [(addr, piece)]) (report.add piece)
      (Flat.read d.memory.byteAt addr piece.bytes :: done) d'
    rw [o.limits_moved] at later
    apply later.weaken (fun _ before => before)
    · intro _ m after
      obtain ⟨same, outlined, rfl, left⟩ := after
      refine ⟨same, outlined, ?_, drained.afterRead left nonempty⟩
      have whole := Flat.read_append d.memory.byteAt addr piece.bytes (len - piece.bytes)
      rw [Nat.add_sub_cancel' part] at whole
      rw [whole, kept.memory, List.reverse_cons, List.flatten_append, List.flatten_singleton,
        List.append_assoc]
      rfl
    · intro _ m after
      obtain ⟨same, k, inside, outlined, kept₂, trouble⟩ := after
      exact ⟨same, k + 1, Nat.succ_lt_succ inside, outlined, kept.trans kept₂, fun fits spans =>
        kept.becomes.troubled (trouble fits (spans.rest part))⟩

/-- A write stores the range; a failed one has stored the pieces that it reported, and perhaps
one more. -/
theorem writeFrom_ends {batch : Nat} (fits : batch ≤ maxBatchLines) (addr : Addr) (len : Nat)
    (spans : addr.Spans len) {data : Bytes} (size : data.length = len) (report : TransferReport)
    (d : Device) (idle : d.Idle) :
    Ends (Holds t (Host.At o (view · = d)))
      (writeFrom channel.link batch addr len data report)
      (fun result => Holds t (Host.At (o.moved .write (pieces batch addr len)) fun s =>
        result = (pieces batch addr len).foldl (fun r p => r.add p.2) report ∧
        d.Becomes (Flat.write d.memory.byteAt addr data) (view s) ∧ (view s).Idle))
      (fun _ => Holds t fun h => ∃ k i, k < (pieces batch addr len).length ∧ (i = k ∨ i = k + 1) ∧
        Host.At (o.moved .write ((pieces batch addr len).take k)) (fun s =>
          d.Becomes (Flat.write d.memory.byteAt addr
            (data.take (movedBytes ((pieces batch addr len).take i)))) (view s) ∧
          Troubled lossy channel o.limits d) h) := by
  induction addr, len using pieces_induction batch generalizing data report d o with
  | done addr =>
    rw [writeFrom, if_pos rfl, pieces_zero]
    refine Ends.pure fun m ⟨same, outlined, there⟩ => ?_
    refine ⟨same, outlined, rfl, ?_, there ▸ idle⟩
    rw [List.eq_nil_of_length_eq_zero size, Flat.write_nil, there]
    exact (Device.Keeps.refl d).becomes
  | step addr len nonempty ih =>
    have part := Piece.bytes_first_le batch addr len
    have chunk : (data.take (Piece.first batch addr len).bytes).length =
        (Piece.first batch addr len).bytes := List.length_take_of_le (size ▸ part)
    have moved := writePiece_ends fronts (t := t) (o := o) fits spans chunk d
    rw [writeFrom, if_neg nonempty, pieces_of_ne_zero batch addr nonempty]
    generalize Piece.first batch addr len = piece at *
    have stored : ∀ n, Flat.write d.memory.byteAt addr (data.take (piece.bytes + n)) =
        (Flat.write d.memory.byteAt addr (data.take piece.bytes)).write (addr.offset piece.bytes)
          ((data.drop piece.bytes).take n) :=
      fun n => Flat.write_take_add _ addr n (size ▸ part) (size ▸ spans.le_spaceBytes)
    have left : (data.drop piece.bytes).length = len - piece.bytes := by rw [List.length_drop, size]
    apply Ends.bind (Ends.onFault (moved idle.writeFifo) ?_)
    swap
    · intro _ m after
      obtain ⟨same, outlined, torn, trouble⟩ := after
      rcases torn with kept | whole
      · exact ⟨same, 0, 0, Nat.succ_pos _, .inl rfl, outlined, kept, trouble⟩
      · exact ⟨same, 0, 1, Nat.succ_pos _, .inr rfl, outlined, whole, trouble⟩
    intro _
    apply Ends.bind (reportPiece_ends .write addr piece)
    intro _
    apply each_device (R := fun d' =>
      d.Becomes (Flat.write d.memory.byteAt addr (data.take piece.bytes)) d' ∧ d'.Idle)
    intro d' after
    obtain ⟨becomes, idle'⟩ := after
    have later := ih (o := o.moved .write [(addr, piece)]) (spans.rest part) left
      (report.add piece) d' idle'
    rw [o.limits_moved, becomes.memory] at later
    apply later.weaken (fun _ before => before)
    · intro _ m after
      obtain ⟨same, outlined, rfl, becomes₂, idle₂⟩ := after
      refine ⟨same, outlined, rfl, becomes.trans ?_, idle₂⟩
      have whole := stored (len - piece.bytes)
      rw [Nat.add_sub_cancel' part, List.take_of_length_le size.le, 
        List.take_of_length_le left.le] at whole
      exact whole ▸ becomes₂
    · intro _ m after
      obtain ⟨same, k, i, inside, either, outlined, becomes₂, trouble⟩ := after
      refine ⟨same, k + 1, i + 1, Nat.succ_lt_succ inside, by omega, outlined, ?_,
        becomes.troubled trouble⟩
      rw [List.take_succ_cons, movedBytes_cons, stored]
      exact becomes.trans becomes₂

end Pieces

end Memory

end LineBridge

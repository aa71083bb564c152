import Mathlib
import LineBridge.Proofs.Stages

/-! Transactions on a channel that fronts a device, from whatever state the device is in. A
read that succeeds has delivered the memory that was asked for and leaves the device idle. A
write that succeeds has been applied if the write buffer was empty when it began; otherwise the
device refused it, and only a wait left over from an earlier write can have hidden that. -/

namespace LineBridge

open LineBridge.Action (Ends)

variable {σ : Type} {view : σ → Device} {lossy : Prop}

/-- Waits on the device end in time, and its byte counts are right. -/
structure Device.Healthy (d : Device) (limits : PollLimits) : Prop where
  free : d.stuck = false
  straight : d.skew = 0
  prompt : d.latency < limits.reads

/-- All the reasons for which a transaction that the registers can describe may fail. -/
def Troubled (lossy : Prop) (channel : Channel σ) (limits : PollLimits) (d : Device) : Prop :=
  lossy ∨ ¬channel.InTime limits ∨ ¬d.Healthy limits

theorem troubled_of {channel : Channel σ} {limits : PollLimits} {d : Device}
    (h : lossy ∨ (channel.InTime limits → d.Healthy limits → False)) :
    Troubled lossy channel limits d := by
  rcases h with lost | late
  · exact .inl lost
  by_cases inTime : channel.InTime limits
  · exact .inr (.inr (late inTime))
  · exact .inr (.inl inTime)

/-- Where no access is lost, nothing ails a healthy device that is waited for long enough. -/
theorem not_troubled {channel : Channel σ} {limits : PollLimits} {d : Device}
    (inTime : channel.InTime limits) (healthy : d.Healthy limits) :
    ¬Troubled False channel limits d := by
  intro cause
  rcases cause with lost | late | broken
  · exact lost
  · exact late inTime
  · exact broken healthy

/-- What a read that succeeds leaves, and what it needs. -/
structure Device.ReadOut (d d' : Device) : Prop extends Keeps d d', Cleared d' where
  free : d.stuck = false
  straight : d.skew = 0

theorem Device.Keeps.trans_readOut {a b c : Device} (first : a.Keeps b) (last : b.ReadOut c) :
    a.ReadOut c where
  toKeeps := first.trans last.toKeeps
  toCleared := last.toCleared
  free := first.stuck ▸ last.free
  straight := first.skew ▸ last.straight

/-- What a write that is reported done leaves. -/
structure Device.Acknowledged (d : Device) (addr : Addr) (payload : Bytes) (d' : Device) :
    Prop where
  idle : d'.Idle
  applied : d.writeFifo = #[] → d.Applied addr payload d'
  hidden : d.writeFifo ≠ #[] → 0 < d.writeStatusWait ∧ d.Keeps d'

/-- What a write that is not reported done may leave. -/
def Device.Uncertain (d : Device) (addr : Addr) (payload : Bytes) (d' : Device) : Prop :=
  d.Keeps d' ∨ d.writeFifo = #[] ∧ d.Applied addr payload d'

/-- The status of a write that starts now is not seen done in time. -/
def Device.Overdue (d : Device) (limits : PollLimits) : Prop :=
  if d.writeFifo = #[] then limits.reads ≤ d.latency
  else d.writeStatusWait = 0 ∨ limits.reads ≤ d.writeStatusWait

namespace Device.WriteStarted

variable {d d' d₁ : Device} {addr : Addr} {payload : Bytes} (begun : d.WriteStarted addr payload d₁)
include begun

theorem uncertain (later : d₁.Keeps d') : d.Uncertain addr payload d' := by
  by_cases empty : d.writeFifo = #[]
  · exact .inr ⟨empty, (begun.accepted empty).1.trans_keeps later⟩
  · exact .inl ((begun.refused empty).1.trans later)

/-- A refusal marks the status, which then is done only by mistake. -/
theorem acknowledged (ripe : d₁.Ripe Register.writeStatus) (later : d₁.Keeps d') (idle : d'.Idle) :
    d.Acknowledged addr payload d' where
  idle := idle
  applied empty := (begun.accepted empty).1.trans_keeps later
  hidden some := by
    obtain ⟨kept, wait, error⟩ := begun.refused some
    refine ⟨Nat.pos_of_ne_zero fun none => ?_, kept.trans later⟩
    have done := ripe (wait.trans none)
    rw [error] at done
    exact absurd done (by decide)

theorem overdue {limits : PollLimits} (free : d.stuck = false)
    (late : d₁.stuck = false → d₁.Ripe Register.writeStatus →
      limits.reads ≤ d₁.wait Register.writeStatus) : d.Overdue limits := by
  unfold Overdue
  split
  · next empty =>
    obtain ⟨applied, wait, ripe⟩ := begun.accepted empty
    exact wait ▸ late (applied.stuck.trans free) ripe
  · next some =>
    obtain ⟨kept, wait, error⟩ := begun.refused some
    by_cases none : d.writeStatusWait = 0
    · exact .inl none
    · refine .inr (wait ▸ late (kept.stuck.trans free) fun zero => ?_)
      exact absurd (wait.symm.trans zero) none

end Device.WriteStarted

namespace Host

theorem Addressable.readStarted {addr : Addr} {lines : Nat} (valid : Addressable addr lines)
    (d : Device) :
    d.ReadStarted addr (lines * lineBytes)
      ((d.stored (Device.programming addr (UInt16.ofNat (lines - 1)))).afterWrite Register.cmd
        Command.readStart.code) := by
  have started := Device.readStarted
    (d := d.stored (Device.programming addr (UInt16.ofNat (lines - 1))))
  rw [d.address_programming, d.lines_programming, valid.toNat_field] at started
  exact (d.rewritten_stored _).keeps.trans_readStarted (started valid.aligned valid.fits_bulk)

/-- Programs a read and starts it. -/
def startRead (link : Link σ) (addr : Addr) (field : UInt16) : Action (Host σ) Unit := do
  program link addr field
  command link .readStart

/-- Waits until all that was asked for can be drained. -/
def awaitRead (link : Link σ) (addr : Addr) (expected : Nat) : Action (Host σ) Unit := do
  waitDone link Register.status addr
  waitCount link addr expected

theorem readLines_eq (link : Link σ) (addr : Addr) (lines : Nat) :
    readLines link addr lines = (do
      let field ← Action.ofExcept (checkLines addr lines)
      let started ← now link
      startRead link addr field
      awaitRead link addr (lines * lineBytes)
      let data ← bulkRead link (lines * lineBytes)
      endPhase link .read started
      let drained ← now link
      finish link
      endPhase link .ack drained
      pure data) := by
  simp only [readLines, startRead, awaitRead, bind_assoc]

section Reads

variable {channel : Channel σ} (fronts : channel.Fronts view lossy) {o : Outline} {addr : Addr}
  {lines : Nat} (valid : Addressable addr lines)
include fronts valid

theorem startRead_ends (d : Device) :
    Ends (At o (view · = d)) (startRead channel.link addr (UInt16.ofNat (lines - 1)))
      (fun _ => At o fun s => d.ReadStarted addr (lines * lineBytes) (view s))
      (fun _ => At o fun s => lossy ∧ d.Keeps (view s)) := by
  apply Ends.bind (Ends.onFault (program_ends fronts addr _ d)
    fun _ _ after => ⟨after.1, after.2.1, after.2.2.keeps⟩)
  intro _
  refine (command_ends fronts .readStart _).weaken (fun _ before => before) ?_ ?_
  · intro _ h after
    refine ⟨after.1, ?_⟩
    show d.ReadStarted addr (lines * lineBytes) (view h.state)
    rw [show view h.state = _ from after.2]
    exact valid.readStarted d
  · intro _ h after
    exact ⟨after.1, after.2.1, after.2.2 ▸ (d.rewritten_stored _).keeps⟩

/-- A wait that fails on a lossless channel was too short, or the device is not healthy. -/
theorem awaitRead_ends {d d₁ : Device} (begun : d.ReadStarted addr (lines * lineBytes) d₁) :
    Ends (At o (view · = d₁)) (awaitRead channel.link addr (lines * lineBytes))
      (fun _ => At o fun s => d.Keeps (view s) ∧
        (view s).readFifo = d.memory.peek addr (lines * lineBytes) ∧
        d.stuck = false ∧ d.skew = 0)
      (fun _ => At o fun s => d.Keeps (view s) ∧
        (lossy ∨ (channel.InTime o.limits → d.Healthy o.limits → False))) := by
  apply Ends.bind (Ends.onFault (waitDone_ends fronts (.inl rfl) addr d₁) ?_)
  · intro _
    apply each_device (R := fun d₂ => d₁.Watched d₂ ∧ d₁.stuck = false ∧ d₁.Ripe Register.status ∧
      d₂.wait Register.status = 0 ∧ d₂.register Register.status = Status.done.code)
    intro d₂ after
    obtain ⟨watched, free, -, finished, done⟩ := after
    have kept : d.Keeps d₂ := begun.toKeeps.trans watched.keeps
    have buffered : d₂.readFifo = d.memory.peek addr (lines * lineBytes) :=
      watched.readFifo.trans begun.readFifo
    have full : d₂.readFifo.length = lines * lineBytes := by
      rw [buffered, LineStore.length_peek]
    have straight_iff := Device.reportedCount_eq_length_iff finished done
      (full ▸ valid.bytes_pos) (full ▸ valid.lt_bulk)
    rw [full] at straight_iff
    refine (waitCount_ends fronts addr valid.bytes_pos (Nat.lt_succ_of_le valid.fits_bulk)
      d₂).weaken (fun _ before => before) ?_ ?_
    · intro _ h after
      obtain ⟨outlined, ⟨reads, counted⟩, right⟩ := after
      exact ⟨outlined, kept.trans counted.keeps, counted.readFifo.trans buffered,
        begun.stuck.symm.trans free, kept.skew.symm.trans (straight_iff.mp right)⟩
    · intro _ h after
      obtain ⟨outlined, ⟨reads, counted⟩, cause⟩ := after
      refine ⟨outlined, kept.trans counted.keeps, cause.imp_right fun late inTime healthy => ?_⟩
      -- a healthy device reports the right count, so the wait must have been too short for it
      have right := straight_iff.mpr (kept.skew.trans healthy.straight)
      have spent := late inTime right
      rw [watched.countWait, begun.countWait] at spent
      exact absurd healthy.prompt (Nat.not_lt.mpr spent)
  · intro _ h after
    obtain ⟨outlined, watched, cause⟩ := after
    refine ⟨outlined, begun.toKeeps.trans watched.keeps,
      cause.imp_right fun late inTime healthy => ?_⟩
    have spent := late inTime (begun.stuck.trans healthy.free) begun.ripe
    rw [begun.statusWait] at spent
    exact absurd healthy.prompt (Nat.not_lt.mpr spent)

theorem readLines_ends_of_addressable (d : Device) :
    Ends (At o (view · = d)) (readLines channel.link addr lines)
      (fun data => At o fun s => data = d.memory.peek addr (lines * lineBytes) ∧
        d.ReadOut (view s))
      (fun _ => At o fun s => d.Keeps (view s) ∧
        (lossy ∨ (channel.InTime o.limits → d.Healthy o.limits → False))) := by
  rw [readLines_eq, valid.checked]
  apply Ends.ofExcept_ok
  apply Ends.bind (now_ends channel.link)
  intro started
  apply Ends.bind (Ends.onFault (startRead_ends fronts valid d)
    fun _ _ after => ⟨after.1, after.2.2, .inl after.2.1⟩)
  intro _
  apply each_device (R := fun d₁ => d.ReadStarted addr (lines * lineBytes) d₁)
  intro d₁ begun
  apply Ends.bind (awaitRead_ends fronts valid begun)
  intro _
  apply each_device (R := fun d₂ => d.Keeps d₂ ∧
    d₂.readFifo = d.memory.peek addr (lines * lineBytes) ∧ d.stuck = false ∧ d.skew = 0)
  intro d₂ after
  obtain ⟨kept, buffered, free, straight⟩ := after
  have full : d₂.readFifo.length = lines * lineBytes := by
    rw [buffered, LineStore.length_peek]
  apply Ends.bind (Ends.onFault (bulkRead_ends fronts valid.bytes_pos valid.fits_bulk d₂ full)
    fun _ _ after => ⟨after.1, kept.trans after.2.2, .inl after.2.1⟩)
  intro data
  apply Ends.bind (endPhase_ends channel.link .read started)
  intro _
  apply Ends.bind (now_ends channel.link)
  intro drained
  apply each_device (R := fun d₃ => data = d₂.readFifo ∧ d₂.Keeps d₃)
  intro d₃ after
  obtain ⟨delivered, later⟩ := after
  apply Ends.bind (Ends.onFault (finish_ends fronts d₃)
    fun _ _ after => ⟨after.1, (kept.trans later).trans after.2.2, .inl after.2.1⟩)
  intro _
  apply Ends.bind (endPhase_ends channel.link .ack drained)
  intro _
  refine Ends.pure fun h after => ⟨after.1, ?_, (kept.trans later).trans after.2.1, after.2.2,
    free, straight⟩
  rw [delivered, buffered]

omit valid

/-- A read of lines delivers memory, or fails for one of the known reasons. -/
theorem readLines_ends (addr : Addr) (lines : Nat) (d : Device) :
    Ends (At o (view · = d)) (readLines channel.link addr lines)
      (fun data => At o fun s => data = d.memory.peek addr (lines * lineBytes) ∧
        d.ReadOut (view s))
      (fun _ => At o fun s => d.Keeps (view s) ∧
        (Addressable addr lines → Troubled lossy channel o.limits d)) := by
  by_cases valid : Addressable addr lines
  · exact (readLines_ends_of_addressable fronts valid d).onFault
      fun _ h after => ⟨after.1, after.2.1, fun _ => troubled_of after.2.2⟩
  · apply Ends.bind (Q := fun _ _ => False)
    · refine Ends.ofExcept
        (fun field checked => absurd (checkLines_eq_ok_iff.mp checked).1 valid) ?_
      intro _ _ h after
      obtain ⟨outlined, same⟩ := after
      exact ⟨outlined, same ▸ .refl _, fun v => absurd v valid⟩
    · exact fun _ _ no => no.elim

end Reads

/-- The registers can describe the transfer of this payload. -/
structure Writable (addr : Addr) (lines : Nat) (payload : Bytes) : Prop
    extends Addressable addr lines where
  size : payload.length = lines * lineBytes

theorem Writable.writeStarted {addr : Addr} {lines : Nat} {payload : Bytes}
    (valid : Writable addr lines payload) (d : Device) :
    d.WriteStarted addr payload
      (((d.stored (Device.programming addr (UInt16.ofNat (lines - 1)))).streamed payload).afterWrite
        Register.cmd Command.writeStart.code) := by
  have started := @Device.writeStarted
    (d.stored (Device.programming addr (UInt16.ofNat (lines - 1)))) payload
  rw [d.address_programming, d.lines_programming, valid.toNat_field] at started
  exact (d.rewritten_stored _).trans_writeStarted (started valid.aligned valid.size)

/-- Programs a write, streams its payload and starts it. -/
def startWrite (link : Link σ) (addr : Addr) (field : UInt16) (payload : Bytes) :
    Action (Host σ) Unit := do
  program link addr field
  bulkWrite link payload
  command link .writeStart

theorem writeLines_eq (link : Link σ) (addr : Addr) (lines : Nat) (payload : Bytes) :
    writeLines link addr lines payload = (do
      let field ← Action.ofExcept (checkLines addr lines)
      Action.ofExcept (checkPayload addr lines payload)
      let started ← now link
      startWrite link addr field payload
      endPhase link .write started
      completeWrite link addr) := by
  simp only [writeLines, startWrite, bind_assoc]

section Writes

variable {channel : Channel σ} (fronts : channel.Fronts view lossy) {o : Outline}
include fronts

theorem startWrite_ends {addr : Addr} {lines : Nat} {payload : Bytes}
    (valid : Writable addr lines payload) (d : Device) :
    Ends (At o (view · = d))
      (startWrite channel.link addr (UInt16.ofNat (lines - 1)) payload)
      (fun _ => At o fun s => d.WriteStarted addr payload (view s))
      (fun _ => At o fun s => lossy ∧ d.Keeps (view s)) := by
  have begun := valid.writeStarted d
  have kept := (d.rewritten_stored (Device.programming addr (UInt16.ofNat (lines - 1)))).keeps
  apply Ends.bind (Ends.onFault (program_ends fronts addr _ d)
    fun _ _ after => ⟨after.1, after.2.1, after.2.2.keeps⟩)
  intro _
  generalize d.stored _ = d₁ at begun kept
  apply Ends.bind (Ends.onFault (bulkWrite_ends fronts (valid.size ▸ valid.bytes_pos)
    (valid.size ▸ valid.fits_bulk) d₁)
    fun _ _ after => ⟨after.1, after.2.1, kept.trans after.2.2⟩)
  intro _
  refine (command_ends fronts .writeStart _).weaken (fun _ before => before) ?_ ?_
  · intro _ h after
    refine ⟨after.1, ?_⟩
    show d.WriteStarted addr payload (view h.state)
    rw [show view h.state = _ from after.2]
    exact begun
  · intro _ h after
    exact ⟨after.1, after.2.1, after.2.2 ▸ kept.trans (d₁.keeps_streamed payload)⟩

theorem completeWrite_ends {addr : Addr} {payload : Bytes} {d d₁ : Device}
    (begun : d.WriteStarted addr payload d₁) :
    Ends (At o (view · = d₁)) (completeWrite channel.link addr)
      (fun _ => At o fun s => d.Acknowledged addr payload (view s))
      (fun _ => At o fun s => d.Uncertain addr payload (view s) ∧
        (lossy ∨ (channel.InTime o.limits → d.stuck = false → d.Overdue o.limits))) := by
  have unsettled : ∀ {d' : Device}, d₁.Keeps d' → d.Uncertain addr payload d' := begun.uncertain
  apply Ends.bind (now_ends channel.link)
  intro issued
  apply Ends.bind (Ends.onFault (waitDone_ends fronts (.inr rfl) addr d₁) ?_)
  · intro _
    apply each_device (R := fun d₂ => d₁.Watched d₂ ∧ d₁.stuck = false ∧
      d₁.Ripe Register.writeStatus ∧ d₂.wait Register.writeStatus = 0 ∧
      d₂.register Register.writeStatus = Status.done.code)
    intro d₂ after
    obtain ⟨watched, -, ripe, -, -⟩ := after
    apply Ends.bind (Ends.onFault (finish_ends fronts d₂)
      fun _ _ after => ⟨after.1, unsettled (watched.keeps.trans after.2.2), .inl after.2.1⟩)
    intro _
    refine Ends.onValue (endPhase_ends channel.link .ack issued) fun _ h after => ?_
    exact ⟨after.1, begun.acknowledged ripe (watched.keeps.trans after.2.1) after.2.2.toIdle⟩
  · intro _ h after
    obtain ⟨outlined, watched, cause⟩ := after
    refine ⟨outlined, unsettled watched.keeps, cause.imp_right fun late inTime free => ?_⟩
    exact begun.overdue free (late inTime)

theorem writeLines_ends_of_writable {addr : Addr} {lines : Nat} {payload : Bytes}
    (valid : Writable addr lines payload) (d : Device) :
    Ends (At o (view · = d)) (writeLines channel.link addr lines payload)
      (fun _ => At o fun s => d.Acknowledged addr payload (view s))
      (fun _ => At o fun s => d.Uncertain addr payload (view s) ∧
        (lossy ∨ (channel.InTime o.limits → d.stuck = false → d.Overdue o.limits))) := by
  have declared : checkPayload addr lines payload = .ok () := if_pos valid.size.symm
  rw [writeLines_eq, valid.checked, declared]
  apply Ends.ofExcept_ok
  apply Ends.ofExcept_ok
  apply Ends.bind (now_ends channel.link)
  intro started
  apply Ends.bind (Ends.onFault (startWrite_ends fronts valid d)
    fun _ _ after => ⟨after.1, .inl after.2.2, .inl after.2.1⟩)
  intro _
  apply each_device (R := fun d₁ => d.WriteStarted addr payload d₁)
  intro d₁ begun
  apply Ends.bind (endPhase_ends channel.link .write started)
  intro _
  exact completeWrite_ends fronts begun

/-- A write of lines is applied, or it fails and may have been applied; only a write that found
bytes in the buffer can be reported done without being applied. -/
theorem writeLines_ends (addr : Addr) (lines : Nat) (payload : Bytes) (d : Device) :
    Ends (At o (view · = d)) (writeLines channel.link addr lines payload)
      (fun _ => At o fun s => Writable addr lines payload ∧ d.Acknowledged addr payload (view s))
      (fun _ => At o fun s => d.Uncertain addr payload (view s) ∧ (Writable addr lines payload →
        lossy ∨ (channel.InTime o.limits → d.stuck = false → d.Overdue o.limits))) := by
  by_cases valid : Writable addr lines payload
  · exact (writeLines_ends_of_writable fronts valid d).weaken (fun _ before => before)
      (fun _ _ after => ⟨after.1, valid, after.2⟩)
      (fun _ _ after => ⟨after.1, after.2.1, fun _ => after.2.2⟩)
  have refused : ∀ {h : Host σ}, At o (view · = d) h →
      At o (fun s => d.Uncertain addr payload (view s) ∧ (Writable addr lines payload → lossy ∨
        (channel.InTime o.limits → d.stuck = false → d.Overdue o.limits))) h :=
    fun before => ⟨before.1, before.2 ▸ .inl (.refl _), fun v => absurd v valid⟩
  apply Ends.bind (Q := fun _ h => Addressable addr lines ∧ At o (view · = d) h)
  · exact Ends.ofExcept
      (fun field checked h before => ⟨(checkLines_eq_ok_iff.mp checked).1, before⟩)
      fun _ _ h before => refused before
  intro field
  apply Ends.bind (Q := fun _ _ => False)
  · refine Ends.ofExcept (fun _ declared h before => ?_) fun _ _ h before => refused before.2
    exact valid ⟨before.1, (checkPayload_eq_ok_iff.mp declared).symm⟩
  · exact fun _ _ no => no.elim

end Writes

end Host

/-- The accesses that issue a write of lines, one after another. -/
def Link.issueEach (link : Link σ) (addr : Addr) (field : UInt16) (payload : Bytes) :
    Action σ Unit := do
  link.toChannel.writeEach (Channel.addressWrites addr)
  link.writePair Register.lenLo field
  link.writePair Register.bulkLenLo (UInt16.ofNat payload.length)
  link.writeBulk payload
  link.writeRegister Register.cmd Command.writeStart.code

/-- The link that issues packed writes access by access. -/
def Link.unpacked (link : Link σ) : Link σ := { link with packedWrite := link.issueEach }

namespace Host

/-- A write that goes step by step is one whose accesses are issued one after another. -/
theorem writeLines_eq_unpacked (link : Link σ) (addr : Addr) (lines : Nat) (payload : Bytes) :
    writeLines link addr lines payload = writeLinesPacked link.unpacked addr lines payload := by
  unfold writeLinesPacked writeLines
  cases checked : checkLines addr lines with
  | error e => rfl
  | ok field =>
    cases declared : checkPayload addr lines payload with
    | error e => rfl
    | ok =>
      have valid := (checkLines_eq_ok_iff.mp checked).1
      have size := checkPayload_eq_ok_iff.mp declared
      have fits : checkBulk payload.length = .ok (UInt16.ofNat payload.length) :=
        checkBulk_eq_ok_iff.mpr ⟨size ▸ valid.fits_bulk, rfl⟩
      have some : ¬payload.isEmpty = true := by
        rw [List.isEmpty_iff_length_eq_zero, ← size]
        exact Nat.ne_of_gt valid.bytes_pos
      have issued : link.unpacked.packedWrite = link.issueEach := rfl
      simp only [program, bulkWrite, command, fits, if_neg some, issued, Link.issueEach,
        onLink_bind, bind_assoc, Action.ofExcept, pure_bind]
      rfl

/-- Over a channel, a packed write makes the accesses of the write that goes step by step. -/
theorem writeLinesPacked_eq_writeLines (channel : Channel σ) (addr : Addr) (lines : Nat)
    (payload : Bytes) :
    writeLinesPacked channel.link addr lines payload =
      writeLines channel.link addr lines payload :=
  (writeLines_eq_unpacked channel.link addr lines payload).symm

end Host

end LineBridge

import Mathlib
import LineBridge.Proofs.AnsweredCommands
import LineBridge.Proofs.Exchange

/-! What goes out first. A byte that has been sent is never taken back, whatever comes later, so
that a transfer can be told by the command that it opens with. -/

namespace LineBridge

open LineBridge.Action (Ends Preserves)

variable {σ α : Type} {I : σ → Prop}

/-- Nothing goes over the link before a valid write of lines is issued. -/
theorem Link.Steady.writeWhole_ends {link : Link σ} (steady : link.Steady I (fun _ => I))
    {P : σ → Prop} {packed : Bool} {addr : Addr} {lines : Nat} {payload : Bytes}
    (valid : Host.Writable addr lines payload)
    (issued : Ends P (link.issue packed addr (UInt16.ofNat (lines - 1)) payload) (fun _ => I)
      (fun _ => I)) :
    Ends (fun h => P h.state) (Host.writeWhole link packed addr lines payload)
      (fun _ h => I h.state) (fun _ h => I h.state) := by
  have declared : Host.checkPayload addr lines payload = .ok () := if_pos valid.size.symm
  have onLink : Ends (fun h => P h.state)
      (Host.onLink (link.issue packed addr (UInt16.ofNat (lines - 1)) payload))
      (fun _ h => I h.state) (fun _ h => I h.state) := Ends.part issued fun _ _ => rfl
  rw [Host.writeWhole_eq, Host.writeLinesPacked, valid.checked, declared]
  apply Ends.ofExcept_ok
  apply Ends.ofExcept_ok
  have read : Ends (fun h => P h.state) (Host.now link) (fun _ h => P h.state)
      (fun _ h => I h.state) := fun _ facing => facing
  apply read.bind
  intro started
  apply Ends.bind (Host.setInFlight_keeps (some addr))
  intro _
  apply onLink.bind
  intro _
  exact steady.accesses.host.bind (steady.accesses.endPhase .write started)
    fun _ => steady.accesses.completeWrite addr

/-- Whatever a stream is used for, and whether that fails, it leaves its state in `I`. -/
structure ByteStream.Keeps (stream : ByteStream σ) (I : σ → Prop) : Prop where
  write : ∀ bytes, Preserves I (fun _ => I) (stream.write bytes)
  flush : Preserves I (fun _ => I) stream.flush
  read : ∀ count, Preserves I (fun _ => I) (stream.read count)

namespace ByteStream.Keeps

variable {stream : ByteStream σ} (keeps : stream.Keeps I)
include keeps

theorem send (bytes : Bytes) : Preserves I (fun _ => I) (stream.send bytes) := by
  rw [ByteStream.send]
  split
  · exact keeps.flush
  · exact (keeps.write bytes).bind fun _ => keeps.flush

theorem collectFrom (count : Nat) (got : Array UInt8) :
    Preserves I (fun _ => I) (stream.collectFrom count got) := by
  fun_induction ByteStream.collectFrom stream count got with
  | case1 got short ih =>
    apply (keeps.read _).bind
    intro more
    split
    · exact .pure _
    · next some => exact ih more some
  | case2 got whole => exact .pure _

theorem receive (count : Nat) : Preserves I (fun _ => I) (stream.receive count) := by
  apply (keeps.collectFrom count #[]).bind
  intro got
  split
  · exact Ends.fail fun _ inside => inside
  · exact .pure _

theorem nextReply : Preserves I (fun _ => I) (Remote.nextReply stream) :=
  (keeps.receive _).bind fun _ => .pure _

theorem request (h : Remote.CommandHeader) (payload : Bytes) :
    Preserves I (fun _ => I) (Remote.request stream h payload) := by
  apply ((keeps.send _).bind fun _ => keeps.nextReply).bind
  intro reply
  split
  · exact .pure _
  · exact Ends.fail fun _ inside => inside

theorem request_then (h : Remote.CommandHeader) (payload : Bytes) (g : UInt64 → α) :
    Preserves I (fun _ => I)
      (Remote.request stream h payload >>= fun data => Pure.pure (g data)) :=
  (keeps.request h payload).bind fun _ => .pure _

theorem writeBulkFrames (frames : List Bytes) :
    Preserves I (fun _ => I) (Remote.writeBulkFrames stream frames) := by
  induction frames with
  | nil => exact .pure ()
  | cons frame rest ih => exact (keeps.request _ _).bind fun _ => ih

theorem readBulkFrames {size : Nat} (positive : 0 < size) (left : Nat) (done : List Bytes) :
    Preserves I (fun _ => I) (Remote.readBulkFrames stream size positive left done) := by
  fun_induction Remote.readBulkFrames stream size positive left done with
  | case1 done => exact .pure _
  | case2 left done some want ih =>
    apply (keeps.request _ _).bind
    intro delivered
    split
    · exact Ends.fail fun _ inside => inside
    · next granted => exact (keeps.receive _).bind (ih delivered granted)

/-- What a stream keeps, the link over it keeps. -/
theorem steady {clock : Clock σ} (pause : ∀ length s, I s → I (clock.pause length s))
    (frame : Nat) : (Remote.link stream clock frame).Steady I (fun _ => I) where
  writeRegister _ _ := keeps.request_then _ _ _
  writeBulk _ _ := keeps.writeBulkFrames _
  readBulk _ _ := keeps.readBulkFrames _ _ _
  idleClock _ := keeps.request_then _ _ _
  writePair _ _ := keeps.request_then _ _ _
  readPair _ := keeps.request_then _ _ _
  pollRegister _ _ _ := ((keeps.send _).bind fun _ => keeps.nextReply).bind fun _ => .pure _
  packedWrite _ _ _ _ := keeps.request_then _ _ _
  pause := pause
  own _ _ inside := inside

end ByteStream.Keeps

namespace Metered

/-- What has been sent goes on, after what had been sent before, with this byte. -/
def Opens (before : Bytes) (code : UInt8) (m : Metered σ) : Prop :=
  ∃ more, m.meter.sentBytes = before ++ code :: more

variable {before : Bytes} {code : UInt8}

theorem Opens.count (sent : Bytes) {f : Bench.Meter → Bench.Meter}
    (grows : ∀ meter : Bench.Meter, (f meter).sentBytes = meter.sentBytes ++ sent) :
    Preserves (Opens before code) (fun _ => Opens before code)
      (Metered.count f : Action (Metered σ) Unit) := by
  apply Ends.modify
  rintro m ⟨more, opened⟩
  refine ⟨more ++ sent, ?_⟩
  show (f m.meter).sentBytes = _
  rw [grows, opened, List.append_assoc, List.cons_append]

theorem Opens.onInner (x : Action σ α) :
    Preserves (Opens before code) (fun _ => Opens before code) (Metered.onInner x) := by
  have ending : Ends (fun m => Opens before code m ∧ True) (Metered.onInner x)
      (fun _ m => Opens before code m ∧ True) (fun _ m => Opens before code m ∧ True) :=
    Ends.on (P := fun _ => True) (J := Opens before code) (Ends.trivial x) (fun _ _ => rfl)
      fun _ _ opened => opened
  exact ending.weaken (fun _ opened => ⟨opened, trivial⟩) (fun _ _ after => after.1)
    fun _ _ after => after.1

theorem keeps_opens (stream : ByteStream σ) : stream.metered.Keeps (Opens before code) where
  write bytes := by
    apply (Opens.onInner _).bind
    intro _
    refine Opens.count bytes fun meter => ?_
    simp [Bench.Meter.addSent, Bench.Meter.sentBytes]
  flush := by
    apply (Opens.onInner _).bind
    intro _
    refine Opens.count [] fun meter => ?_
    simp [Bench.Meter.addFlush, Bench.Meter.sentBytes]
  read count := by
    apply (Opens.onInner _).bind
    intro bytes
    have taken : Preserves (Opens before code) (fun _ => Opens before code)
        (Metered.count (·.addTaken bytes) : Action (Metered σ) Unit) := by
      refine Opens.count [] fun meter => ?_
      simp [Bench.Meter.addTaken, Bench.Meter.sentBytes]
    exact taken.bind fun _ => .pure _

end Metered

section Openings

open LineBridge.Metered (Opens)

variable {τ : Type} {stream : ByteStream σ} {peer : Channel τ} {connected : σ → τ → Bytes → Prop}
  (lossless : stream.Lossless peer connected) {before : Bytes}

/-- A stream that is connected to a bridge and has sent nothing but this. -/
def Metered.Facing (connected : σ → τ → Bytes → Prop) (before : Bytes) (m : Metered σ) :
    Prop := m.meter.sentBytes = before ∧ ∃ t, connected m.inner t []

include lossless

/-- What is served has been sent. -/
theorem ByteStream.Lossless.send_opens (f : Remote.Frame) :
    Ends (Metered.Facing connected before) (stream.metered.send f.bytes)
      (fun _ => Opens before f.header.op.code) (fun _ => Opens before f.header.op.code) := by
  obtain ⟨rest, bytes⟩ : ∃ rest, f.bytes = f.header.op.code :: rest := ⟨_, rfl⟩
  have written : Ends (Metered.Facing connected before)
      (stream.metered.write (f.header.op.code :: rest))
      (fun _ => Opens before f.header.op.code) (fun _ => Opens before f.header.op.code) := by
    rintro m ⟨sent, t, quiet⟩
    have ending := lossless.send f t m.inner quiet
    rw [bytes] at ending
    cases ran : (stream.write (f.header.op.code :: rest)).run m.inner with
    | mk outcome s =>
      cases outcome with
      | error e =>
        have broken : (stream.send (f.header.op.code :: rest)).run m.inner = (.error e, s) :=
          Action.run_bind_error ran
        rw [broken] at ending
        exact ending.elim
      | ok u =>
        have noted : (stream.metered.write (f.header.op.code :: rest)).run m =
            (.ok (), ⟨s, m.meter.addSent (f.header.op.code :: rest)⟩) := by
          have inner : (Metered.onInner (stream.write (f.header.op.code :: rest))).run m =
              (.ok u, { m with inner := s }) := by
            rw [Metered.onInner, Action.run_on, ran]
          exact Action.run_bind_ok inner
        rw [noted]
        refine ⟨rest, ?_⟩
        simp [Bench.Meter.addSent, Bench.Meter.sentBytes, ← sent]
  rw [bytes]
  exact written.bind fun _ => (Metered.keeps_opens stream).flush

/-- Whatever comes back, the first command has gone out. -/
theorem ByteStream.Lossless.request_opens (f : Remote.Frame) (g : UInt64 → α) :
    Ends (Metered.Facing connected before)
      (Remote.request stream.metered f.header f.payload >>= fun data => Pure.pure (g data))
      (fun _ => Opens before f.header.op.code) (fun _ => Opens before f.header.op.code) := by
  have sent : Ends (Metered.Facing connected before)
      (Remote.sendCommand stream.metered f.header f.payload)
      (fun _ => Opens before f.header.op.code) (fun _ => Opens before f.header.op.code) :=
    lossless.send_opens f
  have answered : Ends (Metered.Facing connected before)
      (Remote.request stream.metered f.header f.payload)
      (fun _ => Opens before f.header.op.code) (fun _ => Opens before f.header.op.code) := by
    apply Ends.bind (sent.bind fun _ => (Metered.keeps_opens stream).nextReply)
    intro reply
    split
    · exact Ends.pure fun _ opened => opened
    · exact Ends.fail fun _ opened => opened
  exact answered.bind fun _ => Ends.pure fun _ opened => opened

/-- How a write of lines goes out: as one command, or register by register. -/
def Remote.openingOf (packed : Bool) : Remote.Operation :=
  if packed then .packedWrite else .writeRegister

theorem ByteStream.Lossless.issue_opens {clock : Clock σ} {frame : Nat} (packed : Bool)
    (addr : Addr) (field : UInt16) {payload : Bytes} (fits : payload.length ≤ maxBulkBytes) :
    Ends (Metered.Facing connected before)
      ((Remote.link stream.metered clock.metered frame).issue packed addr field payload)
      (fun _ => Opens before (Remote.openingOf packed).code)
      (fun _ => Opens before (Remote.openingOf packed).code) := by
  cases packed with
  | true =>
    exact lossless.request_opens
      (.carrying .packedWrite rfl addr.val field.toUInt64 payload fits) fun _ => ()
  | false =>
    obtain ⟨reg, value, others, writes⟩ : ∃ reg value others,
        Channel.addressWrites addr = (reg, value) :: others := ⟨_, _, _, rfl⟩
    have steady : (Remote.link stream.metered clock.metered frame).Steady
        (Opens before Remote.Operation.writeRegister.code)
        (fun _ => Opens before Remote.Operation.writeRegister.code) :=
      (Metered.keeps_opens stream).steady (fun _ _ opened => opened) frame
    have addressed : Ends (Metered.Facing connected before)
        ((Remote.link stream.metered clock.metered frame).toChannel.writeEach
          (Channel.addressWrites addr))
        (fun _ => Opens before Remote.Operation.writeRegister.code)
        (fun _ => Opens before Remote.Operation.writeRegister.code) := by
      rw [writes]
      let f := Remote.Frame.bare ⟨.writeRegister, reg.toUInt32, value.toUInt64, 0⟩ rfl
      apply (lossless.request_opens f fun _ => ()).bind
      intro _
      exact Channel.writeEach_preserves steady.writeRegister others
    apply addressed.bind
    intro _
    apply (steady.writePair _ field).bind
    intro _
    apply (steady.writePair _ _).bind
    intro _
    exact (steady.writeBulk payload fits).bind fun _ => steady.writeRegister _ _

/-- The bytes that a valid write of lines sends begin with the operation that it opens with. -/
theorem ByteStream.Lossless.writeWhole_opens (clock : Clock σ) (frame : Nat) (packed : Bool)
    {addr : Addr} {lines : Nat} {payload : Bytes} (valid : Host.Writable addr lines payload) :
    Ends (fun h => Metered.Facing connected before h.state)
      (Host.writeWhole (Remote.link stream.metered clock.metered frame) packed addr lines payload)
      (fun _ h => Opens before (Remote.openingOf packed).code h.state)
      (fun _ h => Opens before (Remote.openingOf packed).code h.state) :=
  ((Metered.keeps_opens stream).steady (fun _ _ opened => opened) frame).writeWhole_ends valid
    (lossless.issue_opens packed addr _ (valid.size ▸ valid.fits_bulk))

end Openings

end LineBridge

import Mathlib
import LineBridge.Bench.Probe
import LineBridge.Proofs.MirroredCalls
import LineBridge.Proofs.OpeningCommands
import LineBridge.Proofs.Pipes

/-! A write of lines that the link issues as a whole, and one that the host issues access by
access. On a channel they are the same accesses; on a stream they are different bytes, and do the
same to the device behind it. -/

namespace LineBridge

open LineBridge.Action (Agree Follows)

variable {σ τ υ α : Type}

/-- The same settings, for writing whole lines in one way or the other. -/
def TransferSettings.repacked (packed : Bool) (t : TransferSettings) : TransferSettings :=
  { t with packedWrites := packed }

theorem TransferSettings.sameCut_repacked (packed : Bool) (t : TransferSettings) :
    t.SameCut (t.repacked packed) := ⟨rfl, rfl, rfl⟩

/-- The same driver, which writes whole lines in one way or the other. -/
def Loader.withPacked (l : Loader σ) (packed : Bool) : Loader σ := l.tuned (.repacked packed)

section Channels

variable (channel : Channel σ) (packed : Bool)

/-- Drivers on the same channel that differ in how they write whole lines, and in nothing else. -/
def Channel.repacking : DriverRelation .exact channel.link channel.link where
  host := .follows Eq
  memory := .follows fun m n => n = m.tuned (.repacked packed)
  loader := .follows fun l k => k = l.withPacked packed
  onHost h := by
    refine Agree.on h ?_ ?_ ?_
    · rintro m _ rfl
      rfl
    · rintro _ m _ s _ rfl rfl
      rfl
    · rintro m _ s _ rfl rfl
      rfl
  onMemory h := by
    refine Agree.on h ?_ ?_ ?_
    · rintro l _ rfl
      rfl
    · rintro _ l _ m _ rfl rfl
      rfl
    · rintro l _ m _ rfl rfl
      rfl
  hostNow := .of_rel (.refl _)
  memoryNow := .of_rel fun m _ same => ⟨_, m, _, rfl, same ▸ rfl, same⟩
  loaderNow := .of_rel fun l _ same => ⟨_, l, _, rfl, same ▸ rfl, same⟩
  report same := Timing.eq_of_exact same ▸ .refl _
  readLines _ _ := .refl _
  writeWhole packed packed' addr lines payload :=
    (Host.writeWhole_unpacked channel.link rfl packed packed' addr lines payload).symm ▸ .refl _
  settings next := by
    rintro m _ rfl
    exact next m.transfer _ (m.transfer.sameCut_repacked packed) m _ rfl
  control next := by
    rintro l _ rfl
    exact next l.control l.entry l _ rfl
  setEntry entry := by
    refine Agree.modify ?_
    rintro l _ rfl
    rfl

/-- The outcomes of a run do not depend on how whole lines are written, and what it leaves behind
differs in the setting alone. -/
theorem Channel.runEach_withPacked (uses : List DriverUse) (l : Loader σ) :
    let (outcomes, last) := Action.runEach (DriverUse.perform channel.link) uses l
    Action.runEach (DriverUse.perform channel.link) uses (l.withPacked packed) =
      (outcomes, last.withPacked packed) := by
  have step : ∀ use ∈ uses, Follows (fun l k : Loader σ => k = l.withPacked packed)
      (use.perform channel.link) (use.perform channel.link) := fun use _ =>
    (channel.repacking packed).driverUse_exact use (.refl _) (fun _ => .refl _) (fun _ => .refl _)
      (fun _ _ => .refl _) fun _ _ _ => .refl _
  obtain ⟨same, ended⟩ := Agree.runEach step rfl
  exact Prod.ext same.symm ended

end Channels

/-- Two streams in front of the same device, with nothing left to read. -/
def Twins (view : τ → Device) (connected : σ → τ → Bytes → Prop) (s t : σ) : Prop :=
  ∃ d, Quiet view connected s d ∧ Quiet view connected t d

section Streams

variable {stream : ByteStream σ} {peer : Channel τ} {connected : σ → τ → Bytes → Prop}
  (lossless : stream.Lossless peer connected)

include lossless in
/-- What is sent begins with another operation. -/
theorem ByteStream.Lossless.traffic_differs {clock : Clock σ} (frame : Nat)
    {h : Host (Metered σ)} {t : τ} (facing : connected h.state.inner t []) {addr : Addr}
    {lines : Nat} {payload : Bytes} (valid : Host.Writable addr lines payload) :
    let link := Remote.link stream.metered clock.metered frame
    ((Host.writeLinesPacked link addr lines payload).run h).2.state.meter.sentBytes ≠
      ((Host.writeLines link addr lines payload).run h).2.state.meter.sentBytes := by
  intro link
  have opens (packed : Bool) : Metered.Opens h.state.meter.sentBytes
      (Remote.openingOf packed).code
      ((Host.writeWhole link packed addr lines payload).run h).2.state := by
    have ending := lossless.writeWhole_opens clock frame packed valid h ⟨rfl, t, facing⟩
    cases run : (Host.writeWhole link packed addr lines payload).run h with
    | mk outcome k =>
      rw [run] at ending
      cases outcome with
      | ok _ => exact ending
      | error _ => exact ending
  obtain ⟨more, packed⟩ := opens true
  obtain ⟨more', stepwise⟩ := opens false
  intro same
  have sent := packed.symm.trans (same.trans stepwise)
  have codes := (List.cons.inj (List.append_cancel_left sent)).1
  revert codes
  decide

variable {view : τ → Device} (fronts : peer.Fronts view False) {clock : Clock σ} {frame : Nat}
include lossless fronts

/-- Over a stream without loss, both ways end alike, in front of the same device. -/
theorem ByteStream.Lossless.writes_alike {h : Host σ} {t : τ} (facing : connected h.state t [])
    (minute : Remote.StatusInTime peer h.limits) (addr : Addr) (lines : Nat) (payload : Bytes) :
    let untimed : Nat → Nat := fun _ => 0
    let link := Remote.link stream clock frame
    let packed := (Host.writeLinesPacked link addr lines payload).run h
    let stepwise := (Host.writeLines link addr lines payload).run h
    packed.1 = stepwise.1 ∧
      packed.2.retimed untimed = (stepwise.2.facing packed.2.state).retimed untimed ∧
      Twins view connected packed.2.state stepwise.2.state := by
  have copies : (Remote.link stream clock frame).CopiesWrites .none PollLimits.served
      (Remote.StatusInTime peer) (Quiet view connected) (Quiet view connected) :=
    lossless.copiesWrites fronts fun minute => minute
  have beside : Host.Alongside .none (Remote.StatusInTime peer) (Quiet view connected) h
      (h.facing (view t)) := ⟨⟨t, facing, rfl⟩, rfl, minute⟩
  -- on the device itself there is no difference
  obtain ⟨same, ended⟩ :=
    (Host.writeWhole_follows copies true true addr lines payload).alike beside
  obtain ⟨same', ended'⟩ :=
    (Host.writeWhole_follows copies false true addr lines payload).alike beside
  exact ⟨same.trans same'.symm, ended.meet ended', _, ended.link, ended'.link⟩

/-- The outcomes of a run over a stream do not depend on how whole lines are written. -/
theorem ByteStream.Lossless.runEach_withPacked
    (paused : ∀ length s t, connected s t [] → connected (clock.pause length s) t [])
    {l : Loader σ} {t : τ} (facing : connected l.memory.host.state t [])
    (inTime : Remote.InTime stream clock frame peer l.memory.host.limits) (packed : Bool)
    (calls : List DriverCall) :
    let untimed : Nat → Nat := fun _ => 0
    let link := Remote.link stream clock frame
    let plain := Action.runEach (DriverCall.perform link) calls l
    let repacked := Action.runEach (DriverCall.perform link) calls (l.withPacked packed)
    repacked.1.map (Except.map (CallReply.retimed untimed)) =
        plain.1.map (Except.map (CallReply.retimed untimed)) ∧
      (plain.2.withPacked packed).retimed untimed =
        (repacked.2.facing plain.2.memory.host.state).retimed untimed ∧
      Twins view connected plain.2.memory.host.state repacked.2.memory.host.state := by
  have copies : (Remote.link stream clock frame).Copies .none PollLimits.served
      (Remote.InTime stream clock frame peer) (Quiet view connected) (Quiet view connected) :=
    lossless.copies fronts paused
  let bare : Loader Device := (l.withPacked packed).facing (view t)
  have plain : Loader.Alongside .none (Remote.InTime stream clock frame peer)
      (TransferSettings.repacked packed) (Quiet view connected) l bare :=
    ⟨⟨⟨⟨t, facing, rfl⟩, rfl, inTime⟩, rfl⟩, rfl, rfl⟩
  have repacked : Loader.Alongside .none (Remote.InTime stream clock frame peer) id
      (Quiet view connected) (l.withPacked packed) bare :=
    ⟨⟨⟨⟨t, facing, rfl⟩, rfl, inTime⟩, rfl⟩, rfl, rfl⟩
  obtain ⟨same, ended⟩ :=
    DriverCall.runEach_follows copies (TransferSettings.sameCut_repacked packed) calls plain
  obtain ⟨same', ended'⟩ := DriverCall.runEach_follows copies .refl calls repacked
  exact ⟨same'.trans same.symm, ended.meet ended', _, ended.memory.host.link,
    ended'.memory.host.link⟩

end Streams

/-- Over a channel, whatever it answers and wherever it is cut off, a write of lines that is issued
as a whole makes the accesses of one that goes step by step. Over a stream without loss both end
alike and leave the same device behind, though other bytes are sent. So no run depends on which
of them a driver makes. -/
theorem packed_writes_interchange {stream : ByteStream σ} {peer : Channel τ}
    {connected : σ → τ → Bytes → Prop} (lossless : stream.Lossless peer connected)
    {view : τ → Device} (fronts : peer.Fronts view False) {clock : Clock σ}
    (paused : ∀ length s t, connected s t [] → connected (clock.pause length s) t [])
    (frame : Nat) (channel : Channel υ) (packed : Bool) :
    (∀ (h : Host (Bench.Probed υ)) addr lines payload,
      let link := (Bench.Probed.channel channel).link
      (Host.writeLinesPacked link addr lines payload).run h =
        (Host.writeLines link addr lines payload).run h) ∧
    (∀ (h : Host σ) t, connected h.state t [] → Remote.StatusInTime peer h.limits →
      ∀ addr lines payload,
      let untimed : Nat → Nat := fun _ => 0
      let link := Remote.link stream clock frame
      let packed := (Host.writeLinesPacked link addr lines payload).run h
      let stepwise := (Host.writeLines link addr lines payload).run h
      packed.1 = stepwise.1 ∧
        packed.2.retimed untimed = (stepwise.2.facing packed.2.state).retimed untimed ∧
        Twins view connected packed.2.state stepwise.2.state) ∧
    (∀ (h : Host (Metered σ)) t, connected h.state.inner t [] →
      ∀ addr lines payload, Host.Writable addr lines payload →
      let link := Remote.link stream.metered clock.metered frame
      ((Host.writeLinesPacked link addr lines payload).run h).2.state.meter.sentBytes ≠
        ((Host.writeLines link addr lines payload).run h).2.state.meter.sentBytes) ∧
    (∀ (l : Loader υ) (uses : List DriverUse),
      let (outcomes, last) := Action.runEach (DriverUse.perform channel.link) uses l
      Action.runEach (DriverUse.perform channel.link) uses (l.withPacked packed) =
        (outcomes, last.withPacked packed)) ∧
    (∀ (l : Loader σ) t, connected l.memory.host.state t [] →
      Remote.InTime stream clock frame peer l.memory.host.limits → ∀ calls : List DriverCall,
      let untimed : Nat → Nat := fun _ => 0
      let link := Remote.link stream clock frame
      let plain := Action.runEach (DriverCall.perform link) calls l
      let repacked := Action.runEach (DriverCall.perform link) calls (l.withPacked packed)
      repacked.1.map (Except.map (CallReply.retimed untimed)) =
          plain.1.map (Except.map (CallReply.retimed untimed)) ∧
        (plain.2.withPacked packed).retimed untimed =
          (repacked.2.facing plain.2.memory.host.state).retimed untimed ∧
        Twins view connected plain.2.memory.host.state repacked.2.memory.host.state) := by
  refine ⟨fun h addr lines payload => ?_, fun h t facing minute =>
    lossless.writes_alike fronts facing minute, fun h t facing _ _ _ valid =>
    lossless.traffic_differs frame facing valid, fun l uses =>
    channel.runEach_withPacked packed uses l, fun l t facing inTime calls =>
    lossless.runEach_withPacked fronts paused facing inTime packed calls⟩
  dsimp only
  rw [Host.writeLinesPacked_eq_writeLines]

/-- Two lines over frames of five bytes, and a run that writes parts of lines around whole ones,
on a pipe on which every byte takes time. -/
theorem packed_writes_interchange_pipe :
    let payload : Bytes := List.replicate 32 0xA5
    let device : Device := { latency := 2, readFifo := [9] }
    let pipe : Bench.Pipe Device := { first := device }
    let stream := Bench.Pipe.stream Device.channel
    let calls : List DriverCall := [.memory (.write ⟨8⟩ (List.replicate 60 3)),
      .memory (.read ⟨0⟩ 80), .loader .start]
    let link := Remote.link stream Bench.Pipe.clock 5
    let l : Loader (Bench.Pipe Device) :=
      { memory := { host := { state := pipe, observed := true } } }
    stream.Lossless Device.channel (Bench.Pipe.Connected Device.channel) ∧
      Device.channel.Fronts id False ∧
      (∀ length p d, Bench.Pipe.Connected Device.channel p d [] →
        Bench.Pipe.Connected Device.channel (Bench.Pipe.clock.pause length p) d []) ∧
      Bench.Pipe.Connected Device.channel pipe device [] ∧
      Remote.InTime stream Bench.Pipe.clock 5 Device.channel l.memory.host.limits ∧
      Host.Writable ⟨0x40⟩ 2 payload ∧
      ((Host.writeLines link ⟨0x40⟩ 2 payload).run l.memory.host).1 = .ok () ∧
      ((Host.writeLinesPacked link ⟨0x40⟩ 2 payload).run l.memory.host).1 = .ok () ∧
      (let untimed : Nat → Nat := fun _ => 0
      let plain := Action.runEach (DriverCall.perform link) calls l
      let repacked := Action.runEach (DriverCall.perform link) calls (l.withPacked false)
      repacked.1.map (Except.map (CallReply.retimed untimed)) =
          plain.1.map (Except.map (CallReply.retimed untimed)) ∧
        (plain.2.withPacked false).retimed untimed =
          (repacked.2.facing plain.2.memory.host.state).retimed untimed ∧
        Twins id (Bench.Pipe.Connected Device.channel) plain.2.memory.host.state
          repacked.2.memory.host.state) := by
  intro payload device pipe stream calls link l
  have lossless : stream.Lossless Device.channel (Bench.Pipe.Connected Device.channel) :=
    Bench.Pipe.lossless
  have facing : Bench.Pipe.Connected Device.channel pipe device [] := Bench.Pipe.connected_new _
  have inTime : Remote.InTime stream Bench.Pipe.clock 5 Device.channel l.memory.host.limits :=
    Bench.Pipe.inTime (by decide) (fun _ _ => punctual_still (Nat.succ_pos _)) 5
  have valid : Host.Writable ⟨0x40⟩ 2 payload := ⟨⟨rfl, by decide, by decide, by decide⟩, rfl⟩
  obtain ⟨-, alike, -, -, runs⟩ := packed_writes_interchange lossless Channel.fronts_device
    Bench.Pipe.connected_paused 5 Device.channel false
  have packed := (alike l.memory.host device facing inTime.status ⟨0x40⟩ 2 payload).1
  have stepwise : ((Host.writeLines link ⟨0x40⟩ 2 payload).run l.memory.host).1 = .ok () := by
    have copies : link.CopiesWrites .none PollLimits.served (Remote.StatusInTime Device.channel)
        (Quiet id (Bench.Pipe.Connected Device.channel))
        (Quiet id (Bench.Pipe.Connected Device.channel)) :=
      lossless.copiesWrites Channel.fronts_device fun minute => minute
    have beside : Host.Alongside .none (Remote.StatusInTime Device.channel)
        (Quiet id (Bench.Pipe.Connected Device.channel)) l.memory.host
        (l.memory.host.facing device) := ⟨⟨device, facing, rfl⟩, rfl, inTime.status⟩
    have same := ((Host.writeLines_follows copies ⟨0x40⟩ 2 payload).alike beside).1
    rw [same]
    decide +kernel
  exact ⟨lossless, Channel.fronts_device, Bench.Pipe.connected_paused, facing, inTime, valid,
    stepwise, packed.trans stepwise, runs l device facing inTime calls⟩

end LineBridge

import Mathlib
import LineBridge.Proofs.MirroredCalls
import LineBridge.Proofs.Pipes
import LineBridge.Proofs.RemoteAccesses

/-! A driver need not know that its bridge is served over a stream. On a stream without loss,
whatever the size of its frames and the state of the device, every sequence of calls has the
outcomes that it has on a channel to the device itself, reports the same events, and leaves the
device in the same state. The clocks on the two ways may show anything, as long as no wait runs out
of time, and the times that are reported are not compared. -/

namespace LineBridge

variable {σ τ υ : Type}

/-- Calls made over a stream end as calls made on a channel of the host's own. -/
theorem calls_over_stream {stream : ByteStream σ} {peer : Channel τ}
    {connected : σ → τ → Bytes → Prop} (lossless : stream.Lossless peer connected)
    {far : τ → Device} (serves : peer.Fronts far False) {clock : Clock σ}
    (paused : ∀ length s t, connected s t [] → connected (clock.pause length s) t [])
    {channel : Channel υ} {near : υ → Device} (fronts : channel.Fronts near False) (frame : Nat)
    {driver : Loader υ} {s : σ} {t : τ} (facing : connected s t [])
    (alike : far t = near driver.memory.host.state)
    (remotely : Remote.InTime stream clock frame peer driver.memory.host.limits)
    (directly : channel.InTime driver.memory.host.limits) (calls : List DriverCall) :
    let untimed : Nat → Nat := fun _ => 0
    let remote := Action.runEach (DriverCall.perform (Remote.link stream clock frame)) calls
      (driver.facing s)
    let direct := Action.runEach (DriverCall.perform channel.link) calls driver
    remote.1.map (Except.map (CallReply.retimed untimed)) =
        direct.1.map (Except.map (CallReply.retimed untimed)) ∧
      remote.2.retimed untimed =
        (direct.2.facing remote.2.memory.host.state).retimed untimed ∧
      ∃ t', connected remote.2.memory.host.state t' [] ∧
        far t' = near direct.2.memory.host.state := by
  -- both ways are compared with a driver on the device itself
  let bare : Loader Device := driver.facing (near driver.memory.host.state)
  have overStream : Loader.Alongside .none (Remote.InTime stream clock frame peer) id
      (Quiet far connected) (driver.facing s) bare :=
    Loader.alongside_facing (k := bare) ⟨t, facing, alike⟩ remotely
  have onChannel : Loader.Alongside .none channel.InTime id (near · = ·) driver bare :=
    Loader.alongside_facing (k := bare) (s := driver.memory.host.state) rfl directly
  obtain ⟨same, ended⟩ :=
    DriverCall.runEach_follows (lossless.copies serves paused) .refl calls overStream
  have plain : channel.link.Copies .none PollLimits.served channel.InTime (near · = ·)
      (near · = ·) :=
    fronts.copies (fun _ => Nat.succ_pos _) fun limits => (Remote.reads_served limits).symm
  obtain ⟨same', ended'⟩ := DriverCall.runEach_follows plain .refl calls onChannel
  obtain ⟨t', left, seen⟩ := ended.memory.host.link
  exact ⟨same.trans same'.symm, ended.meet ended', t', left,
    seen.trans ended'.memory.host.link.symm⟩

/-- Over a pipe on which every byte takes time, in frames of five bytes. -/
theorem calls_over_pipe :
    let driver : Loader Device :=
      { memory := { host := { state := { latency := 2, readFifo := [9] }, observed := true } } }
    let pipe : Bench.Pipe Device := { first := driver.memory.host.state }
    let stream := Bench.Pipe.stream Device.channel
    let calls : List DriverCall :=
      [.memory (.write ⟨8⟩ [1, 2, 3]), .memory (.read ⟨0⟩ 40), .host (.readLines ⟨4⟩ 1),
        .loader .start, .host .abort]
    stream.Lossless Device.channel (Bench.Pipe.Connected Device.channel) ∧
      Device.channel.Fronts id False ∧
      (∀ length p d, Bench.Pipe.Connected Device.channel p d [] →
        Bench.Pipe.Connected Device.channel (Bench.Pipe.clock.pause length p) d []) ∧
      Bench.Pipe.Connected Device.channel pipe driver.memory.host.state [] ∧
      Remote.InTime stream Bench.Pipe.clock 5 Device.channel driver.memory.host.limits ∧
      Device.channel.InTime driver.memory.host.limits ∧
      (let untimed : Nat → Nat := fun _ => 0
      let remote := Action.runEach (DriverCall.perform (Remote.link stream Bench.Pipe.clock 5))
        calls (driver.facing pipe)
      let direct := Action.runEach (DriverCall.perform Device.channel.link) calls driver
      remote.1.map (Except.map (CallReply.retimed untimed)) =
          direct.1.map (Except.map (CallReply.retimed untimed)) ∧
        remote.2.retimed untimed =
          (direct.2.facing remote.2.memory.host.state).retimed untimed ∧
        ∃ d, Bench.Pipe.Connected Device.channel remote.2.memory.host.state d [] ∧
          id d = id direct.2.memory.host.state) := by
  intro driver pipe stream calls
  have lossless : stream.Lossless Device.channel (Bench.Pipe.Connected Device.channel) :=
    Bench.Pipe.lossless
  have facing : Bench.Pipe.Connected Device.channel pipe driver.memory.host.state [] :=
    Bench.Pipe.connected_new _
  have remotely : Remote.InTime stream Bench.Pipe.clock 5 Device.channel
      driver.memory.host.limits :=
    Bench.Pipe.inTime (by decide) (fun _ _ => punctual_still (Nat.succ_pos _)) 5
  have directly : Device.channel.InTime driver.memory.host.limits := Device.inTime (by decide)
  exact ⟨lossless, Channel.fronts_device, Bench.Pipe.connected_paused, facing, remotely, directly,
    calls_over_stream lossless Channel.fronts_device Bench.Pipe.connected_paused
      Channel.fronts_device 5 facing rfl remotely directly calls⟩

end LineBridge

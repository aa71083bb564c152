import Mathlib
import LineBridge.Proofs.LikeDevices
import LineBridge.Proofs.MirroredCalls
import LineBridge.Settings.Basic

/-! Giving up makes a device as good as new. Whatever had been done to it, and wherever a
transaction broke off, after an abort every sequence of calls goes as on a new device with the
same memory, speed and faults, and what it adds to the logs is the same. -/

namespace LineBridge

open LineBridge.Action (Agree Ends Follows)

/-- A new device with that memory and the speed and faults of `d`. -/
def Device.renewed (d : Device) (memory : LineStore) : Device :=
  { memory, latency := d.latency, skew := d.skew, stuck := d.stuck }

theorem Device.Cleared.alike {past d : Device} (cleared : past.Cleared) (kept : d.Keeps past)
    {memory : LineStore} (same : memory.byteAt = d.memory.byteAt) :
    past.Alike statuses past (d.renewed memory) where
  memory := by rw [kept.memory, ← same]; rfl
  readFifo := cleared.readFifo
  writeFifo := cleared.writeFifo
  latency := kept.latency
  statusWait := cleared.statusWait
  writeStatusWait := cleared.writeStatusWait
  countWait := cleared.countWait
  skew := kept.skew
  stuck := kept.stuck
  registers := by
    intro reg member
    rcases List.mem_pair.mp member with rfl | rfl
    · exact cleared.status
    · exact cleared.writeStatus
  writes := rfl
  commands := rfl
  idleCycles := (Nat.zero_add _).symm

theorem Host.run_abort (h : Host Device) :
    ∃ h', (abort Device.link).run h = (.ok (), h') ∧ h.state.Keeps h'.state ∧
      h'.state.Cleared := by
  have ending := finish_ends Channel.fronts_device (o := h.outline) h.state h ⟨rfl, rfl⟩
  cases run : (abort Device.link).run h with
  | mk outcome h' =>
    rw [show (finish Device.channel.link).run h = (outcome, h') from run] at ending
    cases outcome with
    | ok u => exact ⟨h', rfl, ending.2⟩
    | error e => exact ending.2.1.elim

/-- An abort succeeds, and leaves a driver that cannot tell its device from a new one. -/
theorem abort_renews (l : Loader Device) {memory : LineStore}
    (same : memory.byteAt = l.memory.host.state.memory.byteAt) {calls : List DriverCall}
    (data : ∀ call ∈ calls, call ≠ .host .abort) :
    let (aborted, ready) := ((DriverCall.host .abort).perform Device.link).run l
    let fresh := ready.facing (l.memory.host.state.renewed memory)
    let (outcomes, after) := Action.runEach (DriverCall.perform Device.link) calls ready
    let (expected, reference) := Action.runEach (DriverCall.perform Device.link) calls fresh
    let d := after.memory.host.state
    let e := reference.memory.host.state
    aborted = .ok .done ∧ outcomes = expected ∧ after = reference.facing d ∧
      d.memory.byteAt = e.memory.byteAt ∧
      d.writes = e.writes ++ ready.memory.host.state.writes ∧
      d.commands = e.commands ++ ready.memory.host.state.commands := by
  obtain ⟨h', run, kept, cleared⟩ := Host.run_abort l.memory.host
  have done : ((fun _ => CallReply.done) <$> Host.abort Device.link).run l.memory.host =
      (.ok .done, h') := by
    rw [map_eq_pure_bind]
    exact Action.run_bind_ok run
  let ready : Loader Device := { l with memory := { l.memory with host := h' } }
  have aborted : ((DriverCall.host .abort).perform Device.link).run l = (.ok .done, ready) := by
    rw [DriverCall.perform, DriverCall.onHost, Loader.onMemory, Action.run_on, Memory.onHost,
      Action.run_on, done]
  rw [aborted]
  have copies := Device.link_copies h'.state
  have started : Loader.Alongside .exact (fun _ => True) id (h'.state.Alike Device.statuses) ready
      (ready.facing (l.memory.host.state.renewed memory)) :=
    Loader.alongside_facing (k := ready.facing _) (s := h'.state) (cleared.alike kept same) trivial
  have step : ∀ call ∈ calls, Follows
      (Loader.Alongside .exact (fun _ => True) id (h'.state.Alike Device.statuses))
      (call.perform Device.link) (call.perform Device.link) :=
    fun call member => (copies.relation .refl).driverCall_exact call fun abort =>
      absurd abort (data call member)
  obtain ⟨agree, ended⟩ := Agree.runEach step started
  have alike := ended.memory.host.link
  exact ⟨rfl, agree, ended.eq_facing, alike.memory, alike.writes, alike.commands⟩

/-- A skewed device with bytes in both buffers, waits pending and statuses in error. -/
theorem abort_renews_stale :
    let stale : Device :=
      { registers := Vector.replicate 16 Status.error.code, latency := 2, skew := -1
        readFifo := [1, 2, 3], writeFifo := #[4], statusWait := 1, writeStatusWait := 5
        countWait := 9, countHidden := true, writes := [⟨⟨0x40⟩, List.replicate 16 7⟩] }
    let l : Loader Device := { memory := ({} : Settings).memory stale }
    let calls : List DriverCall :=
      [.memory (.write ⟨8⟩ [1, 2, 3]), .host (.readLines ⟨0⟩ 1), .memory (.verify ⟨8⟩ [1, 2]),
        .loader (.load ⟨[⟨⟨0x20⟩, [5]⟩], 0x20⟩ false), .loader .start]
    let (aborted, ready) := ((DriverCall.host .abort).perform Device.link).run l
    let fresh := ready.facing (stale.renewed {})
    let (outcomes, after) := Action.runEach (DriverCall.perform Device.link) calls ready
    let (expected, reference) := Action.runEach (DriverCall.perform Device.link) calls fresh
    let d := after.memory.host.state
    let e := reference.memory.host.state
    aborted = .ok .done ∧ outcomes = expected ∧ after = reference.facing d ∧
      d.memory.byteAt = e.memory.byteAt ∧
      d.writes = e.writes ++ ready.memory.host.state.writes ∧
      d.commands = e.commands ++ ready.memory.host.state.commands := by
  intro stale l calls
  have data : ∀ call ∈ calls, call ≠ .host .abort := by simp [calls]
  have held : l.memory.host.state = stale := rfl
  have renewed := @abort_renews l {} rfl calls data
  rw [held] at renewed
  exact renewed

end LineBridge

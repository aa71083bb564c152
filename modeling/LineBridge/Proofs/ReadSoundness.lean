import Mathlib
import LineBridge.Proofs.Requests

/-! Reads are sound from every state of the device. What earlier transactions have left behind,
such as buffered bytes, pending waits, an old status or a hidden count, never reaches a
delivery: what is delivered is memory, and the device is left clear. -/

namespace LineBridge

variable {σ : Type} {view : σ → Device} {lossy : Prop}

/-- A device whose count is off delivers nothing, and neither does one that is stuck. An empty
range is delivered without asking the device. -/
theorem reads_sound {channel : Channel σ} (fronts : channel.Fronts view lossy) (m : Memory σ)
    (addr : Addr) :
    let d := view m.host.state
    (∀ lines data h', (Host.readLines channel.link addr lines).run m.host = (.ok data, h') →
      data = d.memory.peek addr (lines * lineBytes) ∧ d.ReadOut (view h'.state)) ∧
    (∀ len data m', (Memory.read channel.link addr len).run m = (.ok data, m') →
      data = d.memory.peek addr len ∧ d.AfterRead len (view m'.host.state)) := by
  intro d
  constructor
  · intro lines data h' run
    have delivered := (Host.readLines_ends fronts (o := m.host.outline) addr lines d).ok
      ⟨rfl, rfl⟩ run
    exact delivered.2
  · intro len data m' run
    have delivered := (Memory.read_ends fronts (t := m.transfer) (o := m.host.outline) addr len
      d).ok ⟨rfl, rfl, rfl⟩ run
    obtain ⟨-, -, same, left⟩ := delivered
    rw [LineStore.peek_eq_read]
    exact ⟨same, left⟩

/-- A device with foreign bytes in both buffers, waits pending and an old status, which still
delivers what its memory holds. -/
theorem reads_sound_stale :
    let stale : Device :=
      { registers := Vector.replicate 16 Status.done.code
        memory := LineStore.empty.poke ⟨0x48⟩ (List.replicate 16 7)
        readFifo := [1, 2, 3], writeFifo := #[4], latency := 2
        statusWait := 1, writeStatusWait := 5, countWait := 9, countHidden := true }
    let m : Memory Device := { host := { state := stale } }
    (∃ h', (Host.readLines Device.link ⟨0x40⟩ 2).run m.host =
        (.ok (stale.memory.peek ⟨0x40⟩ 32), h') ∧ stale.ReadOut h'.state) ∧
      ∃ m', (Memory.read Device.link ⟨0x48⟩ 16).run m = (.ok (List.replicate 16 7), m') ∧
        stale.AfterRead 16 m'.host.state := by
  intro stale m
  have held : stale.memory.peek ⟨0x48⟩ 16 = List.replicate 16 7 := by
    rw [LineStore.peek_eq_read, LineStore.byteAt_poke _ _ (by decide)]
    exact Flat.read_write _ _ (by decide)
  have sound := reads_sound Channel.fronts_device m
  constructor
  · obtain ⟨data, h', run⟩ := Action.exists_of_isOk
      (show ((Host.readLines Device.link ⟨0x40⟩ 2).run m.host).1.isOk = true by decide +kernel)
    obtain ⟨same, left⟩ := (sound ⟨0x40⟩).1 _ _ _ run
    exact ⟨h', same ▸ run, left⟩
  · obtain ⟨data, m', run⟩ := Action.exists_of_isOk
      (show ((Memory.read Device.link ⟨0x48⟩ 16).run m).1.isOk = true by decide +kernel)
    obtain ⟨same, left⟩ := (sound ⟨0x48⟩).2 _ _ _ run
    exact ⟨m', same.trans held ▸ run, left⟩

end LineBridge

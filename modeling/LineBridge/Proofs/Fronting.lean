import Mathlib
import LineBridge.Bench.Probe
import LineBridge.Proofs.DeviceWaits
import LineBridge.Proofs.Outcome

/-! A channel fronts a device when each of its accesses happens on that device or, if the
channel is lossy, fails before it gets there. Nothing is said about when accesses fail, how
often, or what the clock shows. The simulated bridge fronts itself without loss, and so does
any channel seen through a probe that may cut an access off. -/

namespace LineBridge

open LineBridge.Action (Ends)

variable {σ α : Type} {view : σ → Device} {lossy : Prop}

/-- What `x` does is what `y` does to the device, unless it is lost. -/
def Passes (view : σ → Device) (lossy : Prop) (x : Action σ α) (y : Action Device α) : Prop :=
  ∀ s, ((x.run s).1 = (y.run (view s)).1 ∧ view (x.run s).2 = (y.run (view s)).2) ∨
    (lossy ∧ (∃ e, (x.run s).1 = .error e) ∧ view (x.run s).2 = view s)

theorem Passes.ends {x : Action σ α} {y : Action Device α} (passes : Passes view lossy x y)
    {d d' : Device} {a : α} (run : y.run d = (.ok a, d')) :
    Ends (view · = d) x (fun b s => b = a ∧ view s = d') (fun _ s => lossy ∧ view s = d) := by
  intro s same
  subst same
  have either := passes s
  cases outcome : x.run s with
  | mk result s' =>
    rw [outcome, run] at either
    rcases either with ⟨value, state⟩ | ⟨lost, ⟨e, fault⟩, state⟩
    · subst value
      exact ⟨rfl, state⟩
    · subst fault
      exact ⟨lost, state⟩

namespace Channel

structure Fronts (channel : Channel σ) (view : σ → Device) (lossy : Prop) : Prop where
  writeRegister : ∀ reg value,
    Passes view lossy (channel.writeRegister reg value) (Device.writeRegister reg value)
  readRegister : ∀ reg, Passes view lossy (channel.readRegister reg) (Device.readRegister reg)
  writeBulk : ∀ data, Passes view lossy (channel.writeBulk data) (Device.writeBulk data)
  readBulk : ∀ count, Passes view lossy (channel.readBulk count) (Device.readBulk count)
  idleClock : ∀ cycles, Passes view lossy (channel.idleClock cycles) (Device.idleClock cycles)
  pause : ∀ length s, view (channel.clock.pause length s) = view s

theorem fronts_device : Device.channel.Fronts id False where
  writeRegister _ _ _ := .inl ⟨rfl, rfl⟩
  readRegister _ _ := .inl ⟨rfl, rfl⟩
  writeBulk _ _ := .inl ⟨rfl, rfl⟩
  readBulk _ _ := .inl ⟨rfl, rfl⟩
  idleClock _ _ := .inl ⟨rfl, rfl⟩
  pause _ _ := rfl

theorem passes_through (x : Action Device α) (note : Option α → Bench.Access) :
    Passes Bench.Probed.inner True (Bench.Probed.through x note) x := by
  intro p
  by_cases cut : p.cutAt = some p.accesses
  · right
    simp [Action.run, Bench.Probed.through, cut]
  · left
    simp [Action.run, Bench.Probed.through, cut]

theorem fronts_probed : (Bench.Probed.channel Device.channel).Fronts Bench.Probed.inner True where
  writeRegister _ _ := passes_through _ _
  readRegister _ := passes_through _ _
  writeBulk _ := passes_through _ _
  readBulk _ := passes_through _ _
  idleClock _ := passes_through _ _
  pause _ _ := rfl

namespace Fronts

variable {channel : Channel σ} (fronts : channel.Fronts view lossy)
include fronts

theorem writeRegister_ends {reg : UInt8} (answers : Device.Answers reg) (value : UInt8)
    (d : Device) :
    Ends (view · = d) (channel.writeRegister reg value)
      (fun _ s => view s = d.afterWrite reg value) (fun _ s => lossy ∧ view s = d) := by
  have run : (Device.writeRegister reg value).run d = (.ok (), d.afterWrite reg value) := by
    rw [Device.writeRegister, if_pos answers]
    rfl
  exact ((fronts.writeRegister reg value).ends run).onValue fun _ _ h => h.2

theorem readRegister_ends {reg : UInt8} (answers : Device.Answers reg) (d : Device) :
    Ends (view · = d) (channel.readRegister reg)
      (fun value s => value = (d.afterRead reg).1 ∧ view s = (d.afterRead reg).2)
      (fun _ s => lossy ∧ view s = d) := by
  have run : (Device.readRegister reg).run d = (.ok (d.afterRead reg).1, (d.afterRead reg).2) := by
    rw [Device.readRegister, if_pos answers]
    rfl
  exact (fronts.readRegister reg).ends run

theorem writeBulk_ends (data : Bytes) (d : Device) :
    Ends (view · = d) (channel.writeBulk data)
      (fun _ s => view s = { d with writeFifo := d.writeFifo ++ data })
      (fun _ s => lossy ∧ view s = d) :=
  ((fronts.writeBulk data).ends rfl).onValue fun _ _ h => h.2

/-- Asking for all that is buffered empties the buffer. -/
theorem readBulk_ends {count : Nat} (d : Device) (buffered : d.readFifo.length = count) :
    Ends (view · = d) (channel.readBulk count)
      (fun data s => data = d.readFifo ∧ view s = { d with readFifo := [] })
      (fun _ s => lossy ∧ view s = d) := by
  have run : (Device.readBulk count).run d = (.ok d.readFifo, { d with readFifo := [] }) := by
    subst buffered
    simp [Action.run, Device.readBulk]
  exact (fronts.readBulk count).ends run

theorem idleClock_ends (cycles : UInt32) (d : Device) :
    Ends (view · = d) (channel.idleClock cycles)
      (fun _ s => view s = { d with idleCycles := d.idleCycles + cycles.toNat })
      (fun _ s => lossy ∧ view s = d) :=
  ((fronts.idleClock cycles).ends rfl).onValue fun _ _ h => h.2

theorem writeEach_ends {writes : List (UInt8 × UInt8)}
    (plain : ∀ write ∈ writes, Device.Plain write.1) (d : Device) :
    Ends (view · = d) (channel.writeEach writes) (fun _ s => view s = d.stored writes)
      (fun _ s => lossy ∧ d.Rewritten (view s)) := by
  induction writes generalizing d with
  | nil => exact Ends.pure fun _ h => h
  | cons write rest ih =>
    have first := plain write (List.mem_cons_self ..)
    have later := ih (fun w member => plain w (List.mem_cons_of_mem _ member))
      (d.setRegister write.1 write.2)
    apply Ends.bind
    · exact (fronts.writeRegister_ends first.answers write.2 d).onFault
        fun _ _ h => ⟨h.1, h.2 ▸ .refl d⟩
    · intro _
      rw [first.afterWrite]
      exact later.onFault fun _ _ h => ⟨h.1, (d.rewritten_setRegister _ _).trans h.2⟩

theorem writePair_ends (lo : UInt8) (low : Device.Plain lo) (high : Device.Plain (lo + 1))
    (value : UInt16) (d : Device) :
    Ends (view · = d) (channel.writePair lo value)
      (fun _ s => view s = d.stored [(lo, lowByte value), (lo + 1, highByte value)])
      (fun _ s => lossy ∧ d.Rewritten (view s)) := by
  rw [channel.writePair_eq low.answers.ne_last]
  apply Ends.bind
  · exact (fronts.writeRegister_ends low.answers (lowByte value) d).onFault
      fun _ _ h => ⟨h.1, h.2 ▸ .refl d⟩
  · intro _
    rw [low.afterWrite]
    refine (fronts.writeRegister_ends high.answers (highByte value) _).weaken (fun _ h => h) ?_ ?_
    · intro _ s same
      rw [same, high.afterWrite]
      rfl
    · intro _ s ⟨lost, same⟩
      exact ⟨lost, same ▸ d.rewritten_setRegister _ _⟩

end Fronts

end Channel

end LineBridge

import Mathlib
import LineBridge.Proofs.PlainLinks
import LineBridge.Proofs.Sequences

/-! The count of idle clocks. Only idling adds to it, and at most what a word of 32 bits can say,
so a device that is asked for fewer than 2³² commands keeps its count within 64 bits. What is done
on a channel that loses nothing is done at the device, and fails as a link fails. -/

namespace LineBridge

open LineBridge.Action (Ends Preserves)

variable {σ α : Type} {view : σ → Device}

namespace Device

section States

variable (d : Device) (reg value : UInt8)

@[simp] theorem idleCycles_setWait (reads : Nat) :
    (d.setWait reg reads).idleCycles = d.idleCycles := by
  unfold setWait
  split <;> rfl

@[simp] theorem idleCycles_complete : (d.complete reg).idleCycles = d.idleCycles :=
  idleCycles_setWait ..

theorem idleCycles_execute : (d.execute value).idleCycles = d.idleCycles := by
  unfold execute
  split
  · rfl
  · next command _ =>
    cases command with
    | null => rfl
    | readStart =>
      dsimp only [startRead]
      split
      · exact idleCycles_complete ..
      · rfl
    | writeStart =>
      dsimp only [startWrite]
      split
      · exact idleCycles_complete ..
      · rfl

theorem idleCycles_afterWrite : (d.afterWrite reg value).idleCycles = d.idleCycles := by
  unfold afterWrite
  split_ifs
  · rfl
  · rfl
  · exact idleCycles_execute ..
  · rfl

theorem idleCycles_readStatus : (d.readStatus reg).2.idleCycles = d.idleCycles := by
  unfold readStatus
  split
  · rfl
  · split
    · rfl
    · exact idleCycles_setWait ..
    · exact idleCycles_setWait ..

theorem idleCycles_afterRead : (d.afterRead reg).2.idleCycles = d.idleCycles := by
  unfold afterRead
  split_ifs
  · exact idleCycles_readStatus ..
  · unfold readCountLo
    split <;> rfl
  · rfl
  · rfl
  · rfl

end States

/-- A bulk read takes as much as was asked for, or nothing. -/
theorem bulkRead_ends (d : Device) (count : Nat) :
    Ends (· = d) (readBulk count)
      (fun delivered d' => delivered.length = count ∧
        d' = { d with readFifo := d.readFifo.drop count })
      (fun e d' => (∃ cause, e = .link cause) ∧ d' = d) := by
  rintro d rfl
  have run : (readBulk count).run d = if (d.readFifo.take count).length < count then
      (.error (.link (.underrun count d.readFifo.length)), d)
    else (.ok (d.readFifo.take count), { d with readFifo := d.readFifo.drop count }) := rfl
  rw [run]
  split_ifs with short
  · exact ⟨⟨_, rfl⟩, rfl⟩
  · exact ⟨Nat.le_antisymm (List.length_take_le _ _) (Nat.not_lt.mp short), rfl⟩

end Device

/-- An access that adds nothing to the count of the device behind it, and fails as a link does. -/
def Clockless (view : σ → Device) (access : Action σ α) : Prop :=
  ∀ n, Preserves (fun s => (view s).idleCycles = n)
    (fun e s => (∃ cause, e = .link cause) ∧ (view s).idleCycles = n) access

/-- An access that fails as a link does, and leaves the device behind it as it is. -/
def Refused (view : σ → Device) (access : Action σ α) : Prop :=
  ∀ d, Ends (view · = d) access (fun _ _ => False)
    (fun e s => (∃ cause, e = .link cause) ∧ view s = d)

namespace Passes

variable {x : Action σ α} {y : Action Device α} (passes : Passes view False x y)
include passes

/-- What is known of an access to the device is known of the same access on the channel. -/
theorem ends_alike {P : Device → Prop} {Q : α → Device → Prop} {E : Fault → Device → Prop}
    (h : Ends P y Q E) :
    Ends (fun s => P (view s)) x (fun a s => Q a (view s)) (fun e s => E e (view s)) := by
  intro s before
  obtain ⟨outcome, s', d', ran, ran', seen⟩ := passes.follows s (view s) rfl
  have ending := h (view s) before
  rw [ran'] at ending
  rw [ran]
  cases outcome with
  | ok a =>
    obtain rfl : view s' = d' := seen
    exact ending
  | error e =>
    obtain rfl : view s' = d' := seen
    exact ending

theorem clockless (own : Clockless id y) : Clockless view x := fun n => passes.ends_alike (own n)

theorem refused (own : Refused id y) : Refused view x := fun d => passes.ends_alike (own d)

end Passes

namespace Refused

variable {β : Type} {access : Action σ α}

theorem bind (refused : Refused view access) (f : α → Action σ β) : Refused view (access >>= f) :=
  fun d => (refused d).bind fun _ _ no => no.elim

theorem clockless (refused : Refused view access) : Clockless view access := by
  intro n
  refine Ends.of_eq fun s before => (refused (view s)).weaken (fun _ same => same ▸ rfl)
    (fun _ _ no => no.elim) ?_
  rintro e s' ⟨cause, same⟩
  exact ⟨cause, same ▸ before⟩

end Refused

namespace Device

section Silent

variable {reg : UInt8} (silent : ¬Answers reg)
include silent

theorem writeRegister_refused (value : UInt8) : Refused id (writeRegister reg value) := by
  intro d
  rw [writeRegister, if_neg silent]
  exact Ends.fail fun _ same => ⟨⟨_, rfl⟩, same⟩

theorem readRegister_refused : Refused id (readRegister reg) := by
  intro d
  rw [readRegister, if_neg silent]
  exact Ends.fail fun _ same => ⟨⟨_, rfl⟩, same⟩

end Silent

theorem writeRegister_clockless (reg value : UInt8) : Clockless id (writeRegister reg value) := by
  intro n
  unfold writeRegister
  split
  · exact Ends.modify fun d before => (d.idleCycles_afterWrite reg value).trans before
  · exact Ends.fail fun _ before => ⟨⟨_, rfl⟩, before⟩

theorem readRegister_clockless (reg : UInt8) : Clockless id (readRegister reg) := by
  intro n
  unfold readRegister
  split
  · exact fun d before => (d.idleCycles_afterRead reg).trans before
  · exact Ends.fail fun _ before => ⟨⟨_, rfl⟩, before⟩

theorem readBulk_clockless (count : Nat) : Clockless id (readBulk count) := by
  intro n
  refine Ends.of_eq fun d before => (d.bulkRead_ends count).weaken (fun _ same => same) ?_ ?_
  · rintro _ _ ⟨-, rfl⟩
    exact before
  · rintro _ _ ⟨cause, rfl⟩
    exact ⟨cause, before⟩

end Device

namespace Channel.Fronts

variable {channel : Channel σ} (fronts : channel.Fronts view False)
include fronts

theorem pollRegister_refused {reg : UInt8} (silent : ¬Device.Answers reg) (expected : UInt8)
    (limits : PollLimits) : Refused view (channel.pollRegister reg expected limits) := by
  intro d
  refine poll_ends (I := fun _ s => view s = d) ?_
    fun _ length s same => (fronts.pause length s).trans same
  intro made _
  exact ((fronts.readRegister reg).refused (Device.readRegister_refused silent) d).onValue
    fun _ _ no => no.elim

theorem writeRegister_clockless (reg value : UInt8) :
    Clockless view (channel.writeRegister reg value) :=
  (fronts.writeRegister reg value).clockless (Device.writeRegister_clockless reg value)

theorem readRegister_clockless (reg : UInt8) : Clockless view (channel.readRegister reg) :=
  (fronts.readRegister reg).clockless (Device.readRegister_clockless reg)

theorem writeBulk_clockless (data : Bytes) : Clockless view (channel.writeBulk data) :=
  (fronts.writeBulk data).clockless fun _ => Ends.modify fun _ before => before

theorem readBulk_clockless (count : Nat) : Clockless view (channel.readBulk count) :=
  (fronts.readBulk count).clockless (Device.readBulk_clockless count)

/-- The last register answers nothing, so no pair begins there. -/
theorem writePair_clockless (lo : UInt8) (value : UInt16) :
    Clockless view (channel.writePair lo value) := by
  by_cases last : lo = 0xFF
  · have silent : ¬Device.Answers lo := by rw [last]; decide
    exact (((fronts.writeRegister lo _).refused
      (Device.writeRegister_refused silent _)).bind _).clockless
  · exact fun n => writePair_preserves (fun reg value => fronts.writeRegister_clockless reg value n)
      (absurd · last) value

theorem readPair_clockless (lo : UInt8) : Clockless view (channel.readPair lo) := by
  by_cases last : lo = 0xFF
  · have silent : ¬Device.Answers lo := by rw [last]; decide
    exact (((fronts.readRegister lo).refused
      (Device.readRegister_refused silent)).bind _).clockless
  · exact fun n => readPair_preserves (fun reg => fronts.readRegister_clockless reg n)
      (absurd · last)

theorem pollRegister_clockless (reg expected : UInt8) (limits : PollLimits) :
    Clockless view (channel.pollRegister reg expected limits) :=
  fun n => pollRegister_preserves (fun reg => fronts.readRegister_clockless reg n)
    (fun length s same => (congrArg Device.idleCycles (fronts.pause length s)).trans same)
    reg expected limits

theorem packedWrite_clockless (addr : Addr) (field : UInt16) (payload : Bytes) :
    Clockless view (channel.packedWrite addr field payload) :=
  fun n => packedWrite_preserves (fun reg value => fronts.writeRegister_clockless reg value n)
    (fun data => fronts.writeBulk_clockless data n) addr field payload

end Channel.Fronts

end LineBridge

import Mathlib
import LineBridge.Bench.Probe
import LineBridge.Proofs.DeviceWaits

/-! What becomes of a command that a simulated bridge rejects. The rejection marks a status
register with an error and leaves memory alone. It does not take back a wait that an earlier
command has left on that register, though: such a wait is counted down by the reads that follow,
and when it ends the error gives way to done. -/

namespace LineBridge

open LineBridge.Bench (Access)

namespace Bench.Access

/-- Writes the command register. -/
def commands : Access → Bool
  | write reg _ => reg = Register.cmd
  | _ => false

/-- Reads a certain register. -/
def reads (reg : UInt8) : Access → Bool
  | read r _ => r = reg
  | _ => false

end Bench.Access

namespace Device

/-- The device after an access, whatever the access answered. -/
def afterAccess (d : Device) : Access → Device
  | .write reg value => ((channel.writeRegister reg value).run d).2
  | .read reg _ => ((channel.readRegister reg).run d).2
  | .writeBulk data => ((channel.writeBulk data).run d).2
  | .readBulk count _ => ((channel.readBulk count).run d).2
  | .idle cycles => ((channel.idleClock cycles).run d).2
  | .cut => d

def afterAccesses (d : Device) (accesses : List Access) : Device := accesses.foldl afterAccess d

/-- The status register that reports on a command. -/
def marked (raw : UInt8) : UInt8 :=
  if raw = Command.writeStart.code then Register.writeStatus else Register.status

/-- A command that cannot be carried out as things stand. -/
def Rejects (d : Device) (raw : UInt8) : Prop :=
  match Command.ofCode? raw with
  | none => True
  | some .null => False
  | some .readStart => ¬(d.address.IsLineAligned ∧ d.lines * lineBytes ≤ maxBulkBytes)
  | some .writeStart => ¬(d.address.IsLineAligned ∧ d.writeFifo.size = d.lines * lineBytes)

theorem isStatus_marked (raw : UInt8) : IsStatus (marked raw) := by
  unfold marked
  split
  · exact .inr rfl
  · exact .inl rfl

/-- Devices that agree in what a status register is going to show. -/
structure SameStatus (reg : UInt8) (d d' : Device) : Prop where
  stuck : d'.stuck = d.stuck
  wait : d'.wait reg = d.wait reg
  register : d'.register reg = d.register reg

theorem SameStatus.refl (reg : UInt8) (d : Device) : SameStatus reg d d := ⟨rfl, rfl, rfl⟩

section Frames

variable {d : Device} {reg : UInt8}

theorem sameStatus_setRegister {r : UInt8} (answers : Answers r) (other : r ≠ reg)
    (value : UInt8) : SameStatus reg d (d.setRegister r value) where
  stuck := rfl
  wait := rfl
  register := by rw [register_setRegister d answers, if_neg other]

/-- Each status register has a wait of its own. -/
theorem sameStatus_setWait {r : UInt8} (status : IsStatus reg) (status' : IsStatus r)
    (other : r ≠ reg) (reads : Nat) : SameStatus reg d (d.setWait r reads) := by
  rcases status with rfl | rfl <;> rcases status' with rfl | rfl
  · exact absurd rfl other
  · exact ⟨rfl, rfl, rfl⟩
  · exact ⟨rfl, rfl, rfl⟩
  · exact absurd rfl other

theorem SameStatus.trans {d' d'' : Device} (first : SameStatus reg d d')
    (last : SameStatus reg d' d'') : SameStatus reg d d'' :=
  ⟨last.stuck.trans first.stuck, last.wait.trans first.wait, last.register.trans first.register⟩

variable (status : IsStatus reg)
include status

/-- No write but one of a command has an effect on a status. -/
theorem sameStatus_afterWrite {r : UInt8} (answers : Answers r) (quiet : r ≠ Register.cmd)
    (value : UInt8) : SameStatus reg d (d.afterWrite r value) := by
  unfold afterWrite
  split
  · exact .refl reg d
  next writable =>
    split
    · exact ⟨rfl, rfl, rfl⟩
    apply sameStatus_setRegister answers
    rintro rfl
    rcases status with rfl | rfl <;> simp at writable

theorem sameStatus_readStatus {r : UInt8} (status' : IsStatus r) (other : r ≠ reg) :
    SameStatus reg d (d.readStatus r).2 := by
  have waits := fun reads => sameStatus_setWait (d := d) status status' other reads
  unfold readStatus
  split
  · exact .refl reg d
  split
  · exact .refl reg d
  · exact (waits 0).trans (sameStatus_setRegister status'.answers other _)
  · exact waits _

theorem sameStatus_afterRead {r : UInt8} (other : r ≠ reg) :
    SameStatus reg d (d.afterRead r).2 := by
  unfold afterRead
  split
  next status' => exact sameStatus_readStatus status status' other
  split
  · unfold readCountLo
    split <;> exact ⟨rfl, rfl, rfl⟩
  split
  · exact .refl reg d
  split <;> exact ⟨rfl, rfl, rfl⟩

/-- What a status shows depends on commands and on reads of it, and on nothing else. -/
theorem sameStatus_afterAccess {a : Access} (quiet : a.commands = false)
    (other : a.reads reg = false) : SameStatus reg d (d.afterAccess a) := by
  cases a with
  | write r value =>
    have quiet : r ≠ Register.cmd := by simpa [Access.commands] using quiet
    by_cases answers : Answers r
    · simpa [afterAccess, channel, writeRegister, answers] using
        sameStatus_afterWrite status answers quiet value
    · simpa [afterAccess, channel, writeRegister, answers] using SameStatus.refl reg d
  | read r _ =>
    have other : r ≠ reg := by simpa [Access.reads] using other
    by_cases answers : Answers r
    · have same := sameStatus_afterRead (d := d) status other
      simpa [afterAccess, channel, readRegister, answers, Action.modifyGet, Action.run] using same
    · simpa [afterAccess, channel, readRegister, answers] using SameStatus.refl reg d
  | writeBulk data => exact ⟨rfl, rfl, rfl⟩
  | readBulk count _ =>
    change SameStatus reg d ((readBulk count).run d).2
    simp only [readBulk, Action.run]
    split <;> exact ⟨rfl, rfl, rfl⟩
  | idle cycles => exact ⟨rfl, rfl, rfl⟩
  | cut => exact .refl reg d

end Frames

/-- A status register that is to show busy for `left` more reads, and `final` after them. -/
structure Awaits (d : Device) (reg : UInt8) (left : Nat) (final : UInt8) : Prop where
  free : d.stuck = false
  wait : d.wait reg = left
  register : left = 0 → d.register reg = final
  done : 0 < left → final = Status.done.code

namespace Awaits

variable {d d' : Device} {reg final : UInt8} {left : Nat}

theorem congr (awaits : d.Awaits reg left final) (same : SameStatus reg d d') :
    d'.Awaits reg left final where
  free := same.stuck.trans awaits.free
  wait := same.wait.trans awaits.wait
  register none := same.register.trans (awaits.register none)
  done := awaits.done

variable (awaits : d.Awaits reg left final) (status : IsStatus reg)
include awaits status

theorem shown : (d.readStatus reg).1 = if 0 < left then Status.busy.code else final := by
  by_cases pending : 0 < left
  · have pending' : 0 < d.wait reg := by simpa [awaits.wait] using pending
    rw [if_pos pending, (readStatus_of_pending awaits.free status pending').1]
  · have ready : left = 0 := by omega
    rw [if_neg pending, readStatus_of_ready awaits.free (awaits.wait.trans ready),
      awaits.register ready]

theorem afterStatus : (d.readStatus reg).2.Awaits reg (left - 1) final := by
  by_cases pending : 0 < left
  · have pending' : 0 < d.wait reg := by simpa [awaits.wait] using pending
    obtain ⟨-, watched, wait, ripe⟩ := readStatus_of_pending awaits.free status pending'
    have closer : (d.readStatus reg).2.wait reg = left - 1 := by rw [wait, awaits.wait]
    exact {
      free := watched.keeps.stuck.trans awaits.free
      wait := closer
      register := fun none => (ripe (closer.trans none)).trans (awaits.done pending).symm
      done := fun _ => awaits.done pending }
  · have ready : left = 0 := by omega
    subst ready
    rwa [readStatus_of_ready awaits.free awaits.wait]

/-- Each access takes what is left to wait for down by one if it reads the register. -/
theorem afterAccess {a : Access} (quiet : a.commands = false) :
    (d.afterAccess a).Awaits reg (left - if a.reads reg then 1 else 0) final := by
  by_cases own : a.reads reg = true
  · rw [if_pos own]
    cases a with
    | read r answer =>
      obtain rfl : r = reg := by simpa [Access.reads] using own
      have next := awaits.afterStatus status
      simpa [Device.afterAccess, channel, readRegister, status.answers, Action.modifyGet,
        Action.run, status.afterRead] using next
    | _ => simp [Access.reads] at own
  · rw [if_neg own, Nat.sub_zero]
    exact awaits.congr (sameStatus_afterAccess status quiet (by simpa using own))

theorem afterAccesses {accesses : List Access}
    (quiet : ∀ a ∈ accesses, a.commands = false) :
    (d.afterAccesses accesses).Awaits reg (left - accesses.countP (·.reads reg)) final := by
  induction accesses generalizing d left with
  | nil => simpa [Device.afterAccesses] using awaits
  | cons a rest ih =>
    have next := ih (awaits.afterAccess status (quiet a List.mem_cons_self))
      fun b member => quiet b (List.mem_cons_of_mem a member)
    have total : left - (if a.reads reg then 1 else 0) - rest.countP (·.reads reg) =
        left - (a :: rest).countP (·.reads reg) := by
      rw [List.countP_cons]
      omega
    rwa [total] at next

end Awaits

/-- What a rejected command leaves. -/
structure Rejected (d : Device) (raw : UInt8) (d' : Device) : Prop where
  memory : d'.memory = d.memory
  stuck : d'.stuck = d.stuck
  wait : d'.wait (marked raw) = d.wait (marked raw)
  error : d'.register (marked raw) = Status.error.code

theorem rejected_setStatus {d d' : Device} {raw : UInt8} (memory : d'.memory = d.memory)
    (stuck : d'.stuck = d.stuck) (wait : d'.wait (marked raw) = d.wait (marked raw)) :
    d.Rejected raw (d'.setStatus (marked raw) .error) where
  memory := memory
  stuck := stuck
  wait := wait
  error := by
    rw [setStatus, register_setRegister _ (isStatus_marked raw).answers, if_pos rfl]

theorem rejected_afterWrite {d : Device} {raw : UInt8} (rejects : d.Rejects raw) :
    d.Rejected raw (d.afterWrite Register.cmd raw) := by
  cases known : Command.ofCode? raw with
  | none =>
    have plain : marked raw = Register.status := by
      refine if_neg fun same => ?_
      rw [Command.ofCode?_eq_some_iff.mpr same] at known
      cases known
    have executed : d.afterWrite Register.cmd raw =
        (d.setRegister Register.cmd raw).setStatus (marked raw) .error := by
      change (d.setRegister Register.cmd raw).execute raw = _
      simp only [execute, known, plain]
    rw [executed]
    exact rejected_setStatus rfl rfl rfl
  | some c =>
    obtain rfl := Command.ofCode?_eq_some_iff.mp known
    simp only [Rejects, known] at rejects
    rw [afterWrite_cmd]
    cases c with
    | null => exact rejects.elim
    | readStart =>
      simp only [startRead, address_commanded, lines_commanded]
      rw [if_neg rejects]
      exact rejected_setStatus rfl rfl rfl
    | writeStart =>
      have buffered : (d.commanded .writeStart).writeFifo = d.writeFifo := rfl
      simp only [startWrite, address_commanded, lines_commanded, buffered]
      rw [if_neg rejects]
      exact rejected_setStatus rfl rfl rfl

/-- A rejection does not end the wait that it finds. -/
theorem Rejected.awaits {d d' : Device} {raw : UInt8} (rejected : d.Rejected raw d')
    (free : d.stuck = false) :
    d'.Awaits (marked raw) (d.wait (marked raw))
      (if d.wait (marked raw) = 0 then Status.error.code else Status.done.code) where
  free := rejected.stuck.trans free
  wait := rejected.wait
  register none := by rw [if_pos none, rejected.error]
  done some := if_neg some.ne'

/-- Until the next command, a rejected command shows as an error in every read of the register
that it marks if no wait was left on that register. If there was one, the reads show it to be busy
for as long as the wait has left, and then done. Memory is not changed in either case. -/
theorem rejected_commands_shown (d : Device) (raw : UInt8) (free : d.stuck = false)
    (rejects : d.Rejects raw) :
    let reg := marked raw
    let d' := d.afterAccess (.write Register.cmd raw)
    d'.memory = d.memory ∧
    (∀ later : List Access, (∀ a ∈ later, a.commands = false) →
      ((channel.readRegister reg).run (d'.afterAccesses later)).1 = .ok
        (if later.countP (·.reads reg) < d.wait reg then Status.busy.code
          else if d.wait reg = 0 then Status.error.code else Status.done.code)) ∧
    ((∀ later : List Access, (∀ a ∈ later, a.commands = false) →
      ((channel.readRegister reg).run (d'.afterAccesses later)).1 = .ok Status.error.code) ↔
        d.wait reg = 0) := by
  intro reg d'
  have status : IsStatus reg := isStatus_marked raw
  have rejected : d.Rejected raw d' := rejected_afterWrite rejects
  have shows : ∀ later : List Access, (∀ a ∈ later, a.commands = false) →
      ((channel.readRegister reg).run (d'.afterAccesses later)).1 = .ok
        (if later.countP (·.reads reg) < d.wait reg then Status.busy.code
          else if d.wait reg = 0 then Status.error.code else Status.done.code) := by
    intro later quiet
    have shown := ((rejected.awaits free).afterAccesses status quiet).shown status
    have answer : ((channel.readRegister reg).run (d'.afterAccesses later)).1 =
        .ok ((d'.afterAccesses later).readStatus reg).1 := by
      simp only [channel, readRegister, if_pos status.answers, ← status.afterRead]
      rfl
    rw [answer, shown]
    simp only [Nat.sub_pos_iff_lt]
    rfl
  refine ⟨rejected.memory, shows, fun always => ?_, fun none later quiet => ?_⟩
  · -- the first read already tells the two cases apart
    have first := always [] (List.forall_mem_nil _)
    rw [shows [] (List.forall_mem_nil _)] at first
    by_contra some
    rw [List.countP_nil, if_pos (Nat.pos_of_ne_zero some)] at first
    cases first
  · rw [shows later quiet, if_neg (by omega), if_pos none]

/-- A fresh device carries out a write that takes one read to finish. A second start finds nothing
buffered and is rejected, but the reads that follow it see the first one through. -/
theorem rejected_commands_shown_pending :
    let fresh : Device := { latency := 1 }
    let begun := fresh.afterAccesses [.writeBulk (List.replicate 16 0x11),
      .write Register.cmd Command.writeStart.code]
    let d' := begun.afterAccess (.write Register.cmd Command.writeStart.code)
    ((channel.readRegister Register.writeStatus).run d').1 = .ok Status.busy.code ∧
    ((channel.readRegister Register.writeStatus).run
      (d'.afterAccesses [.read Register.writeStatus none])).1 = .ok Status.done.code := by
  intro fresh begun d'
  have free : begun.stuck = false := by decide +kernel
  have wait : begun.wait Register.writeStatus = 1 := by decide +kernel
  have rejects : begun.Rejects Command.writeStart.code := by
    have short : begun.writeFifo.size ≠ begun.lines * lineBytes := by decide +kernel
    exact fun whole => short whole.2
  obtain ⟨-, shows, -⟩ := rejected_commands_shown begun Command.writeStart.code free rejects
  have reg : marked Command.writeStart.code = Register.writeStatus := rfl
  rw [reg, wait] at shows
  exact ⟨shows [] (by simp), shows [.read Register.writeStatus none] (by simp [Access.commands])⟩

end Device

end LineBridge

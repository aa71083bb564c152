import Mathlib
import LineBridge.Proofs.DeviceSteps

/-! Waiting for a simulated bridge. Each read of a pending status brings it one read closer to
done, and each read of a withheld byte count brings the count closer; neither touches memory,
buffers or logs. A status counts as done only when nothing is pending behind it. -/

namespace LineBridge.Device

/-- `d'` is `d` but for what reads of the status registers change. -/
def Watched (d d' : Device) : Prop :=
  ∃ registers statusWait writeStatusWait,
    d' = { d with registers, statusWait, writeStatusWait }

theorem Watched.refl (d : Device) : d.Watched d := ⟨_, _, _, rfl⟩

theorem Watched.trans {a b c : Device} (first : a.Watched b) (last : b.Watched c) :
    a.Watched c := by
  obtain ⟨r, s, w, rfl⟩ := first
  obtain ⟨r', s', w', rfl⟩ := last
  exact ⟨r', s', w', rfl⟩

theorem Watched.keeps {d d' : Device} (h : d.Watched d') : d.Keeps d' := by
  obtain ⟨r, s, w, rfl⟩ := h
  exact ⟨rfl, rfl, rfl, rfl, rfl⟩

theorem Watched.readFifo {d d' : Device} (h : d.Watched d') : d'.readFifo = d.readFifo := by
  obtain ⟨r, s, w, rfl⟩ := h
  rfl

theorem Watched.countWait {d d' : Device} (h : d.Watched d') : d'.countWait = d.countWait := by
  obtain ⟨r, s, w, rfl⟩ := h
  rfl

def IsStatus (reg : UInt8) : Prop := reg = Register.status ∨ reg = Register.writeStatus

theorem IsStatus.answers {reg : UInt8} (status : IsStatus reg) : Answers reg := by
  rcases status with rfl | rfl <;> decide

theorem IsStatus.afterRead {reg : UInt8} (status : IsStatus reg) (d : Device) :
    d.afterRead reg = d.readStatus reg := if_pos status

theorem wait_setWait (d : Device) (reg : UInt8) (reads : Nat) :
    (d.setWait reg reads).wait reg = reads := by
  unfold setWait wait
  split <;> rfl

theorem watched_setWait (d : Device) (reg : UInt8) (reads : Nat) :
    d.Watched (d.setWait reg reads) := by
  unfold setWait
  split <;> exact ⟨_, _, _, rfl⟩

theorem watched_setStatus (d : Device) (reg : UInt8) (status : Status) :
    d.Watched (d.setStatus reg status) := ⟨_, _, _, rfl⟩

theorem readStatus_of_stuck {d : Device} (stuck : d.stuck = true) (reg : UInt8) :
    d.readStatus reg = (Status.busy.code, d) := if_pos stuck

theorem readStatus_of_ready {d : Device} (free : d.stuck = false) {reg : UInt8}
    (ready : d.wait reg = 0) : d.readStatus reg = (d.register reg, d) := by
  simp only [readStatus, free, Bool.false_eq_true, if_false, ready]

/-- A pending status reads busy, and is one read closer afterwards. -/
theorem readStatus_of_pending {d : Device} (free : d.stuck = false) {reg : UInt8}
    (status : IsStatus reg) (pending : 0 < d.wait reg) :
    (d.readStatus reg).1 = Status.busy.code ∧ d.Watched (d.readStatus reg).2 ∧
      (d.readStatus reg).2.wait reg = d.wait reg - 1 ∧ (d.readStatus reg).2.Ripe reg := by
  simp only [readStatus, free, Bool.false_eq_true, if_false]
  obtain ⟨reads, rise⟩ := Nat.exists_eq_succ_of_ne_zero (Nat.ne_of_gt pending)
  cases reads with
  | zero =>
    have last : ((d.setWait reg 0).setStatus reg .done).wait reg = 0 := d.wait_setWait reg 0
    simp only [rise]
    refine ⟨trivial, (d.watched_setWait reg 0).trans (watched_setStatus _ reg .done), last, ?_⟩
    intro
    exact (register_setRegister _ status.answers _ _).trans (if_pos rfl)
  | succ reads =>
    simp only [rise]
    refine ⟨trivial, d.watched_setWait reg _, d.wait_setWait reg _, ?_⟩
    intro finished
    rw [wait_setWait] at finished
    omega

theorem readStatus_eq_done_iff {d : Device} {reg : UInt8} (status : IsStatus reg) :
    (d.readStatus reg).1 = Status.done.code ↔
      d.stuck = false ∧ d.wait reg = 0 ∧ d.register reg = Status.done.code := by
  have differ : Status.busy.code ≠ Status.done.code := by decide
  cases free : d.stuck with
  | true => simp [readStatus_of_stuck free, differ]
  | false =>
    rcases Nat.eq_zero_or_pos (d.wait reg) with ready | pending
    · simp [readStatus_of_ready free ready, ready]
    · simp [(readStatus_of_pending free status pending).1, differ, Nat.ne_of_gt pending]

/-- `d'` is `d` after a number of reads of one status register. -/
structure Polled (d : Device) (reg : UInt8) (made : Nat) (d' : Device) : Prop where
  watched : d.Watched d'
  wait : d.stuck = false → d'.wait reg = d.wait reg - made
  ripe : d.Ripe reg → d'.Ripe reg
  same : d.wait reg = 0 → d' = d

theorem Polled.refl (d : Device) (reg : UInt8) : d.Polled reg 0 d :=
  ⟨.refl d, fun _ => rfl, id, fun _ => rfl⟩

theorem Polled.next {d d' : Device} {reg : UInt8} (status : IsStatus reg) {made : Nat}
    (h : d.Polled reg made d') : d.Polled reg (made + 1) (d'.readStatus reg).2 := by
  have stuck : d'.stuck = d.stuck := h.watched.keeps.stuck
  cases free : d'.stuck with
  | true =>
    rw [readStatus_of_stuck free]
    exact { h with wait := fun no => absurd (free ▸ stuck ▸ no) (by decide) }
  | false =>
    have left := h.wait (stuck ▸ free)
    rcases Nat.eq_zero_or_pos (d'.wait reg) with ready | pending
    · rw [readStatus_of_ready free ready]
      exact { h with wait := fun _ => by change d'.wait reg = _; omega }
    · obtain ⟨-, watched, wait, ripe⟩ := readStatus_of_pending free status pending
      exact {
        watched := h.watched.trans watched
        wait := fun _ => by omega
        ripe := fun _ => ripe
        same := fun zero => by omega }

/-- `d'` is `d` but for what reads of the byte count change. -/
def Counted (d : Device) (made : Nat) (d' : Device) : Prop :=
  ∃ countWait countHidden, d' = { d with countWait, countHidden } ∧
    (d.reportedCount ≠ 0 → countWait = d.countWait - made)

theorem Counted.refl (d : Device) : d.Counted 0 d := ⟨_, _, rfl, fun _ => rfl⟩

theorem Counted.keeps {d d' : Device} {made : Nat} (h : d.Counted made d') : d.Keeps d' := by
  obtain ⟨w, c, rfl, -⟩ := h
  exact ⟨rfl, rfl, rfl, rfl, rfl⟩

theorem Counted.readFifo {d d' : Device} {made : Nat} (h : d.Counted made d') :
    d'.readFifo = d.readFifo := by
  obtain ⟨w, c, rfl, -⟩ := h
  rfl

/-- The two halves of the byte count, read one after the other, withhold the count together or
give it together. -/
theorem Counted.pair {d d' : Device} {made : Nat} (h : d.Counted made d') :
    let low := d'.readCountLo
    d.Counted (made + 1) low.2 ∧
      joinBytes low.1 low.2.readCountHi =
        if 0 < d'.countWait ∧ d.reportedCount ≠ 0 then 0 else d.reportedCount := by
  obtain ⟨w, c, rfl, left⟩ := h
  have same : reportedCount { d with countWait := w, countHidden := c } = d.reportedCount := rfl
  simp only [readCountLo, same]
  by_cases withheld : 0 < w ∧ d.reportedCount ≠ 0
  · simp only [if_pos withheld]
    refine ⟨⟨w - 1, true, rfl, fun some => ?_⟩, ?_⟩
    · rw [left some]
      omega
    · rw [readCountHi, if_pos rfl]
      decide
  · simp only [if_neg withheld]
    refine ⟨⟨w, false, rfl, fun some => ?_⟩, joinBytes_low_high _⟩
    have spent : w = 0 := by
      by_contra more
      exact withheld ⟨Nat.pos_of_ne_zero more, some⟩
    rw [left some] at spent ⊢
    omega

end LineBridge.Device

import Mathlib
import LineBridge.Host.Transaction
import LineBridge.Ledger
import LineBridge.Proofs.Addressing
import LineBridge.Proofs.Waiting

/-! The stages of a transaction on a channel that fronts a device, from whatever state the device
is in. A stage that fails on a lossless channel was a wait, and it has spent all that it may. -/

namespace LineBridge

open LineBridge.Action (Ends)

variable {σ α : Type} {view : σ → Device} {lossy : Prop}

namespace Host

/-- What no transaction changes in a host. -/
structure Outline where
  limits : PollLimits
  idleCycles : UInt32
  observed : Bool
  batches : List Batch

def outline (h : Host σ) : Outline := ⟨h.limits, h.idleCycles, h.observed, batchesOf h.events⟩

/-- A host with a given outline whose link is in `P`. -/
def At (o : Outline) (P : σ → Prop) (h : Host σ) : Prop := h.outline = o ∧ P h.state

theorem run_onLink {α : Type} (x : Action σ α) (h : Host σ) :
    (onLink x).run h = ((x.run h.state).1, { h with state := (x.run h.state).2 }) := rfl

theorem onLink_bind {α β : Type} (x : Action σ α) (f : α → Action σ β) :
    onLink (x >>= f) = onLink x >>= fun a => onLink (f a) := by
  funext h
  change (onLink (x >>= f)).run h = (onLink x >>= fun a => onLink (f a)).run h
  rw [Action.run_bind, run_onLink, run_onLink, Action.run_bind]
  rcases x.run h.state with ⟨_ | a, s⟩ <;> rfl

section Rules

variable {o : Outline} {P : σ → Prop} {E : Fault → Host σ → Prop}

theorem onLink_ends {x : Action σ α} {Q : α → σ → Prop} {E : Fault → σ → Prop}
    (h : Ends P x Q E) :
    Ends (At o P) (onLink x) (fun a => At o (Q a)) (fun e => At o (E e)) :=
  Ends.on h (fun _ _ => rfl) (fun _ _ same => same)

theorem setInFlight_ends (addr : Option Addr) :
    Ends (At o P) (setInFlight addr) (fun _ => At o P) E := Ends.modify fun _ h => h

theorem now_ends (link : Link σ) : Ends (At o P) (now link) (fun _ => At o P) E := fun _ h => h

theorem endPhase_ends (link : Link σ) (phase : Phase) (started : Nat) :
    Ends (At o P) (endPhase link phase started) (fun _ => At o P) E := by
  apply Ends.bind (now_ends link)
  intro t
  refine Ends.modify fun h at_ => ?_
  by_cases observed : h.observed = true
  · rw [if_pos observed]
    exact at_
  · rw [if_neg observed]
    exact at_

/-- What has been proved of a link in front of every single device holds of all of them. -/
theorem each_device {R : Device → Prop} {x : Action (Host σ) α} {Q : α → Host σ → Prop}
    (h : ∀ d, R d → Ends (At o (view · = d)) x Q E) : Ends (At o fun s => R (view s)) x Q E :=
  fun s before => h (view s.state) before.2 s ⟨before.1, rfl⟩

end Rules

section Stages

variable {channel : Channel σ} (fronts : channel.Fronts view lossy) {o : Outline}
include fronts

theorem program_ends (addr : Addr) (field : UInt16) (d : Device) :
    Ends (At o (view · = d)) (program channel.link addr field)
      (fun _ => At o (view · = d.stored (Device.programming addr field)))
      (fun _ => At o fun s => lossy ∧ d.Rewritten (view s)) := by
  apply Ends.bind (setInFlight_ends (some addr))
  intro _
  apply Ends.bind (onLink_ends (fronts.writeEach_ends
    (fun _ member => Device.plain_of_mem_addressWrites member) d))
  intro _
  have rest := fronts.writePair_ends Register.lenLo (by decide) (by decide) field
    (d.stored (Channel.addressWrites addr))
  apply Ends.weaken (onLink_ends rest) (fun _ h => h)
  · intro _ h after
    exact ⟨after.1, after.2.trans (d.stored_append _ _).symm⟩
  · intro _ h after
    exact ⟨after.1, after.2.1, (d.rewritten_stored _).trans after.2.2⟩

theorem command_ends (c : Command) (d : Device) :
    Ends (At o (view · = d)) (command channel.link c)
      (fun _ => At o (view · = d.afterWrite Register.cmd c.code))
      (fun _ => At o fun s => lossy ∧ view s = d) :=
  onLink_ends (fronts.writeRegister_ends (by decide) c.code d)

/-- A wait for done ends in a fault only after it has spent its reads. -/
theorem waitDone_ends {reg : UInt8} (status : Device.IsStatus reg) (addr : Addr) (d : Device) :
    Ends (At o (view · = d)) (waitDone channel.link reg addr)
      (fun _ => At o fun s => d.Watched (view s) ∧ d.stuck = false ∧ d.Ripe reg ∧
        (view s).wait reg = 0 ∧ (view s).register reg = Status.done.code)
      (fun _ => At o fun s => d.Watched (view s) ∧ (lossy ∨
        (channel.InTime o.limits → d.stuck = false → d.Ripe reg →
          o.limits.reads ≤ d.wait reg))) := by
  apply Ends.get_then
  intro h before
  have limits : h.limits = o.limits := congrArg Outline.limits before.1
  rw [limits]
  apply Ends.bind (Ends.onFault (onLink_ends (fronts.pollDone_ends status o.limits d))
    fun _ _ after => ⟨after.1, after.2.2, .inl after.2.1⟩)
  intro outcome
  cases outcome with
  | ready value attempts => exact Ends.pure fun _ after => after
  | exhausted last attempts =>
    simp only
    split
    · exact Ends.fail fun _ after => ⟨after.1, after.2.1, .inr after.2.2⟩
    · exact Ends.fail fun _ after => ⟨after.1, after.2.1, .inr after.2.2⟩

/-- Waiting for the count of what is buffered ends in a fault only if the count is skewed or
withheld for longer than the wait may take. -/
theorem waitCount_ends (addr : Addr) {expected : Nat} (positive : 0 < expected)
    (fits : expected < UInt16.size) (d : Device) :
    Ends (At o (view · = d)) (waitCount channel.link addr expected)
      (fun _ => At o fun s => (∃ reads, d.Counted reads (view s)) ∧
        d.reportedCount = UInt16.ofNat expected)
      (fun _ => At o fun s => (∃ reads, d.Counted reads (view s)) ∧ (lossy ∨
        (channel.InTime o.limits → d.reportedCount = UInt16.ofNat expected →
          o.limits.reads ≤ d.countWait))) := by
  have exact : (UInt16.ofNat expected).toNat = expected := Nat.mod_eq_of_lt fits
  have target : 0 < UInt16.ofNat expected := UInt16.lt_iff_toNat_lt.mpr (exact.symm ▸ positive)
  apply Ends.get_then
  intro h before
  have limits : h.limits = o.limits := congrArg Outline.limits before.1
  rw [limits]
  apply Ends.bind (Ends.onFault (onLink_ends (fronts.pollCount_ends target o.limits d))
    fun _ _ after => ⟨after.1, after.2.2, .inl after.2.1⟩)
  intro outcome
  simp only
  by_cases full : outcome.value.toNat = expected
  · rw [if_pos full]
    refine Ends.pure fun _ after => ⟨after.1, after.2.1, ?_⟩
    have same : outcome.value = UInt16.ofNat expected := UInt16.toNat_inj.mp (full.trans exact.symm)
    rcases after.2.2 with shown | ⟨none, -⟩
    · exact shown.symm.trans same
    · exact absurd (same.symm.trans none ▸ target) (by decide)
  have withheld : outcome.value = d.reportedCount ∨ outcome.value = 0 ∧
      (channel.InTime o.limits → d.reportedCount ≠ 0 → o.limits.reads ≤ d.countWait) →
      channel.InTime o.limits → d.reportedCount = UInt16.ofNat expected →
      o.limits.reads ≤ d.countWait := by
    intro cause inTime right
    rcases cause with shown | ⟨-, late⟩
    · rw [shown, right] at full
      exact absurd exact full
    · exact late inTime fun none => absurd (none ▸ right ▸ target) (by decide)
  rw [if_neg full]
  split
  · exact Ends.fail fun _ after => ⟨after.1, after.2.1, .inr (withheld after.2.2)⟩
  · exact Ends.fail fun _ after => ⟨after.1, after.2.1, .inr (withheld after.2.2)⟩

/-- All that is buffered is drained in one access. -/
theorem bulkRead_ends {len : Nat} (positive : 0 < len) (fits : len ≤ maxBulkBytes) (d : Device)
    (buffered : d.readFifo.length = len) :
    Ends (At o (view · = d)) (bulkRead channel.link len)
      (fun data => At o fun s => data = d.readFifo ∧ d.Keeps (view s))
      (fun _ => At o fun s => lossy ∧ d.Keeps (view s)) := by
  have checked : checkBulk len = .ok (UInt16.ofNat len) := checkBulk_eq_ok_iff.mpr ⟨fits, rfl⟩
  apply Ends.bind (Q := fun _ => At o (view · = d))
  · rw [checked]
    exact Ends.pure fun _ before => before
  · intro field
    rw [if_neg (Nat.ne_of_gt positive)]
    apply Ends.bind (Ends.onFault (onLink_ends
      (fronts.writePair_ends Register.bulkLenLo (by decide) (by decide) field d))
      fun _ _ after => ⟨after.1, after.2.1, after.2.2.keeps⟩)
    intro _
    have rewritten := d.rewritten_stored
      [(Register.bulkLenLo, lowByte field), (Register.bulkLenLo + 1, highByte field)]
    generalize d.stored _ = d₁ at rewritten
    have buffered₁ : d₁.readFifo.length = len := rewritten.readFifo ▸ buffered
    have emptied : d.Keeps { d₁ with readFifo := [] } :=
      rewritten.keeps.trans ⟨rfl, rfl, rfl, rfl, rfl⟩
    apply Ends.bind (Ends.onFault (onLink_ends (fronts.readBulk_ends d₁ buffered₁))
      fun _ _ after => ⟨after.1, after.2.1, after.2.2 ▸ rewritten.keeps⟩)
    intro data
    apply Ends.of_eq
    intro h after
    have whole : data.length = len := after.2.1 ▸ buffered₁
    rw [if_pos whole]
    refine Ends.pure fun h' same => ?_
    rw [same]
    exact ⟨after.1, after.2.1.trans rewritten.readFifo, after.2.2 ▸ emptied⟩

theorem bulkWrite_ends {data : Bytes} (positive : 0 < data.length)
    (fits : data.length ≤ maxBulkBytes) (d : Device) :
    Ends (At o (view · = d)) (bulkWrite channel.link data)
      (fun _ => At o (view · = d.streamed data))
      (fun _ => At o fun s => lossy ∧ d.Keeps (view s)) := by
  have checked : checkBulk data.length = .ok (UInt16.ofNat data.length) :=
    checkBulk_eq_ok_iff.mpr ⟨fits, rfl⟩
  have some : ¬data.isEmpty = true := by
    rw [List.isEmpty_iff_length_eq_zero]
    exact Nat.ne_of_gt positive
  rw [bulkWrite, checked]
  apply Ends.ofExcept_ok
  rw [if_neg some]
  apply Ends.bind (Ends.onFault (onLink_ends
    (fronts.writePair_ends Register.bulkLenLo (by decide) (by decide) _ d))
    fun _ _ after => ⟨after.1, after.2.1, after.2.2.keeps⟩)
  intro _
  refine Ends.weaken (onLink_ends (fronts.writeBulk_ends data _)) (fun _ h => h)
    (fun _ _ after => after) ?_
  exact fun _ h after => ⟨after.1, after.2.1, after.2.2 ▸ (d.rewritten_stored _).keeps⟩

/-- Clearing the command leaves the device idle, with nothing to report. -/
theorem finish_ends (d : Device) :
    Ends (At o (view · = d)) (finish channel.link)
      (fun _ => At o fun s => d.Keeps (view s) ∧ (view s).Cleared)
      (fun _ => At o fun s => lossy ∧ d.Keeps (view s)) := by
  apply Ends.bind (Ends.onFault (command_ends fronts .null d)
    fun _ _ after => ⟨after.1, after.2.1, after.2.2 ▸ .refl d⟩)
  intro _
  have keeps := d.keeps_afterWrite_null
  have cleared := d.cleared_afterWrite_null
  generalize d.afterWrite Register.cmd Command.null.code = d₁ at keeps cleared
  apply Ends.get_then
  intro h before
  split
  · apply Ends.bind (Ends.onFault (onLink_ends (fronts.idleClock_ends h.idleCycles d₁))
      fun _ _ after => ⟨after.1, after.2.1, after.2.2 ▸ keeps⟩)
    intro _
    refine Ends.weaken (setInFlight_ends none) (fun _ h => h) ?_ (fun _ _ after => after)
    intro _ h after
    obtain ⟨outlined, same⟩ := after
    exact ⟨outlined, same ▸ keeps.trans ⟨rfl, rfl, rfl, rfl, rfl⟩, same ▸ { cleared with }⟩
  · refine Ends.weaken (setInFlight_ends none) (fun _ h => h) ?_ (fun _ _ after => after)
    intro _ h after
    obtain ⟨outlined, same⟩ := after
    exact ⟨outlined, same ▸ keeps, same ▸ cleared⟩

end Stages

end Host

end LineBridge

import Mathlib
import LineBridge.Proofs.Fronting
import LineBridge.Proofs.Polls

/-! Waits on a channel that fronts a device. On a device that is not stuck a status poll that is in
time runs out only if there are more reads to wait for than it may make, and so does a poll of the
byte count that asks for what the device holds. -/

namespace LineBridge

open LineBridge.Action (Ends)

variable {σ α : Type} {view : σ → Device} {lossy : Prop}

/-- The waits of a transaction are never out of time before their last read. -/
structure Channel.InTime (channel : Channel σ) (limits : PollLimits) : Prop where
  positive : 0 < limits.timeout
  status : ∀ reg, Device.IsStatus reg → Punctual channel.clock limits (channel.readRegister reg)
  count : Punctual channel.clock limits (channel.readPair Register.countLo)

theorem Device.inTime {limits : PollLimits} (positive : 0 < limits.timeout) :
    channel.InTime limits where
  positive := positive
  status _ _ := punctual_still positive
  count := punctual_still positive

namespace Channel.Fronts

variable {channel : Channel σ} (fronts : channel.Fronts view lossy)
include fronts

/-- A status that turns out done is done, and was going to be from the start. -/
theorem pollDone_ends {reg : UInt8} (status : Device.IsStatus reg) (limits : PollLimits)
    (d : Device) :
    Ends (view · = d) (channel.pollRegister reg Status.done.code limits)
      (fun outcome s => d.Watched (view s) ∧ match outcome with
        | .ready .. => d.stuck = false ∧ d.Ripe reg ∧ (view s).wait reg = 0 ∧
          (view s).register reg = Status.done.code
        | .exhausted .. => channel.InTime limits → d.stuck = false → d.Ripe reg →
          limits.reads ≤ d.wait reg)
      (fun _ s => lossy ∧ d.Watched (view s)) := by
  have before : ∀ s, view s = d → d.Polled reg 0 (view s) := fun s same => same ▸ .refl d reg
  refine Ends.weaken (poll_ends (I := fun made s => d.Polled reg made (view s)) ?_ ?_) before
    (fun _ _ after => after) (fun _ _ after => after)
  · intro made room
    apply Ends.of_eq
    intro s₀ polled
    refine (fronts.readRegister_ends status.answers (view s₀)).weaken
      (fun s same => same ▸ rfl) ?_ ?_
    · intro value s after
      obtain ⟨rfl, seen⟩ := after
      rw [status.afterRead] at seen ⊢
      have next := polled.next status
      rw [← seen] at next
      split
      · next taken =>
        have finished := (Device.readStatus_eq_done_iff status).mp (eq_of_beq taken)
        obtain ⟨free, ready, shown⟩ := finished
        have kept : view s = view s₀ := by
          rw [seen, Device.readStatus_of_ready free ready]
        refine ⟨next.watched, ?_, ?_, ?_, ?_⟩
        · rw [← polled.watched.keeps.stuck]
          exact free
        · intro atOnce
          rw [← polled.same atOnce]
          exact shown
        · rw [kept]
          exact ready
        · rw [kept]
          exact shown
      · next refused =>
        refine ⟨next, fun spent => ⟨next.watched, fun inTime free ripe => ?_⟩⟩
        have free' : (view s₀).stuck = false := polled.watched.keeps.stuck.trans free
        -- had nothing been pending, the status would have read done
        have pending : (view s₀).wait reg ≠ 0 := by
          intro ready
          have shown := polled.ripe ripe ready
          have done := (Device.readStatus_eq_done_iff status).mpr ⟨free', ready, shown⟩
          rw [done] at refused
          exact refused (beq_self_eq_true _)
        have left := polled.wait free
        rcases spent with last | late
        · omega
        · exact absurd (inTime.status reg status) late
    · intro _ s ⟨lost, same⟩
      exact ⟨lost, same ▸ polled.watched⟩
  · intro made length s polled
    rw [fronts.pause]
    exact polled

theorem readCount_ends (d : Device) {made : Nat} {d₀ : Device} (counted : d₀.Counted made d) :
    Ends (view · = d) (channel.readPair Register.countLo)
      (fun count s => d₀.Counted (made + 1) (view s) ∧
        count = if 0 < d.countWait ∧ d₀.reportedCount ≠ 0 then 0 else d₀.reportedCount)
      (fun _ s => lossy ∧ ∃ reads, d₀.Counted reads (view s)) := by
  have pair := counted.pair
  have low : Device.Answers Register.countLo := by decide
  have high : Device.Answers (Register.countLo + 1) := by decide
  rw [channel.readPair_eq (by decide)]
  apply Ends.bind
  · exact (fronts.readRegister_ends low d).onFault fun _ _ h => ⟨h.1, made, h.2 ▸ counted⟩
  · intro lowByte
    apply Ends.of_eq
    intro s₀ after
    obtain ⟨rfl, seen⟩ := after
    apply Ends.bind
    · refine (fronts.readRegister_ends high (view s₀)).weaken (fun s same => same ▸ rfl)
        (fun _ _ h => h) (fun _ _ h => ⟨h.1, made + 1, ?_⟩)
      rw [h.2, seen]
      exact pair.1
    · intro highByte
      refine Ends.pure fun s h => ?_
      obtain ⟨rfl, same⟩ := h
      have kept : view s = view s₀ := same
      rw [kept, seen]
      exact pair

/-- Polling for a count ends with the count that the device reports, or with nothing if it is
withheld for longer than the poll may take. -/
theorem pollCount_ends {target : UInt16} (positive : 0 < target) (limits : PollLimits)
    (d : Device) :
    Ends (view · = d) (poll channel.clock limits (channel.readPair Register.countLo) (target ≤ ·))
      (fun outcome s => (∃ reads, d.Counted reads (view s)) ∧
        (outcome.value = d.reportedCount ∨ outcome.value = 0 ∧
          (channel.InTime limits → d.reportedCount ≠ 0 → limits.reads ≤ d.countWait)))
      (fun _ s => lossy ∧ ∃ reads, d.Counted reads (view s)) := by
  have before : ∀ s, view s = d → d.Counted 0 (view s) := fun s same => same ▸ .refl d
  refine Ends.weaken (poll_ends (I := fun made s => d.Counted made (view s)) ?_ ?_) before
    (fun _ _ after => after) (fun _ _ after => after)
  · intro made room
    apply Ends.of_eq
    intro s₀ counted
    refine (fronts.readCount_ends (view s₀) counted).weaken (fun s same => same ▸ rfl) ?_
      (fun _ _ after => after)
    intro count s after
    obtain ⟨next, shown⟩ := after
    by_cases withheld : 0 < (view s₀).countWait ∧ d.reportedCount ≠ 0
    · rw [if_pos withheld] at shown
      subst shown
      have short : ¬decide (target ≤ 0) = true := by
        rw [decide_eq_true_eq, UInt16.not_le]
        exact positive
      rw [if_neg short]
      refine ⟨next, fun spent => ⟨⟨_, next⟩, .inr ⟨rfl, fun inTime some => ?_⟩⟩⟩
      obtain ⟨w, c, same, left⟩ := counted
      have wait : (view s₀).countWait = d.countWait - made := by
        rw [same]
        exact left some
      rcases spent with last | late
      · omega
      · exact absurd inTime.count late
    · rw [if_neg withheld] at shown
      split
      · exact ⟨⟨_, next⟩, .inl shown⟩
      · exact ⟨next, fun _ => ⟨⟨_, next⟩, .inl shown⟩⟩
  · intro made length s counted
    rw [fronts.pause]
    exact counted

end Channel.Fronts

end LineBridge

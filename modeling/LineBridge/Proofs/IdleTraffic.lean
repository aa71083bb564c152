import Mathlib
import LineBridge.Proofs.AdapterFrames
import LineBridge.Spi.Link

/-! Idling over an SPI link, on any stream at all. What is written is clock commands and nothing
else, in one way to read them, with exactly as many clocks as were asked for. -/

namespace LineBridge.Spi

variable {σ : Type}

/-- Whole groups come first, as few commands as can carry them, and the rest takes one more. -/
theorem length_idleSteps (cycles : Nat) :
    (idleSteps cycles).length =
      (cycles / 8 + 65535) / 65536 + if cycles % 8 = 0 then 0 else 1 := by
  have groups : (counts (cycles / 8)).length = (cycles / 8 + 65535) / 65536 := length_counts _
  rw [idleSteps, List.length_append, List.length_map, groups]
  split_ifs <;> rfl

theorem idleCommands_eq_nil_iff (cycles : Nat) : idleCommands cycles = [] ↔ cycles = 0 := by
  constructor
  · intro none
    have total := sum_idleSteps cycles
    -- a step that was there would have left bytes behind
    cases steps : idleSteps cycles with
    | nil => simpa [steps] using total.symm
    | cons step rest =>
      have written := idleCommands_eq cycles
      rw [none, steps, List.flatMap_cons] at written
      have silent : step.bytes = [] := (List.append_eq_nil_iff.mp written.symm).1
      have member : step ∈ idleSteps cycles := steps ▸ List.mem_cons_self
      rcases mem_idleSteps member with ⟨count, rfl, -⟩ | ⟨count, rfl, -⟩ <;> cases silent
  · rintro rfl
    rw [idleCommands_eq, idleSteps, Nat.zero_div, counts_zero, if_pos rfl]
    rfl

/-- Idling for no clocks at all leaves the stream alone. For any other number the bytes go out in
one write, and decode to clock commands alone: their clocks add up to the number, no command
for groups of eight carries more than 16 bits can say, one for single clocks at most seven, and
there are as few of them as that allows. -/
theorem idle_clock_exact (stream : ByteStream σ) (clock : Clock σ) (s : Settings)
    (cycles : UInt32) :
    ∃ (bytes : Bytes) (steps : List BusStep),
      (link stream clock s).idleClock cycles =
        (if cycles = 0 then pure () else do stream.write bytes; stream.flush) ∧
      (bytes = [] ↔ cycles = 0) ∧ Decodes bytes steps ∧
      (steps.map BusStep.idleClocks).sum = cycles.toNat ∧
      (∀ step ∈ steps,
        (∃ count, step = .clockGroups count ∧ 1 ≤ count ∧ count ≤ 65536) ∨
          ∃ count, step = .clockBits count ∧ 1 ≤ count ∧ count ≤ 7) ∧
      steps.length = (cycles.toNat / 8 + 65535) / 65536 +
        if cycles.toNat % 8 = 0 then 0 else 1 := by
  have zero : cycles.toNat = 0 ↔ cycles = 0 := by
    rw [← UInt32.toNat_inj]
    rfl
  refine ⟨idleCommands cycles.toNat, idleSteps cycles.toNat, ?_,
    (idleCommands_eq_nil_iff _).trans zero, ?_, sum_idleSteps _, fun _ => mem_idleSteps,
    length_idleSteps _⟩
  · change (if cycles = 0 then pure () else stream.send (idleCommands cycles.toNat)) = _
    split_ifs with none
    · rfl
    · have some : idleCommands cycles.toNat ≠ [] :=
        fun empty => none (zero.mp ((idleCommands_eq_nil_iff _).mp empty))
      rw [ByteStream.send, if_neg (by simpa using some)]
  · rw [idleCommands_eq]
    exact decodes_flatMap sized_idleSteps

end LineBridge.Spi

import Mathlib
import LineBridge.Device.Channel
import LineBridge.Proofs.Addressing
import LineBridge.Transfer

/-! The end of a request over the full width of its length. The end is formed in 64 bits from an
address of 32 and a length of 64, and there are lengths for which the sum leaves the word: then
there is neither an end nor an error to report. The check is exact for every other length, and
whatever it does not let through has not touched the link. -/

namespace LineBridge

variable {σ : Type} {addr : Addr} {len : Nat}

namespace Addr

/-- Why a request is not let through, when it passes the end of the space. -/
def pastEnd (addr : Addr) (len : Nat) : Fault :=
  if addr.val.toNat + len < UInt64.size then .outOfRange addr.val.toNat len else .overflow

theorem requestEnd_inside (inside : addr.val.toNat + len ≤ spaceBytes) :
    addr.requestEnd len = .ok (UInt64.ofNat (addr.val.toNat + len)) := by
  rw [requestEnd_eq (inside.trans_lt (by decide)), if_neg (not_lt.mpr inside)]

theorem requestEnd_past (past : spaceBytes < addr.val.toNat + len) :
    addr.requestEnd len = .error (addr.pastEnd len) := by
  by_cases formed : addr.val.toNat + len < UInt64.size
  · rw [requestEnd_eq formed, if_pos past, pastEnd, if_pos formed]
  · rw [requestEnd, if_pos (not_lt.mp formed), pastEnd, if_neg formed]

/-- Of the lengths of 64 bits the sum leaves the word for the last ones only, and from the first
address for none. -/
theorem pastEnd_eq_overflow_iff :
    addr.pastEnd len = .overflow ↔ UInt64.size - len ≤ addr.val.toNat := by
  unfold pastEnd
  split_ifs with formed
  · simp
    omega
  · simp
    omega

example : requestEnd ⟨0x10⟩ (2 ^ 64 - 1) = .error .overflow := by decide

end Addr

namespace Memory

variable (link : Link σ) (past : spaceBytes < addr.val.toNat + len) (m : Memory σ)
include past

theorem run_readReported_past :
    (readReported link addr len).run m = (.error (addr.pastEnd len), m) := by
  have some : len ≠ 0 := by
    have place : addr.val.toNat < spaceBytes := addr.val.toNat_lt_size
    omega
  simp only [readReported, if_neg some, Addr.requestEnd_past past]
  rfl

theorem run_read_past : (read link addr len).run m = (.error (addr.pastEnd len), m) := by
  rw [read, Action.run_bind_error (run_readReported_past link past m)]

end Memory

/-- The check of a range says whether it stays in the space, unless the sum leaves its word: then no
answer is given. Reads past the space end like the check, with nothing changed: they are refused as
far as there is a sum, and stop the program otherwise. -/
theorem ranges_checked_below_word (addr : Addr) (len : Nat) :
    (addr.requestEnd len =
      if addr.val.toNat + len ≤ spaceBytes then .ok (UInt64.ofNat (addr.val.toNat + len))
      else if addr.val.toNat + len < UInt64.size then .error (.outOfRange addr.val.toNat len)
      else .error .overflow) ∧
    (addr.requestEnd len = .error .overflow ↔ UInt64.size - len ≤ addr.val.toNat) ∧
    (spaceBytes < addr.val.toNat + len → ∀ {σ : Type} (link : Link σ) (m : Memory σ),
      let stopped : Fault :=
        if addr.val.toNat + len < UInt64.size then .outOfRange addr.val.toNat len else .overflow
      (Memory.read link addr len).run m = (.error stopped, m) ∧
        (Memory.readReported link addr len).run m = (.error stopped, m)) := by
  refine ⟨?_, ?_, fun past _ link m =>
    ⟨Memory.run_read_past link past m, Memory.run_readReported_past link past m⟩⟩
  · by_cases inside : addr.val.toNat + len ≤ spaceBytes
    · rw [if_pos inside, Addr.requestEnd_inside inside]
    · rw [if_neg inside, Addr.requestEnd_past (not_le.mp inside), Addr.pastEnd]
      split_ifs <;> rfl
  · by_cases inside : addr.val.toNat + len ≤ spaceBytes
    · have small : spaceBytes < UInt64.size := by decide
      rw [Addr.requestEnd_inside inside]
      simp
      omega
    · rw [Addr.requestEnd_past (not_le.mp inside), Except.error.injEq,
        Addr.pastEnd_eq_overflow_iff]

/-- From the same address, the longest length but 16 is refused and the longest has no end. -/
theorem ranges_checked_below_word_longest :
    Addr.requestEnd ⟨0x10⟩ (2 ^ 64 - 17) = .error (.outOfRange 0x10 (2 ^ 64 - 17)) ∧
    Addr.requestEnd ⟨0x10⟩ (2 ^ 64 - 1) = .error .overflow ∧
    ∀ m : Memory Device,
      (Memory.read Device.link ⟨0x10⟩ (2 ^ 64 - 17)).run m =
        (.error (.outOfRange 0x10 (2 ^ 64 - 17)), m) ∧
      (Memory.read Device.link ⟨0x10⟩ (2 ^ 64 - 1)).run m = (.error .overflow, m) := by
  have past : spaceBytes < (0x10 : UInt32).toNat + (2 ^ 64 - 17) ∧
      spaceBytes < (0x10 : UInt32).toNat + (2 ^ 64 - 1) := by decide
  obtain ⟨refused, -, reads⟩ := ranges_checked_below_word ⟨0x10⟩ (2 ^ 64 - 17)
  obtain ⟨-, stopped, reads'⟩ := ranges_checked_below_word ⟨0x10⟩ (2 ^ 64 - 1)
  refine ⟨?_, stopped.mpr (by decide), fun m => ⟨?_, ?_⟩⟩
  · rw [refused, if_neg (not_le.mpr past.1), if_pos (by decide)]
    rfl
  · rw [(reads past.1 Device.link m).1, if_pos (by decide)]
    rfl
  · rw [(reads' past.2 Device.link m).1, if_neg (by decide)]

end LineBridge

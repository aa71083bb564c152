import Mathlib
import LineBridge.Proofs.Moves

/-! Whole requests for bytes over a channel that fronts a device: a range that leaves the space
is refused before the link is touched, and any other range is read or written piece by piece. -/

namespace LineBridge.Memory

open LineBridge.Action (Ends)

variable {σ : Type} {view : σ → Device} {lossy : Prop} {t : TransferSettings} {o : Host.Outline}

/-- The account of pieces that have been moved. -/
def reportOf (moved : List (Addr × Piece)) : TransferReport := moved.foldl (fun r p => r.add p.2) {}

theorem requestEnd_of_spans {addr : Addr} {len : Nat} (spans : addr.Spans len) :
    addr.requestEnd len = .ok (UInt64.ofNat (addr.val.toNat + len)) := by
  rw [Addr.requestEnd_eq (Nat.lt_of_le_of_lt spans (by decide)), if_neg (Nat.not_lt.mpr spans)]

/-- No length up to the end of the space, from any address, leaves the 64-bit word in which the
end is formed. -/
theorem formed_of_short {len : Nat} (short : len < spaceBytes) :
    len + spaceBytes ≤ UInt64.size := by
  simp only [spaceBytes, UInt32.size, UInt64.size] at short ⊢
  omega

theorem requestEnd_of_not_spans {addr : Addr} {len : Nat}
    (formed : len + spaceBytes ≤ UInt64.size) (outside : ¬addr.Spans len) :
    addr.requestEnd len = .error (.outOfRange addr.val.toNat len) := by
  have fits : addr.val.toNat + len < UInt64.size := by
    have place : addr.val.toNat < spaceBytes := addr.val.toNat_lt_size
    omega
  rw [Addr.requestEnd_eq fits, if_pos (Nat.not_le.mp outside)]

theorem not_spans_zero {addr : Addr} {len : Nat} (outside : ¬addr.Spans len) : len ≠ 0 := by
  intro same
  subst same
  exact outside (Nat.le_of_lt addr.val.toNat_lt)

theorem now_ends {link : Link σ} {P : Memory σ → Prop} {E : Fault → Memory σ → Prop} :
    Ends P (onHost (Host.now link)) (fun _ => P) E := fun _ before => before

section Refusals

variable {link : Link σ} {P : Memory σ → Prop} {addr : Addr}

theorem read_ends_of_not_spans {len : Nat} (formed : len + spaceBytes ≤ UInt64.size)
    (outside : ¬addr.Spans len) :
    Ends P (read link addr len) (fun _ _ => False)
      (fun e m => e = .outOfRange addr.val.toNat len ∧ P m) := by
  apply Ends.bind (Q := fun _ _ => False)
  · apply Ends.bind now_ends
    intro started
    rw [if_neg (not_spans_zero outside), requestEnd_of_not_spans formed outside]
    exact fun m before => ⟨rfl, before⟩
  · exact fun _ _ no => no.elim

theorem write_ends_of_not_spans {data : Bytes}
    (formed : data.length + spaceBytes ≤ UInt64.size) (outside : ¬addr.Spans data.length) :
    Ends P (write link addr data) (fun _ _ => False)
      (fun e m => e = .outOfRange addr.val.toNat data.length ∧ P m) := by
  have some : ¬data.isEmpty = true := by
    rw [List.isEmpty_iff_length_eq_zero]
    exact not_spans_zero outside
  apply Ends.bind now_ends
  intro started
  rw [if_neg some, requestEnd_of_not_spans formed outside]
  exact fun m before => ⟨rfl, before⟩

end Refusals

section Ranges

variable {channel : Channel σ} (fronts : channel.Fronts view lossy)
include fronts

theorem readReported_ends (addr : Addr) (len : Nat) (d : Device) :
    Ends (Holds t (Host.At o (view · = d))) (readReported channel.link addr len)
      (fun result => Holds t (Host.At (o.moved .read (pieces t.readBatchLines addr len)) fun s =>
        (result.1 = Flat.read d.memory.byteAt addr len ∧ ∃ elapsed,
          result.2 = { reportOf (pieces t.readBatchLines addr len) with elapsed := elapsed }) ∧
        d.AfterRead len (view s)))
      (fun _ => Holds t fun h => ∃ k, k < (pieces t.readBatchLines addr len).length ∧
        Host.At (o.moved .read ((pieces t.readBatchLines addr len).take k)) (fun s =>
          d.Keeps (view s) ∧ (t.readBatchLines ≤ maxBatchLines → addr.Spans len →
            Troubled lossy channel o.limits d)) h) := by
  apply Ends.bind now_ends
  intro started
  by_cases none : len = 0
  · subst none
    rw [if_pos rfl, pieces_zero]
    refine Ends.pure fun m ⟨same, outlined, there⟩ => ⟨same, outlined, ⟨rfl, 0, rfl⟩, ?_⟩
    rw [there]
    exact .refl d
  rw [if_neg none]
  apply Ends.bind (Q := fun _ => Holds t (Host.At o (view · = d)))
  · refine Ends.ofExcept (fun _ _ _ before => before) ?_
    intro _ refused m before
    obtain ⟨same, outlined, there⟩ := before
    refine ⟨same, 0, ?_, outlined, there ▸ .refl d, fun _ spans => ?_⟩
    · rw [pieces_of_ne_zero _ _ none]
      exact Nat.succ_pos _
    · rw [requestEnd_of_spans spans] at refused
      cases refused
  intro _
  apply settings_ends
  apply Ends.bind (readFrom_ends fronts _ addr len {} [] d)
  intro after
  obtain ⟨data, report⟩ := after
  apply Ends.bind now_ends
  intro ended
  refine Ends.pure fun m ⟨same, outlined, moved, rest⟩ => ⟨same, outlined, ?_, rest⟩
  cases moved
  exact ⟨rfl, _, rfl⟩

theorem read_ends (addr : Addr) (len : Nat) (d : Device) :
    Ends (Holds t (Host.At o (view · = d))) (read channel.link addr len)
      (fun data => Holds t (Host.At (o.moved .read (pieces t.readBatchLines addr len)) fun s =>
        data = Flat.read d.memory.byteAt addr len ∧ d.AfterRead len (view s)))
      (fun _ => Holds t fun h => ∃ k, k < (pieces t.readBatchLines addr len).length ∧
        Host.At (o.moved .read ((pieces t.readBatchLines addr len).take k)) (fun s =>
          d.Keeps (view s) ∧ (t.readBatchLines ≤ maxBatchLines → addr.Spans len →
            Troubled lossy channel o.limits d)) h) := by
  apply Ends.bind (readReported_ends fronts addr len d)
  intro after
  obtain ⟨data, report⟩ := after
  exact Ends.pure fun m ⟨same, outlined, moved, rest⟩ => ⟨same, outlined, moved.1, rest⟩

theorem write_ends (fits : t.writeBatchLines ≤ maxBatchLines) {addr : Addr} {data : Bytes}
    (spans : addr.Spans data.length) (d : Device) (idle : d.Idle) :
    Ends (Holds t (Host.At o (view · = d))) (write channel.link addr data)
      (fun report => Holds t (Host.At (o.moved .write (pieces t.writeBatchLines addr data.length))
        fun s => (∃ elapsed, report =
          { reportOf (pieces t.writeBatchLines addr data.length) with elapsed := elapsed }) ∧
        d.Becomes (Flat.write d.memory.byteAt addr data) (view s) ∧ (view s).Idle))
      (fun _ => Holds t fun h => ∃ k i, k < (pieces t.writeBatchLines addr data.length).length ∧
        (i = k ∨ i = k + 1) ∧
        Host.At (o.moved .write ((pieces t.writeBatchLines addr data.length).take k)) (fun s =>
          d.Becomes (Flat.write d.memory.byteAt addr (data.take
            (movedBytes ((pieces t.writeBatchLines addr data.length).take i)))) (view s) ∧
          Troubled lossy channel o.limits d) h) := by
  apply Ends.bind now_ends
  intro started
  by_cases none : data = []
  · subst none
    rw [if_pos List.isEmpty_nil, List.length_nil, pieces_zero]
    refine Ends.pure fun m ⟨same, outlined, there⟩ => ⟨same, outlined, ⟨0, rfl⟩, ?_, there ▸ idle⟩
    rw [there, Flat.write_nil]
    exact (Device.Keeps.refl d).becomes
  rw [if_neg (List.isEmpty_iff.not.mpr none), requestEnd_of_spans spans]
  apply Ends.ofExcept_ok
  apply settings_ends
  apply Ends.bind (writeFrom_ends fronts fits addr data.length spans rfl {} d idle)
  intro report
  apply Ends.bind now_ends
  intro ended
  refine Ends.pure fun m ⟨same, outlined, moved, rest⟩ =>
    ⟨same, outlined, ⟨ended - started, ?_⟩, rest⟩
  rw [moved]
  rfl

end Ranges

end LineBridge.Memory

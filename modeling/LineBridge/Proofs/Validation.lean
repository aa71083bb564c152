import Mathlib
import LineBridge.Settings.Basic

/-! What settings that pass validation have in common. -/

namespace LineBridge

/-- Whole lines that fit the bulk length register. -/
structure FitsBatch (bytes : UInt64) : Prop where
  positive : 0 < bytes.toNat
  whole : lineBytes ∣ bytes.toNat
  bounded : bytes.toNat ≤ maxBatchLines * lineBytes

theorem FitsBatch.lines_le {bytes : UInt64} (fits : FitsBatch bytes) :
    bytes.toNat / lineBytes ≤ maxBatchLines :=
  Nat.div_le_of_le_mul (Nat.mul_comm _ _ ▸ fits.bounded)

namespace Settings

theorem broken_batch_iff (bytes : UInt64) :
    (bytes = 0 ∨ bytes % 16 ≠ 0 ∨ 65520 < bytes) ↔ ¬FitsBatch bytes := by
  have zero : bytes = 0 ↔ bytes.toNat = 0 := UInt64.toNat_inj.symm
  have whole : bytes % 16 = 0 ↔ lineBytes ∣ bytes.toNat := by
    rw [← UInt64.toNat_inj, UInt64.toNat_mod]
    exact (Nat.dvd_iff_mod_eq_zero).symm
  have large : 65520 < bytes ↔ maxBatchLines * lineBytes < bytes.toNat := UInt64.lt_iff_toNat_lt
  rw [zero, ne_eq, whole, large]
  constructor
  · intro cause fits
    rcases cause with none | broken | large
    · exact absurd fits.positive (by omega)
    · exact broken fits.whole
    · exact absurd fits.bounded (Nat.not_le.mpr large)
  · intro broken
    by_contra fine
    have fine := not_or.mp fine
    have rest := not_or.mp fine.2
    exact broken ⟨Nat.pos_of_ne_zero fine.1, not_not.mp rest.1, Nat.not_lt.mp rest.2⟩

theorem checkBatch_eq_ok_iff {field : BatchField} {bytes : UInt64} {u : Unit} :
    checkBatch field bytes = .ok u ↔ FitsBatch bytes := by
  unfold checkBatch
  split
  · next broken => simp [(broken_batch_iff bytes).mp broken]
  · next fine => simp [not_not.mp ((broken_batch_iff bytes).not.mp fine)]

theorem checkControl_eq_ok_iff {field : ControlField} {addr : UInt32} {u : Unit} :
    checkControl field addr = .ok u ↔ (⟨addr⟩ : Addr).IsWordAligned := by
  have aligned : addr % 4 = 0 ↔ addr.toNat % wordBytes = 0 := by
    rw [← UInt32.toNat_inj, UInt32.toNat_mod]
    exact Iff.rfl
  unfold checkControl Addr.IsWordAligned
  split
  · next off => simp [mt aligned.mpr off]
  · next fine => simp [aligned.mp (not_not.mp fine)]

theorem fitsBatch_iff {bytes : UInt64} :
    FitsBatch bytes ↔ 16 ∣ bytes.toNat ∧ 16 ≤ bytes.toNat ∧ bytes.toNat ≤ 65520 := by
  constructor
  · intro fits
    have whole : 16 ∣ bytes.toNat := fits.whole
    have := fits.positive
    exact ⟨whole, by omega, fits.bounded⟩
  · intro ⟨whole, positive, bounded⟩
    exact ⟨by omega, whole, bounded⟩

theorem isWordAligned_iff {word : UInt32} : (⟨word⟩ : Addr).IsWordAligned ↔ 4 ∣ word.toNat :=
  Nat.dvd_iff_mod_eq_zero.symm

/-- The rules that valid settings keep to. -/
structure Valid (s : Settings) : Prop where
  readBatch : 16 ∣ s.transfer.readBatchBytes.toNat ∧ 16 ≤ s.transfer.readBatchBytes.toNat ∧
    s.transfer.readBatchBytes.toNat ≤ 65520
  writeBatch : 16 ∣ s.transfer.writeBatchBytes.toNat ∧ 16 ≤ s.transfer.writeBatchBytes.toNat ∧
    s.transfer.writeBatchBytes.toNat ≤ 65520
  page : 16 ∣ s.transfer.loadPageBytes.toNat ∧ s.transfer.loadPageBytes.toNat ≠ 0
  programCounter : 4 ∣ s.control.programCounter.toNat
  reset : 4 ∣ s.control.reset.toNat
  frame : s.link.maxFrame.toNat ≠ 0
  chunk : 1 ≤ s.link.maxChunk.toNat ∧ s.link.maxChunk.toNat ≤ 65535

/-- A chain of rules goes through if every rule does. -/
theorem chain_eq_ok_iff {β : Type} {rule : Except Fault Unit} {rest : Unit → Except Fault β}
    {b : β} : rule >>= rest = .ok b ↔ rule = .ok () ∧ rest () = .ok b := by
  cases rule <;> simp [bind, Except.bind]

/-- A rule that is broken ends the chain. -/
theorem broken_eq_ok_iff {broken : Prop} [Decidable broken] {fault : Fault}
    {never : Unit → Except Fault Unit} {rest : Except Fault Unit} {u : Unit} :
    (if broken then throw fault >>= never else rest) = .ok u ↔ ¬broken ∧ rest = .ok u := by
  by_cases holds : broken
  · simp [holds, throw, throwThe, MonadExceptOf.throw, bind, Except.bind]
  · simp [holds]

theorem last_eq_ok_iff {broken : Prop} [Decidable broken] {fault : Fault} {u : Unit} :
    (if broken then throw fault else pure () : Except Fault Unit) = .ok u ↔ ¬broken := by
  by_cases holds : broken <;>
    simp [holds, throw, throwThe, MonadExceptOf.throw, pure, Except.pure]

/-- Validation goes through for settings that keep to all rules, and for no others. -/
theorem validate_eq_ok_iff {s : Settings} {u : Unit} : s.validate = .ok u ↔ s.Valid := by
  have page : ¬(s.transfer.loadPageBytes = 0 ∨ s.transfer.loadPageBytes % 16 ≠ 0) ↔
      16 ∣ s.transfer.loadPageBytes.toNat ∧ s.transfer.loadPageBytes.toNat ≠ 0 := by
    rw [ne_eq, ← UInt64.toNat_inj, ← UInt64.toNat_inj, UInt64.toNat_mod]
    change ¬(_ = 0 ∨ ¬_ % 16 = 0) ↔ _
    omega
  have frames : ¬(s.link.maxFrame = 0 ∨ s.link.maxChunk = 0) ↔
      s.link.maxFrame.toNat ≠ 0 ∧ 1 ≤ s.link.maxChunk.toNat := by
    rw [← UInt64.toNat_inj, ← UInt64.toNat_inj]
    change ¬(_ = 0 ∨ _ = 0) ↔ _
    omega
  have chunk : ¬65535 < s.link.maxChunk ↔ s.link.maxChunk.toNat ≤ 65535 := by
    rw [UInt64.lt_iff_toNat_lt, Nat.not_lt]
    rfl
  unfold validate
  simp only [chain_eq_ok_iff, broken_eq_ok_iff, last_eq_ok_iff, checkBatch_eq_ok_iff,
    checkControl_eq_ok_iff, fitsBatch_iff, isWordAligned_iff, page, frames, chunk]
  constructor
  · intro ⟨readBatch, writeBatch, page, counter, reset, ⟨frame, positive⟩, bounded⟩
    exact ⟨readBatch, writeBatch, page, counter, reset, frame, positive, bounded⟩
  · intro ⟨readBatch, writeBatch, page, counter, reset, frame, positive, bounded⟩
    exact ⟨readBatch, writeBatch, page, counter, reset, ⟨frame, positive⟩, bounded⟩

/-- The rules for batches and for control words, out of all that valid settings keep to. -/
theorem rules_of_validate {s : Settings} {u : Unit} (valid : s.validate = .ok u) :
    (FitsBatch s.transfer.readBatchBytes ∧ FitsBatch s.transfer.writeBatchBytes) ∧
      (⟨s.control.programCounter⟩ : Addr).IsWordAligned ∧
      (⟨s.control.reset⟩ : Addr).IsWordAligned := by
  have rules := validate_eq_ok_iff.mp valid
  exact ⟨⟨fitsBatch_iff.mpr rules.readBatch, fitsBatch_iff.mpr rules.writeBatch⟩,
    isWordAligned_iff.mpr rules.programCounter, isWordAligned_iff.mpr rules.reset⟩

theorem fitsBatch_of_validate {s : Settings} {u : Unit} (valid : s.validate = .ok u) :
    FitsBatch s.transfer.readBatchBytes ∧ FitsBatch s.transfer.writeBatchBytes :=
  (rules_of_validate valid).1

theorem aligned_of_validate {s : Settings} {u : Unit} (valid : s.validate = .ok u) :
    (⟨s.control.programCounter⟩ : Addr).IsWordAligned ∧
      (⟨s.control.reset⟩ : Addr).IsWordAligned := (rules_of_validate valid).2

end Settings

end LineBridge

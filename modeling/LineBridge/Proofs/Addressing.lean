import Mathlib
import LineBridge.Host.Transaction

/-! The requests that are let through to a link. Below the width of a word of 64 bits the end of
a range is exact, and a transfer of lines is checked in a fixed order: size, alignment, emptiness,
range. -/

namespace LineBridge

theorem Addr.requestEnd_eq {a : Addr} {len : Nat} (fits : a.val.toNat + len < UInt64.size) :
    a.requestEnd len =
      if spaceBytes < a.val.toNat + len then .error (.outOfRange a.val.toNat len)
      else .ok (UInt64.ofNat (a.val.toNat + len)) := by
  rw [requestEnd, if_neg (Nat.not_le.mpr fits)]

namespace Host

theorem checkLines_eq (addr : Addr) (lines : Nat) :
    checkLines addr lines =
      if maxBatchLines < lines then
        .error (.tooLarge (saturate (lines * lineBytes)) maxBatchBytes)
      else if ¬addr.IsLineAligned then
        .error (.misaligned addr.val.toNat (lines * lineBytes) .line)
      else if lines = 0 then .error (.misaligned addr.val.toNat 0 .noLines)
      else if spaceBytes < addr.val.toNat + lines * lineBytes then
        .error (.outOfRange addr.val.toNat (lines * lineBytes))
      else .ok (UInt16.ofNat (lines - 1)) := by
  by_cases large : maxBatchLines < lines
  · rw [if_pos large, checkLines, if_pos large]
    rfl
  rw [if_neg large, checkLines, if_neg large]
  simp only [Addr.requireLineAligned]
  by_cases aligned : addr.IsLineAligned
  swap
  · rw [if_pos aligned, if_neg aligned]
    rfl
  rw [if_neg (not_not.mpr aligned), if_pos aligned]
  by_cases zero : lines = 0
  · rw [if_pos zero, if_pos zero]
    rfl
  rw [if_neg zero, if_neg zero]
  have place := addr.val.toNat_lt
  have fits : addr.val.toNat + lines * lineBytes < UInt64.size := by
    simp only [maxBatchLines, maxBulkBytes, lineBytes, UInt64.size] at large ⊢
    omega
  have described : lineField lines = some (UInt16.ofNat (lines - 1)) := by
    rw [lineField, if_neg]
    simp only [maxBatchLines, maxBulkBytes, lineBytes, maxLineField] at large ⊢
    omega
  rw [Addr.requestEnd_eq fits, described]
  split <;> rfl

/-- The registers can describe a transfer of these lines. -/
structure Addressable (addr : Addr) (lines : Nat) : Prop where
  aligned : addr.IsLineAligned
  positive : 0 < lines
  bounded : lines ≤ maxBatchLines
  inside : addr.val.toNat + lines * lineBytes ≤ spaceBytes

theorem checkLines_eq_ok_iff {addr : Addr} {lines : Nat} {field : UInt16} :
    checkLines addr lines = .ok field ↔
      Addressable addr lines ∧ field = UInt16.ofNat (lines - 1) := by
  rw [checkLines_eq]
  constructor
  · intro h
    split_ifs at h with large aligned zero outside
    cases h
    exact ⟨⟨aligned, Nat.pos_of_ne_zero zero, Nat.not_lt.mp large,
      Nat.not_lt.mp outside⟩, rfl⟩
  · intro after
    obtain ⟨⟨aligned, positive, bounded, inside⟩, rfl⟩ := after
    rw [if_neg (Nat.not_lt.mpr bounded), if_neg (not_not.mpr aligned),
      if_neg (Nat.ne_of_gt positive), if_neg (Nat.not_lt.mpr inside)]

theorem checkPayload_eq_ok_iff {addr : Addr} {lines : Nat} {payload : Bytes} {u : Unit} :
    checkPayload addr lines payload = .ok u ↔ lines * lineBytes = payload.length := by
  unfold checkPayload
  constructor
  · intro declared
    split at declared
    · next size => exact size
    · cases declared
  · intro size
    rw [if_pos size]

theorem checkBulk_eq_ok_iff {len : Nat} {field : UInt16} :
    checkBulk len = .ok field ↔ len ≤ maxBulkBytes ∧ field = UInt16.ofNat len := by
  unfold checkBulk
  constructor
  · intro checked
    split at checked
    · cases checked
    · next small =>
      cases checked
      exact ⟨Nat.not_lt.mp small, rfl⟩
  · intro ⟨small, exact⟩
    rw [if_neg (Nat.not_lt.mpr small), exact]

namespace Addressable

variable {addr : Addr} {lines : Nat} (valid : Addressable addr lines)
include valid

theorem checked : checkLines addr lines = .ok (UInt16.ofNat (lines - 1)) :=
  checkLines_eq_ok_iff.mpr ⟨valid, rfl⟩

/-- The length field tells the line count. -/
theorem toNat_field : (UInt16.ofNat (lines - 1)).toNat + 1 = lines := by
  have positive := valid.positive
  have bounded : lines ≤ 4095 := valid.bounded
  rw [UInt16.toNat_ofNat', Nat.mod_eq_of_lt (by omega)]
  omega

/-- Whole lines never fill the bulk length register. -/
theorem lt_bulk : lines * lineBytes < maxBulkBytes :=
  (Nat.mul_le_mul_right lineBytes valid.bounded).trans_lt (by decide)

theorem fits_bulk : lines * lineBytes ≤ maxBulkBytes := valid.lt_bulk.le

theorem bytes_pos : 0 < lines * lineBytes := Nat.mul_pos valid.positive (by decide)

end Addressable

end Host

end LineBridge

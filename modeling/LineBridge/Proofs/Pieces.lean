import Mathlib
import LineBridge.Proofs.Addressing
import LineBridge.Proofs.FlatMemory
import LineBridge.Transfer

/-! How a request is cut. A piece is a fragment that stays in its line, or whole lines from an
aligned address on; the pieces of a request follow each other without a gap, and merging a
fragment into its line writes the fragment and no other byte. -/

namespace LineBridge

namespace Addr

/-- The request stays in the space. -/
def Spans (a : Addr) (len : Nat) : Prop := a.val.toNat + len ≤ spaceBytes

instance (a : Addr) (len : Nat) : Decidable (a.Spans len) := inferInstanceAs (Decidable (_ ≤ _))

theorem Spans.rest {a : Addr} {len part : Nat} (spans : a.Spans len) (behind : part ≤ len) :
    (a.offset part).Spans (len - part) := by
  unfold Spans at spans ⊢
  rw [toNat_offset]
  rcases Nat.lt_or_ge (a.val.toNat + part) spaceBytes with inside | atEnd
  · rw [Nat.mod_eq_of_lt inside]
    omega
  · have full : a.val.toNat + part = spaceBytes := by omega
    rw [full, Nat.mod_self]
    omega

theorem Spans.le_spaceBytes {a : Addr} {len : Nat} (spans : a.Spans len) : len ≤ spaceBytes :=
  (Nat.le_add_left _ _).trans spans

theorem isLineAligned_lineBase (a : Addr) : a.lineBase.IsLineAligned :=
  Nat.mod_eq_zero_of_dvd a.lineBytes_dvd_lineBase

/-- The line of any byte can be moved. -/
theorem addressable_lineBase (a : Addr) : Host.Addressable a.lineBase 1 where
  aligned := a.isLineAligned_lineBase
  positive := Nat.one_pos
  bounded := by decide
  inside := by
    obtain ⟨k, base⟩ := a.lineBytes_dvd_lineBase
    have place := a.lineBase.val.toNat_lt
    simp only [lineBytes, spaceBytes, UInt32.size] at base ⊢
    omega

end Addr

namespace Piece

/-- The shapes that the first piece of a request can have. -/
inductive Shape (batch : Nat) (addr : Addr) (len : Nat) : Piece → Prop
  | fragment {bytes : Nat} (inside : addr.lineOffset + bytes ≤ lineBytes) :
    Shape batch addr len ⟨.partialLine, bytes, 1⟩
  | whole {lines : Nat} (aligned : addr.IsLineAligned) (positive : 0 < lines)
    (bounded : lines ≤ max 1 batch) : Shape batch addr len ⟨.lines, lines * lineBytes, lines⟩

theorem shape_first (batch : Nat) (addr : Addr) (len : Nat) :
    Shape batch addr len (first batch addr len) := by
  have offset := addr.lineOffset_lt
  unfold first
  split
  · apply Shape.fragment
    have := Nat.min_le_left (lineBytes - addr.lineOffset) len
    omega
  · next aligned =>
    have aligned : addr.lineOffset = 0 := not_not.mp aligned
    split
    · next whole =>
      have some : 0 < len / lineBytes := Nat.div_pos whole (by decide)
      exact .whole aligned (by omega) (Nat.min_le_right _ _)
    · next short =>
      apply Shape.fragment
      omega

theorem addressable_of_whole {batch lines : Nat} {addr : Addr} {len : Nat}
    (aligned : addr.IsLineAligned) (positive : 0 < lines) (bounded : lines ≤ max 1 batch)
    (fits : batch ≤ maxBatchLines) (spans : addr.Spans len) (part : lines * lineBytes ≤ len) :
    Host.Addressable addr lines where
  aligned := aligned
  positive := positive
  bounded := bounded.trans (Nat.max_le.mpr ⟨by decide, fits⟩)
  inside := (Nat.add_le_add_left part _).trans spans

end Piece

theorem pieces_zero (batch : Nat) (addr : Addr) : pieces batch addr 0 = [] := by
  rw [pieces, if_pos rfl]

theorem pieces_of_ne_zero (batch : Nat) (addr : Addr) {len : Nat} (nonempty : len ≠ 0) :
    pieces batch addr len = (addr, Piece.first batch addr len) ::
      pieces batch (addr.offset (Piece.first batch addr len).bytes)
        (len - (Piece.first batch addr len).bytes) := by
  rw [pieces, if_neg nonempty]

/-- Bytes in a list of pieces. -/
def movedBytes (moved : List (Addr × Piece)) : Nat := (moved.map fun p => p.2.bytes).sum

@[simp] theorem movedBytes_nil : movedBytes [] = 0 := rfl

@[simp] theorem movedBytes_cons (addr : Addr) (piece : Piece) (rest : List (Addr × Piece)) :
    movedBytes ((addr, piece) :: rest) = piece.bytes + movedBytes rest := rfl

/-- Induction on a request: the first piece is taken off what is left. -/
theorem pieces_induction (batch : Nat) {motive : Addr → Nat → Prop}
    (done : ∀ addr, motive addr 0)
    (step : ∀ addr len, len ≠ 0 → motive (addr.offset (Piece.first batch addr len).bytes)
      (len - (Piece.first batch addr len).bytes) → motive addr len)
    (addr : Addr) (len : Nat) : motive addr len := pieces.induct batch motive done step addr len

/-- Replacing bytes of a line leaves it as long as it was. -/
theorem Memory.length_splice {line data : Bytes} {offset : Nat}
    (inside : offset + data.length ≤ line.length) :
    (Memory.splice line offset data).length = line.length := by
  simp only [Memory.splice, List.length_append, List.length_take, List.length_drop]
  omega

namespace Flat

theorem read_fragment (f : Flat) (a : Addr) {count : Nat}
    (inside : a.lineOffset + count ≤ lineBytes) :
    ((f.read a.lineBase lineBytes).drop a.lineOffset).take count = f.read a count := by
  obtain ⟨behind, whole⟩ := Nat.exists_eq_add_of_le inside
  rw [whole, Nat.add_assoc, drop_read, take_read, a.lineBase_offset]

/-- Writing back a line in which a fragment was replaced writes the fragment. -/
theorem write_splice (f : Flat) (a : Addr) {data : Bytes}
    (inside : a.lineOffset + data.length ≤ lineBytes) :
    f.write a.lineBase (Memory.splice (f.read a.lineBase lineBytes) a.lineOffset data) =
      f.write a data := by
  obtain ⟨behind, whole⟩ := Nat.exists_eq_add_of_le inside
  have space : lineBytes ≤ spaceBytes := by decide
  have place : a.lineBase.offset (a.lineOffset + data.length) = a.offset data.length := by
    rw [← Addr.offset_offset, a.lineBase_offset]
  have head : (f.read a.lineBase lineBytes).take a.lineOffset = f.read a.lineBase a.lineOffset := by
    rw [whole, Nat.add_assoc, take_read]
  have tail : (f.read a.lineBase lineBytes).drop (a.lineOffset + data.length) =
      f.read (a.offset data.length) behind := by
    rw [whole, drop_read, place]
  have kept : (f.write a data).read (a.offset data.length) behind =
      f.read (a.offset data.length) behind := f.read_write_behind a (by omega)
  calc f.write a.lineBase (Memory.splice (f.read a.lineBase lineBytes) a.lineOffset data)
      = f.write a.lineBase (f.read a.lineBase a.lineOffset ++ data ++
          f.read (a.offset data.length) behind) := by rw [Memory.splice, head, tail]
    _ = (f.write a.lineBase (f.read a.lineBase a.lineOffset ++ data)).write (a.offset data.length)
          (f.read (a.offset data.length) behind) := by
      rw [write_append, List.length_append, length_read, place]
      rw [List.length_append, length_read, length_read]
      omega
    _ = (f.write a data).write (a.offset data.length) (f.read (a.offset data.length) behind) := by
      rw [write_append, write_read, length_read, a.lineBase_offset]
      rw [length_read]
      omega
    _ = f.write a data := by rw [← kept, write_read]

end Flat

end LineBridge

import LineBridge.Text.Hex

/-! Addresses on the far side of the bridge, and the geometry of its memory: lines of 16
bytes in a 32-bit space, moved by transactions whose length registers are 16 bits wide. -/

namespace LineBridge

/-- Bytes in a line, the unit that a transaction moves. -/
def lineBytes : Nat := 16

/-- Bytes in a word of the target. -/
def wordBytes : Nat := 4

/-- Lines that the 16-bit length register can describe. -/
def maxLineField : Nat := 65536

/-- Bytes that the 16-bit bulk length register can describe. -/
def maxBulkBytes : Nat := 65535

/-- Whole lines that fit the bulk length register. -/
def maxBatchLines : Nat := maxBulkBytes / lineBytes

/-- Bytes in the address space. -/
def spaceBytes : Nat := UInt32.size

/-- An address of one byte on the bus. -/
structure Addr where
  val : UInt32
deriving DecidableEq, Hashable, Repr, Inhabited

namespace Addr

/-- The address of the line that holds this byte. -/
def lineBase (a : Addr) : Addr := ⟨a.val - a.val % 16⟩

/-- The place of this byte in its line. -/
def lineOffset (a : Addr) : Nat := a.val.toNat % lineBytes

def IsLineAligned (a : Addr) : Prop := a.lineOffset = 0

instance (a : Addr) : Decidable a.IsLineAligned := inferInstanceAs (Decidable (_ = _))

def IsWordAligned (a : Addr) : Prop := a.val.toNat % wordBytes = 0

instance (a : Addr) : Decidable a.IsWordAligned := inferInstanceAs (Decidable (_ = _))

/-- The address `distance` bytes further on, around the end of the space. -/
def offset (a : Addr) (distance : Nat) : Addr := ⟨a.val + UInt32.ofNat distance⟩

/-- The four address registers' contents. -/
def bytes (a : Addr) : Bytes := Bytes.littleEndian 4 a.val.toNat

def text (a : Addr) : String := Hex.word a.val

theorem lineBytes_dvd_lineBase (a : Addr) : lineBytes ∣ a.lineBase.val.toNat := by
  have le : a.val % 16 ≤ a.val := by
    rw [UInt32.le_iff_toNat_le, UInt32.toNat_mod]
    exact Nat.mod_le _ _
  rw [lineBase, UInt32.toNat_sub_of_le _ _ le, UInt32.toNat_mod]
  exact Nat.dvd_sub_mod _

theorem lineBase_add_lineOffset (a : Addr) :
    a.lineBase.val.toNat + a.lineOffset = a.val.toNat := by
  have le : a.val % 16 ≤ a.val := by
    rw [UInt32.le_iff_toNat_le, UInt32.toNat_mod]
    exact Nat.mod_le _ _
  rw [lineBase, UInt32.toNat_sub_of_le _ _ le, UInt32.toNat_mod, lineOffset]
  have := Nat.mod_le a.val.toNat 16
  exact Nat.sub_add_cancel this

@[simp] theorem toNat_offset (a : Addr) (distance : Nat) :
    (a.offset distance).val.toNat = (a.val.toNat + distance) % spaceBytes := by
  simp [offset, spaceBytes]

theorem lineOffset_lt (a : Addr) : a.lineOffset < lineBytes := Nat.mod_lt _ (by decide)

end Addr

end LineBridge

/-! Byte strings: little-endian words, and cutting a string into pieces of bounded size.
A word written in `width` bytes reads back modulo what that many bytes can hold, and the
pieces of a string, joined in order, are the string. -/

namespace LineBridge

abbrev Bytes := List UInt8

namespace Bytes

/-- The low `width` bytes of `value`, least significant first. -/
def littleEndian : Nat → Nat → Bytes
  | 0, _ => []
  | width + 1, value => UInt8.ofNat value :: littleEndian width (value / 256)

/-- The number whose bytes, least significant first, are the given ones. -/
def ofLittleEndian : Bytes → Nat
  | [] => 0
  | byte :: rest => byte.toNat + 256 * ofLittleEndian rest

/-- How many numbers a width can tell apart. -/
def capacity : Nat → Nat
  | 0 => 1
  | width + 1 => 256 * capacity width

@[simp] theorem length_littleEndian (width value : Nat) :
    (littleEndian width value).length = width := by
  induction width generalizing value with
  | zero => rfl
  | succ width ih => simp [littleEndian, ih]

theorem ofLittleEndian_littleEndian (width value : Nat) :
    ofLittleEndian (littleEndian width value) = value % capacity width := by
  induction width generalizing value with
  | zero => simp [littleEndian, ofLittleEndian, capacity, Nat.mod_one]
  | succ width ih =>
    have split := Nat.mod_mul (a := 256) (b := capacity width) (x := value)
    simp only [littleEndian, ofLittleEndian, ih, capacity, split, UInt8.toNat_ofNat']

theorem ofLittleEndian_lt (bytes : Bytes) : ofLittleEndian bytes < capacity bytes.length := by
  induction bytes with
  | nil => simp [ofLittleEndian, capacity]
  | cons byte rest ih =>
    have bound := byte.toNat_lt
    simp only [ofLittleEndian, List.length_cons, capacity]
    omega

/-- A number as a big-endian file stores it. -/
def ofBigEndian (bytes : Bytes) : Nat := ofLittleEndian bytes.reverse

/-- A buffer grows by what is put behind it. -/
theorem size_append (buffer : Array UInt8) (bytes : Bytes) :
    (buffer ++ bytes).size = buffer.size + bytes.length := by
  rw [← Array.length_toList, Array.toList_appendList, List.length_append, Array.length_toList]

/-- Pieces of `size` bytes, the last one possibly shorter. A size of zero yields no piece. -/
def chunks (size : Nat) (bytes : Bytes) : List Bytes :=
  if bytes = [] ∨ size = 0 then []
  else bytes.take size :: chunks size (bytes.drop size)
termination_by bytes.length
decreasing_by
  rename_i h
  have : bytes.length ≠ 0 := fun z => h (.inl (List.length_eq_zero_iff.mp z))
  simp only [List.length_drop]
  omega

theorem flatten_chunks (size : Nat) (positive : 0 < size) (bytes : Bytes) :
    (chunks size bytes).flatten = bytes := by
  fun_induction chunks size bytes with
  | case1 bytes h =>
    rcases h with rfl | zero
    · rfl
    · omega
  | case2 bytes h ih => rw [List.flatten_cons, ih, List.take_append_drop]

/-- No piece of a string is empty or too long. -/
theorem length_of_mem_chunks {size : Nat} {bytes piece : Bytes}
    (member : piece ∈ chunks size bytes) : 1 ≤ piece.length ∧ piece.length ≤ size := by
  fun_induction chunks size bytes with
  | case1 => exact absurd member List.not_mem_nil
  | case2 bytes some ih =>
    rcases List.mem_cons.mp member with rfl | behind
    · have filled := not_or.mp some
      have positive := List.length_pos_iff.mpr filled.1
      rw [List.length_take]
      omega
    · exact ih behind

/-- No piece of a string is longer than the string. -/
theorem length_le_of_mem_chunks {size : Nat} (positive : 0 < size) {bytes piece : Bytes}
    (member : piece ∈ chunks size bytes) : piece.length ≤ bytes.length := by
  have inside := (List.sublist_flatten_of_mem member).length_le
  rwa [flatten_chunks size positive] at inside

/-- The bytes followed by zeros up to a multiple of `unit`. -/
def padTo (unit : Nat) (bytes : Bytes) : Bytes :=
  bytes ++ List.replicate ((unit - bytes.length % unit) % unit) 0

end Bytes

end LineBridge

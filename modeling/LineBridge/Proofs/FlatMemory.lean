import Mathlib
import LineBridge.Device.LineStore

/-! A flat memory has one byte at every address, and nothing else: no lines, no batches. It is
the view of a line store that `byteAt` gives, and in this view storing bytes is `Flat.write`,
which sets the bytes of one range and no other. -/

namespace LineBridge

namespace Addr

theorem ext_toNat {a b : Addr} (same : a.val.toNat = b.val.toNat) : a = b := by
  cases a
  cases b
  simp only [mk.injEq]
  exact UInt32.toNat_inj.mp same

theorem lineBase_offset (a : Addr) : a.lineBase.offset a.lineOffset = a := by
  apply ext_toNat
  rw [toNat_offset, lineBase_add_lineOffset]
  exact Nat.mod_eq_of_lt (UInt32.toNat_lt_size a.val)

/-- Bytes from one address up to another, around the end of the space. -/
def distance (a b : Addr) : Nat := (b.val - a.val).toNat

theorem distance_lt (a b : Addr) : a.distance b < spaceBytes := UInt32.toNat_lt_size _

@[simp] theorem offset_zero (a : Addr) : a.offset 0 = a := by simp [offset]

theorem offset_spaceBytes (a : Addr) : a.offset spaceBytes = a := by
  have full : UInt32.ofNat spaceBytes = 0 := by decide
  simp [offset, full]

theorem offset_offset (a : Addr) (i j : Nat) : (a.offset i).offset j = a.offset (i + j) := by
  simp only [offset, UInt32.ofNat_add, UInt32.add_assoc]

theorem offset_distance (a b : Addr) : a.offset (a.distance b) = b := by
  simp [offset, distance]

theorem distance_offset (a : Addr) {i : Nat} (small : i < spaceBytes) :
    a.distance (a.offset i) = i := by
  have cancel : a.val + UInt32.ofNat i - a.val = UInt32.ofNat i := by
    rw [UInt32.add_comm, UInt32.add_sub_cancel]
  simp only [distance, offset, cancel]
  exact Nat.mod_eq_of_lt small

/-- Walking on from a byte of the range shortens the way to the bytes behind it. -/
theorem distance_offset_left (a b : Addr) {i : Nat} (behind : i ≤ a.distance b) :
    (a.offset i).distance b = a.distance b - i := by
  have small := a.distance_lt b
  have reached : (a.offset i).offset (a.distance b - i) = b := by
    rw [offset_offset, Nat.add_sub_cancel' behind, offset_distance]
  have back := distance_offset (a.offset i) (i := a.distance b - i) (by omega)
  rwa [reached] at back

theorem lineBase_lineOffset_inj {a b : Addr} (base : a.lineBase = b.lineBase)
    (place : a.lineOffset = b.lineOffset) : a = b := by
  apply ext_toNat
  rw [← lineBase_add_lineOffset a, ← lineBase_add_lineOffset b, base, place]

end Addr

abbrev Flat := Addr → UInt8

namespace Flat

/-- Bytes from an address on. -/
def read (f : Flat) (a : Addr) (count : Nat) : Bytes :=
  (List.range count).map fun i => f (a.offset i)

/-- Sets the bytes from an address on, and leaves all others. -/
def write (f : Flat) (a : Addr) (data : Bytes) : Flat :=
  fun b => data.getD (a.distance b) (f b)

@[simp] theorem length_read (f : Flat) (a : Addr) (count : Nat) :
    (f.read a count).length = count := by simp [read]

theorem read_append (f : Flat) (a : Addr) (m n : Nat) :
    f.read a (m + n) = f.read a m ++ f.read (a.offset m) n := by
  simp only [read, List.range_add, List.map_append, List.map_map, Addr.offset_offset]
  rfl

@[simp] theorem write_nil (f : Flat) (a : Addr) : f.write a [] = f := rfl

theorem write_cons (f : Flat) (a : Addr) (byte : UInt8) {rest : Bytes}
    (fits : rest.length < spaceBytes) :
    f.write a (byte :: rest) = (f.write a [byte]).write (a.offset 1) rest := by
  funext b
  by_cases first : a.distance b = 0
  · have same : b = a := by rw [← a.offset_distance b, first, a.offset_zero]
    have around : (a.offset 1).offset (spaceBytes - 1) = a := by
      rw [Addr.offset_offset]
      exact a.offset_spaceBytes
    have far : (a.offset 1).distance a = spaceBytes - 1 := by
      have back := (a.offset 1).distance_offset (i := spaceBytes - 1) (by decide)
      rwa [around] at back
    subst same
    simp only [write, first, List.getD_cons_zero, far]
    rw [List.getD_eq_default _ _ (by omega)]
  · have behind : (a.offset 1).distance b = a.distance b - 1 :=
      a.distance_offset_left b (by omega)
    obtain ⟨k, rise⟩ := Nat.exists_eq_succ_of_ne_zero first
    simp only [write, behind, rise, Nat.succ_sub_one, List.getD_cons_succ, List.getD_nil]

theorem write_append (f : Flat) (a : Addr) (xs : Bytes) {ys : Bytes}
    (fits : xs.length + ys.length ≤ spaceBytes) :
    f.write a (xs ++ ys) = (f.write a xs).write (a.offset xs.length) ys := by
  induction xs generalizing f a with
  | nil => simp
  | cons byte xs ih =>
    simp only [List.length_cons] at fits
    have whole : (xs ++ ys).length < spaceBytes := by
      rw [List.length_append]
      omega
    calc f.write a (byte :: (xs ++ ys))
        = (f.write a [byte]).write (a.offset 1) (xs ++ ys) := write_cons f a byte whole
      _ = ((f.write a [byte]).write (a.offset 1) xs).write ((a.offset 1).offset xs.length) ys :=
        ih _ _ (by omega)
      _ = (f.write a (byte :: xs)).write (a.offset (byte :: xs).length) ys := by
        rw [← write_cons f a byte (by omega), Addr.offset_offset, List.length_cons, Nat.add_comm 1]

theorem write_take_add (f : Flat) (a : Addr) {data : Bytes} {m : Nat} (n : Nat)
    (part : m ≤ data.length) (fits : data.length ≤ spaceBytes) :
    f.write a (data.take (m + n)) =
      (f.write a (data.take m)).write (a.offset m) ((data.drop m).take n) := by
  have size : (data.take m).length = m := List.length_take_of_le part
  rw [List.take_add, write_append, size]
  rw [List.length_take, List.length_take, List.length_drop]
  omega

/-- A byte outside the range stays. -/
theorem write_of_le {f : Flat} {a b : Addr} {data : Bytes} (outside : data.length ≤ a.distance b) :
    f.write a data b = f b := List.getD_eq_default _ _ outside

theorem getElem_read (f : Flat) (a : Addr) {count i : Nat} (inside : i < (f.read a count).length) :
    (f.read a count)[i] = f (a.offset i) := by simp [read]

theorem take_read (f : Flat) (a : Addr) (m n : Nat) : (f.read a (m + n)).take m = f.read a m := by
  rw [read_append, List.take_left' (length_read f a m)]

theorem drop_read (f : Flat) (a : Addr) (m n : Nat) :
    (f.read a (m + n)).drop m = f.read (a.offset m) n := by
  rw [read_append, List.drop_left' (length_read f a m)]

/-- Writing what is there changes nothing. -/
theorem write_read (f : Flat) (a : Addr) (count : Nat) : f.write a (f.read a count) = f := by
  funext b
  by_cases inside : a.distance b < count
  · have place : a.distance b < (f.read a count).length := by rwa [length_read]
    rw [write, List.getD_eq_getElem _ _ place, getElem_read, a.offset_distance]
  · exact write_of_le (by rw [length_read]; omega)

theorem read_write (f : Flat) (a : Addr) {data : Bytes} (fits : data.length ≤ spaceBytes) :
    (f.write a data).read a data.length = data := by
  apply List.ext_getElem (length_read _ _ _)
  intro i inside behind
  rw [getElem_read, write, a.distance_offset (Nat.lt_of_lt_of_le behind fits),
    List.getD_eq_getElem _ _ behind]

/-- The bytes behind a range are not touched by writing it. -/
theorem read_write_behind (f : Flat) (a : Addr) {data : Bytes} {count : Nat}
    (fits : data.length + count ≤ spaceBytes) :
    (f.write a data).read (a.offset data.length) count = f.read (a.offset data.length) count := by
  apply List.map_congr_left
  intro i member
  have small := List.mem_range.mp member
  apply write_of_le
  rw [Addr.offset_offset, a.distance_offset (by omega)]
  exact Nat.le_add_right _ _

end Flat

namespace LineStore

theorem peek_eq_read (m : LineStore) (a : Addr) (count : Nat) :
    m.peek a count = Flat.read m.byteAt a count := rfl

theorem lineAt_setByte (m : LineStore) (a b : Addr) (value : UInt8) :
    (m.setByte a value).lineAt b =
      if a.lineBase = b.lineBase then (m.lineAt a).set a.lineOffset value a.lineOffset_lt
      else m.lineAt b := by
  have key : (a.lineBase.val == b.lineBase.val) = decide (a.lineBase = b.lineBase) := by
    by_cases same : a.lineBase = b.lineBase
    · simp [same]
    · have values : a.lineBase.val ≠ b.lineBase.val := fun h => same (congrArg Addr.mk h)
      simp [same, values]
  simp only [setByte, lineAt, Std.HashMap.getElem?_insert, key, decide_eq_true_eq]
  split <;> rfl

theorem get_set_line (line : Line) {i j : Nat} (hi : i < lineBytes) (hj : j < lineBytes)
    (value : UInt8) :
    (line.set i value hi).get ⟨j, hj⟩ = if i = j then value else line.get ⟨j, hj⟩ :=
  Vector.getElem_set hi hj

theorem byteAt_setByte (m : LineStore) (a b : Addr) (value : UInt8) :
    (m.setByte a value).byteAt b = if a = b then value else m.byteAt b := by
  simp only [byteAt, lineAt_setByte]
  by_cases same : a.lineBase = b.lineBase
  · rw [if_pos same, get_set_line]
    by_cases place : a.lineOffset = b.lineOffset
    · rw [if_pos place, if_pos (Addr.lineBase_lineOffset_inj same place)]
    · have ne : a ≠ b := fun h => place (congrArg Addr.lineOffset h)
      rw [if_neg place, if_neg ne]
      simp only [lineAt, same]
  · have ne : a ≠ b := fun h => same (congrArg Addr.lineBase h)
    rw [if_neg same, if_neg ne]

/-- Storing bytes in lines is storing them in a flat memory. -/
theorem byteAt_poke (m : LineStore) (a : Addr) {data : Bytes}
    (fits : data.length ≤ spaceBytes) :
    (m.poke a data).byteAt = Flat.write m.byteAt a data := by
  induction data generalizing m a with
  | nil => rfl
  | cons byte rest ih =>
    simp only [List.length_cons] at fits
    have single : (m.setByte a byte).byteAt = Flat.write m.byteAt a [byte] := by
      funext b
      rw [byteAt_setByte]
      by_cases same : a = b
      · subst same
        have here : a.distance a = 0 := by simp [Addr.distance]
        simp [Flat.write, here]
      · have away : a.distance b ≠ 0 := by
          intro zero
          exact same (by rw [← a.offset_distance b, zero, a.offset_zero])
        rw [if_neg same, Flat.write_of_le (by simp only [List.length_singleton]; omega)]
    rw [poke, ih _ _ (by omega), single, ← Flat.write_cons _ _ _ (by omega)]

end LineStore

end LineBridge

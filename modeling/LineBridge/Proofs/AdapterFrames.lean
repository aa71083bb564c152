import Mathlib
import LineBridge.Link
import LineBridge.Proofs.AdapterCommands

/-! The frames of an SPI link as steps on the bus: how a length is cut into commands, what idling
takes, and which steps make up a packed write. -/

namespace LineBridge

/-- The two bytes of a word, and of a length that is cut to a word. -/
theorem littleEndian_word (n : Nat) :
    Bytes.littleEndian 2 n = [lowByte (UInt16.ofNat n), highByte (UInt16.ofNat n)] := by
  have low : UInt8.ofNat n = lowByte (UInt16.ofNat n) := by
    apply UInt8.toNat_inj.mp
    simp only [lowByte, UInt8.toNat_ofNat', UInt16.toNat_toUInt8, UInt16.toNat_ofNat']
    omega
  have high : UInt8.ofNat (n / 256) = highByte (UInt16.ofNat n) := by
    apply UInt8.toNat_inj.mp
    simp only [highByte, UInt8.toNat_ofNat', UInt16.toNat_toUInt8, UInt16.toNat_shiftRight,
      UInt16.toNat_ofNat', Nat.shiftRight_eq_div_pow]
    have eight : UInt16.toNat 8 % 16 = 8 := rfl
    rw [eight]
    omega
  rw [Bytes.littleEndian, Bytes.littleEndian, Bytes.littleEndian, low, high]

namespace Spi

/-- The chunk that settings come to is one byte at least, and leaves room for the header. -/
theorem Settings.one_le_chunk (s : Settings) : 1 ≤ s.clamped.maxChunk :=
  le_min (by decide) (Nat.le_max_left _ _)

theorem Settings.chunk_le (s : Settings) : s.clamped.maxChunk ≤ maxChunkBytes :=
  Nat.min_le_left _ _

theorem flagless_ne_last {reg : UInt8} (free : reg < Register.writeFlag) : reg ≠ 0xFF := by
  rintro rfl
  exact absurd free (by decide)

/-- Both registers of a pair that is wholly in front of the flag. -/
theorem flagless_pair {lo : UInt8} (free : lo.toNat + 1 < Register.writeFlag.toNat) :
    lo < Register.writeFlag ∧ lo + 1 < Register.writeFlag := by
  have next : (lo + 1).toNat = lo.toNat + 1 := by
    rw [UInt8.toNat_add]
    exact Nat.mod_eq_of_lt (Nat.lt_trans free (by decide))
  rw [UInt8.lt_iff_toNat_lt, UInt8.lt_iff_toNat_lt, next]
  exact ⟨Nat.lt_of_succ_lt free, free⟩

theorem lengthCommands_of_le {opcode : UInt8} {len : Nat} (some : 1 ≤ len)
    (fits : len ≤ maxCommandBytes) : lengthCommands opcode len = lengthCommand opcode len := by
  have last : lengthCommands opcode 0 = [] := by rw [lengthCommands, if_pos rfl]
  rw [lengthCommands, if_neg (Nat.ne_of_gt some), Nat.min_eq_left fits, Nat.sub_self, last,
    List.append_nil]

/-- A length as counts of single commands: as many full ones as there are, and what is left. -/
def counts (len : Nat) : List Nat :=
  List.replicate (len / maxCommandBytes) maxCommandBytes ++
    if len % maxCommandBytes = 0 then [] else [len % maxCommandBytes]

@[simp] theorem counts_zero : counts 0 = [] := by
  rw [counts, Nat.zero_div, Nat.zero_mod, if_pos rfl, List.replicate_zero, List.nil_append]

theorem counts_of_lt {len : Nat} (some : len ≠ 0) (small : len < maxCommandBytes) :
    counts len = [len] := by
  rw [counts, Nat.div_eq_of_lt small, Nat.mod_eq_of_lt small, if_neg some, List.replicate_zero,
    List.nil_append]

theorem counts_of_le {len : Nat} (full : maxCommandBytes ≤ len) :
    counts len = maxCommandBytes :: counts (len - maxCommandBytes) := by
  have positive : 0 < maxCommandBytes := by decide
  unfold counts
  generalize maxCommandBytes = most at full positive
  rw [Nat.div_eq_sub_div positive full, Nat.mod_eq_sub_mod full, List.replicate_succ,
    List.cons_append]

/-- Commands for a length carry its counts. -/
theorem lengthCommands_eq (opcode : UInt8) (len : Nat) :
    lengthCommands opcode len = (counts len).flatMap (lengthCommand opcode) := by
  fun_induction lengthCommands opcode len with
  | case1 => rw [counts_zero, List.flatMap_nil]
  | case2 len some ih =>
    rw [ih]
    rcases Nat.lt_or_ge len maxCommandBytes with small | full
    · rw [Nat.min_eq_left small.le, Nat.sub_self, counts_zero, counts_of_lt some small,
        List.flatMap_nil, List.append_nil, List.flatMap_singleton]
    · rw [Nat.min_eq_right full, counts_of_le full, List.flatMap_cons]

theorem mem_counts {len count : Nat} (member : count ∈ counts len) :
    1 ≤ count ∧ count ≤ maxCommandBytes := by
  rcases List.mem_append.mp member with full | left
  · rw [List.eq_of_mem_replicate full]
    decide
  · split_ifs at left with even
    · cases left
    · rw [List.mem_singleton.mp left]
      exact ⟨Nat.pos_of_ne_zero even, (Nat.mod_lt _ (by decide)).le⟩

theorem sum_counts (len : Nat) : (counts len).sum = len := by
  have split := Nat.div_add_mod' len maxCommandBytes
  rw [counts, List.sum_append, List.sum_replicate, smul_eq_mul]
  split_ifs with even
  · rw [List.sum_nil]
    omega
  · rw [List.sum_singleton]
    exact split

/-- There are no more commands than a length needs. -/
theorem length_counts (len : Nat) :
    (counts len).length = (len + (maxCommandBytes - 1)) / maxCommandBytes := by
  have size : maxCommandBytes = 65536 := rfl
  rw [counts, List.length_append, List.length_replicate]
  split_ifs with even
  · rw [List.length_nil]
    rw [size] at even ⊢
    omega
  · rw [List.length_singleton]
    rw [size] at even ⊢
    omega

theorem BusStep.bytes_write (reg : UInt8) (data : Bytes) :
    (BusStep.write reg data).bytes = writeFrame (Register.writeFlag ||| reg) data := by
  have whole : ((Register.writeFlag ||| reg) :: data).length = 1 + data.length :=
    Nat.add_comm _ _
  simp only [bytes, commands, assertion, writeFrame, select, deselect, AdapterCommand.bytes, whole,
    List.flatMap_cons, List.flatMap_nil, List.cons_append, List.nil_append, List.append_nil,
    List.append_assoc]

theorem BusStep.bytes_read (reg : UInt8) {count : Nat} (some : 1 ≤ count)
    (fits : count ≤ maxCommandBytes) : (BusStep.read reg count).bytes = readFrame reg count := by
  simp only [bytes, commands, assertion, readFrame, select, deselect, AdapterCommand.bytes,
    lengthCommands_of_le some fits, List.length_singleton, List.flatMap_cons, List.flatMap_nil,
    List.cons_append, List.nil_append, List.append_nil, List.append_assoc]

/-- Clocks that a step makes without data. -/
def BusStep.idleClocks : BusStep → Nat
  | clockGroups count => 8 * count
  | clockBits count => count
  | _ => 0

def BusStep.IsIdle : BusStep → Prop
  | clockGroups _ | clockBits _ => True
  | _ => False

/-- What idling comes to: whole groups of eight clocks, then the clocks that are left. -/
def idleSteps (cycles : Nat) : List BusStep :=
  (counts (cycles / 8)).map .clockGroups ++
    if cycles % 8 = 0 then [] else [.clockBits (cycles % 8)]

theorem idleCommands_eq (cycles : Nat) :
    idleCommands cycles = (idleSteps cycles).flatMap BusStep.bytes := by
  rw [idleCommands, idleSteps, lengthCommands_eq, List.flatMap_append, List.flatMap_map]
  split_ifs <;> rfl

/-- A group has the clocks that a length of 16 bits can say, and less than a byte is left. -/
theorem mem_idleSteps {cycles : Nat} {step : BusStep} (member : step ∈ idleSteps cycles) :
    (∃ count, step = .clockGroups count ∧ 1 ≤ count ∧ count ≤ maxCommandBytes) ∨
      ∃ count, step = .clockBits count ∧ 1 ≤ count ∧ count ≤ 7 := by
  rcases List.mem_append.mp member with group | left
  · obtain ⟨count, among, rfl⟩ := List.mem_map.mp group
    exact .inl ⟨count, rfl, mem_counts among⟩
  · split_ifs at left with even
    · cases left
    · refine .inr ⟨cycles % 8, List.mem_singleton.mp left, ?_⟩
      omega

theorem sized_idleSteps {cycles : Nat} : ∀ step ∈ idleSteps cycles, step.Sized := by
  intro step member
  rcases mem_idleSteps member with ⟨count, rfl, sized⟩ | ⟨count, rfl, some, few⟩
  · exact sized
  · exact ⟨some, few.trans (by decide)⟩

theorem sum_idleSteps (cycles : Nat) :
    ((idleSteps cycles).map BusStep.idleClocks).sum = cycles := by
  have groups : (((counts (cycles / 8)).map BusStep.clockGroups).map BusStep.idleClocks).sum =
      8 * (cycles / 8) := by
    have scaled := List.sum_map_mul_left (counts (cycles / 8)) (fun count => count) 8
    rw [List.map_id', sum_counts] at scaled
    rw [List.map_map]
    exact scaled
  have split := Nat.div_add_mod cycles 8
  rw [idleSteps, List.map_append, List.sum_append, groups]
  split_ifs with even
  · rw [List.map_nil, List.sum_nil]
    omega
  · exact split

/-- Idling takes as many clocks as were asked for. -/
theorem exists_idleSteps (cycles : Nat) :
    ∃ steps : List BusStep, (∀ step ∈ steps, step.Sized ∧ step.IsIdle) ∧
      (steps.map BusStep.idleClocks).sum = cycles ∧
      idleCommands cycles = steps.flatMap BusStep.bytes := by
  refine ⟨idleSteps cycles, fun step member => ⟨sized_idleSteps step member, ?_⟩,
    sum_idleSteps cycles, idleCommands_eq cycles⟩
  rcases mem_idleSteps member with ⟨count, rfl, -⟩ | ⟨count, rfl, -⟩ <;> trivial

/-- One assertion of chip select for each register that is written. -/
def stores (writes : List (UInt8 × UInt8)) : List BusStep :=
  writes.map fun write => .write write.1 [write.2]

/-- Address, length field and bulk length, the payload in pieces, and the command. -/
def packedSteps (addr : Addr) (field : UInt16) (pieces : List Bytes) : List BusStep :=
  let len := UInt16.ofNat pieces.flatten.length
  stores (Channel.addressWrites addr) ++
    stores [(Register.lenLo, lowByte field), (Register.lenHi, highByte field),
      (Register.bulkLenLo, lowByte len), (Register.bulkLenHi, highByte len)] ++
    pieces.map (.write Register.bulkWrite) ++ stores [(Register.cmd, Command.writeStart.code)]

theorem sized_stores {writes : List (UInt8 × UInt8)}
    (free : ∀ write ∈ writes, write.1 < Register.writeFlag) :
    ∀ step ∈ stores writes, step.Sized := by
  intro step among
  obtain ⟨write, member, rfl⟩ := List.mem_map.mp among
  exact ⟨free write member, (by decide : 1 ≤ maxChunkBytes)⟩

theorem flagless_addressWrites (addr : Addr) :
    ∀ write ∈ Channel.addressWrites addr, write.1 < Register.writeFlag := by
  intro write member
  have free : ∀ reg ∈ Register.address, reg < Register.writeFlag := by
    simp only [Register.address, List.forall_mem_cons]
    exact ⟨by decide, by decide, by decide, by decide, List.forall_mem_nil _⟩
  exact free write.1 (List.of_mem_zip member).1

theorem sized_packedSteps (addr : Addr) (field : UInt16) {pieces : List Bytes}
    (fits : ∀ piece ∈ pieces, piece.length ≤ maxChunkBytes) :
    ∀ step ∈ packedSteps addr field pieces, step.Sized := by
  have payload : ∀ step ∈ pieces.map (BusStep.write Register.bulkWrite), step.Sized := by
    intro step among
    obtain ⟨piece, member, rfl⟩ := List.mem_map.mp among
    exact ⟨by decide, fits piece member⟩
  have fields {low high low' high' : UInt8} :
      ∀ write ∈ [(Register.lenLo, low), (Register.lenHi, high), (Register.bulkLenLo, low'),
        (Register.bulkLenHi, high')], write.1 < Register.writeFlag := by
    simp only [List.forall_mem_cons]
    exact ⟨by decide, by decide, by decide, by decide, List.forall_mem_nil _⟩
  have command : ∀ write ∈ [(Register.cmd, Command.writeStart.code)],
      write.1 < Register.writeFlag := List.forall_mem_singleton.mpr (by decide)
  rw [packedSteps]
  simp only [List.forall_mem_append]
  exact ⟨⟨⟨sized_stores (flagless_addressWrites addr), sized_stores fields⟩, payload⟩,
    sized_stores command⟩

theorem bytes_stores (writes : List (UInt8 × UInt8)) :
    (stores writes).flatMap BusStep.bytes =
      (writes.map fun write => writeRegisterFrame write.1 write.2).flatten := by
  rw [stores, List.flatMap_map, List.flatMap_def]
  simp only [BusStep.bytes_write, writeRegisterFrame]

/-- The frames of a packed write are the bytes of its steps. -/
theorem packedFrames_eq {chunk : Nat} (positive : 0 < chunk) (addr : Addr) (field : UInt16)
    (payload : Bytes) : packedFrames chunk addr field payload =
      (packedSteps addr field (Bytes.chunks chunk payload)).flatMap BusStep.bytes := by
  have whole := Bytes.flatten_chunks chunk positive payload
  have pieces : ((Bytes.chunks chunk payload).map (BusStep.write Register.bulkWrite)).flatMap
      BusStep.bytes = ((Bytes.chunks chunk payload).map
        (writeFrame (Register.writeFlag ||| Register.bulkWrite))).flatten := by
    rw [List.flatMap_map, List.flatMap_def]
    simp only [BusStep.bytes_write]
  have word := littleEndian_word field.toNat
  rw [UInt16.ofNat_toNat] at word
  simp only [packedSteps, whole, List.flatMap_append, bytes_stores, pieces]
  rw [packedFrames, word, littleEndian_word]
  simp only [List.map_append, List.flatten_append]
  rfl

end Spi

end LineBridge

import Mathlib
import LineBridge.Device.Channel

/-! What single accesses do to a simulated bridge. Programming changes registers only, reading
a status changes what is still to be waited for, and the start of a transaction depends on the
programmed address and length and on what is buffered. -/

namespace LineBridge

theorem joinBytes_low_high (value : UInt16) :
    joinBytes (lowByte value) (highByte value) = value := by
  apply UInt16.toNat_inj.mp
  have small := value.toNat_lt
  have low : value.toNat % 2 ^ 8 < 2 ^ 8 := Nat.mod_lt _ (by decide)
  have high : value.toNat / 2 ^ 8 < 2 ^ 8 := by omega
  have shifted : (value.toNat / 2 ^ 8 % 2 ^ 8) <<< 8 % 2 ^ 16 = 2 ^ 8 * (value.toNat / 2 ^ 8) := by
    rw [Nat.shiftLeft_eq, Nat.mod_eq_of_lt high, Nat.mul_comm, Nat.mod_eq_of_lt (by omega)]
  simp only [joinBytes, lowByte, highByte, UInt16.toNat_or, UInt16.toNat_shiftLeft,
    UInt8.toNat_toUInt16, UInt16.toNat_toUInt8, UInt16.toNat_shiftRight, Nat.shiftRight_eq_div_pow]
  change value.toNat % 2 ^ 8 ||| (value.toNat / 2 ^ 8 % 2 ^ 8) <<< 8 % 2 ^ 16 = value.toNat
  rw [shifted, Nat.or_comm, ← Nat.two_pow_add_eq_or_of_lt low]
  exact Nat.div_add_mod _ _

namespace Device

theorem Answers.ne_last {reg : UInt8} (answers : Answers reg) : reg ≠ 0xFF := by
  rintro rfl
  exact absurd answers (by decide)

/-- The register keeps what is written to it, and does nothing else. -/
def Plain (reg : UInt8) : Prop :=
  reg ∈ Register.address ++ [Register.lenLo, Register.lenHi, Register.bulkLenLo,
    Register.bulkLenHi, Register.scratch]

instance (reg : UInt8) : Decidable (Plain reg) := inferInstanceAs (Decidable (_ ∈ _))

theorem Plain.answers {reg : UInt8} (plain : Plain reg) : Answers reg := by
  revert plain
  simp only [Plain, Register.address, List.cons_append, List.nil_append, List.mem_cons,
    List.not_mem_nil, or_false]
  intro member
  rcases member with rfl | rfl | rfl | rfl | rfl | rfl | rfl | rfl | rfl <;> decide

theorem Plain.afterWrite {reg : UInt8} (plain : Plain reg) (d : Device) (value : UInt8) :
    d.afterWrite reg value = d.setRegister reg value := by
  revert plain
  simp only [Plain, Register.address, List.cons_append, List.nil_append, List.mem_cons,
    List.not_mem_nil, or_false]
  intro member
  rcases member with rfl | rfl | rfl | rfl | rfl | rfl | rfl | rfl | rfl <;> rfl

theorem plain_of_mem_addressWrites {addr : Addr} {write : UInt8 × UInt8}
    (member : write ∈ Channel.addressWrites addr) : Plain write.1 :=
  List.mem_append_left _ (List.of_mem_zip member).1

theorem register_setRegister (d : Device) {reg : UInt8} (answers : Answers reg) (r value : UInt8) :
    (d.setRegister reg value).register r = if reg = r then value else d.register r := by
  have inside : reg.toNat < 16 := answers
  simp only [register, setRegister, Vector.getElem?_setIfInBounds, UInt8.toNat_inj, if_pos inside]
  split <;> rfl

/-- The device after several registers have been written. -/
def stored (d : Device) (writes : List (UInt8 × UInt8)) : Device :=
  writes.foldl (fun d write => d.setRegister write.1 write.2) d

theorem stored_append (d : Device) (first last : List (UInt8 × UInt8)) :
    d.stored (first ++ last) = (d.stored first).stored last := List.foldl_append

/-- `d'` is `d` but for what its registers hold. -/
def Rewritten (d d' : Device) : Prop := ∃ registers, d' = { d with registers }

theorem Rewritten.refl (d : Device) : d.Rewritten d := ⟨d.registers, rfl⟩

theorem Rewritten.trans {a b c : Device} (first : a.Rewritten b) (last : b.Rewritten c) :
    a.Rewritten c := by
  obtain ⟨r, rfl⟩ := first
  obtain ⟨r', rfl⟩ := last
  exact ⟨r', rfl⟩

theorem rewritten_setRegister (d : Device) (reg value : UInt8) :
    d.Rewritten (d.setRegister reg value) := ⟨_, rfl⟩

theorem rewritten_stored (d : Device) (writes : List (UInt8 × UInt8)) :
    d.Rewritten (d.stored writes) := by
  induction writes generalizing d with
  | nil => exact .refl d
  | cons write rest ih => exact (d.rewritten_setRegister write.1 write.2).trans (ih _)

/-- The registers of a whole transaction's address and length field. -/
def programming (addr : Addr) (field : UInt16) : List (UInt8 × UInt8) :=
  Channel.addressWrites addr ++
    [(Register.lenLo, lowByte field), (Register.lenHi, highByte field)]

theorem address_of_bytes {d : Device} {addr : Addr}
    (held : Register.address.map d.register = addr.bytes) : d.address = addr := by
  unfold address
  rw [held]
  simp only [Addr.bytes, Bytes.ofLittleEndian_littleEndian]
  have whole : addr.val.toNat % Bytes.capacity 4 = addr.val.toNat :=
    Nat.mod_eq_of_lt addr.val.toNat_lt
  rw [whole, UInt32.ofNat_toNat]

theorem address_programming (d : Device) (addr : Addr) (field : UInt16) :
    (d.stored (programming addr field)).address = addr := by
  apply address_of_bytes
  simp only [Addr.bytes, Bytes.littleEndian, programming, Channel.addressWrites, Register.address,
    List.zip_cons_cons, List.zip_nil_right, List.cons_append, List.nil_append, stored,
    List.foldl_cons, List.foldl_nil, List.map_cons, List.map_nil]
  simp +decide [register_setRegister]

theorem lines_programming (d : Device) (addr : Addr) (field : UInt16) :
    (d.stored (programming addr field)).lines = field.toNat + 1 := by
  have low : (d.stored (programming addr field)).register Register.lenLo = lowByte field := by
    simp only [programming, stored_append]
    simp +decide [stored, register_setRegister]
  have high : (d.stored (programming addr field)).register Register.lenHi = highByte field := by
    simp only [programming, stored_append]
    simp +decide [stored, register_setRegister]
  rw [lines, low, high, joinBytes_low_high]

/-- What no access but an accepted write changes. -/
structure Keeps (d d' : Device) : Prop where
  memory : d'.memory = d.memory
  writes : d'.writes = d.writes
  latency : d'.latency = d.latency
  skew : d'.skew = d.skew
  stuck : d'.stuck = d.stuck

theorem Keeps.refl (d : Device) : d.Keeps d := ⟨rfl, rfl, rfl, rfl, rfl⟩

theorem Keeps.trans {a b c : Device} (first : a.Keeps b) (last : b.Keeps c) : a.Keeps c :=
  ⟨last.memory.trans first.memory, last.writes.trans first.writes,
    last.latency.trans first.latency, last.skew.trans first.skew, last.stuck.trans first.stuck⟩

theorem Rewritten.keeps {d d' : Device} (h : d.Rewritten d') : d.Keeps d' := by
  obtain ⟨r, rfl⟩ := h
  exact ⟨rfl, rfl, rfl, rfl, rfl⟩

theorem Rewritten.readFifo {d d' : Device} (h : d.Rewritten d') : d'.readFifo = d.readFifo := by
  obtain ⟨r, rfl⟩ := h
  rfl

/-- Nothing is buffered and nothing is waited for. -/
structure Idle (d : Device) : Prop where
  readFifo : d.readFifo = []
  writeFifo : d.writeFifo = #[]
  statusWait : d.statusWait = 0
  writeStatusWait : d.writeStatusWait = 0
  countWait : d.countWait = 0

/-- Idle, with no command standing and nothing to report. -/
structure Cleared (d : Device) : Prop extends Idle d where
  command : d.register Register.cmd = Command.null.code
  status : d.register Register.status = Status.idle.code
  writeStatus : d.register Register.writeStatus = Status.idle.code

/-- A status that is not waited for is done. -/
def Ripe (d : Device) (reg : UInt8) : Prop := d.wait reg = 0 → d.register reg = Status.done.code

theorem address_setRegister_cmd (d : Device) (value : UInt8) :
    (d.setRegister Register.cmd value).address = d.address := by
  simp +decide [address, Register.address, register_setRegister]

theorem lines_setRegister_cmd (d : Device) (value : UInt8) :
    (d.setRegister Register.cmd value).lines = d.lines := by
  simp +decide [lines, register_setRegister]

/-- The device when a command has been written to it and logged. -/
def commanded (d : Device) (c : Command) : Device :=
  { d.setRegister Register.cmd c.code with commands := ⟨c, d.address, d.lines⟩ :: d.commands }

theorem afterWrite_cmd (d : Device) (c : Command) :
    d.afterWrite Register.cmd c.code = match c with
      | .null => (d.commanded .null).clear
      | .readStart => (d.commanded .readStart).startRead
      | .writeStart => (d.commanded .writeStart).startWrite := by
  have known : Command.ofCode? c.code = some c := Command.ofCode?_eq_some_iff.mpr rfl
  change (d.setRegister Register.cmd c.code).execute c.code = _
  simp only [execute, known, address_setRegister_cmd, lines_setRegister_cmd]
  cases c <;> rfl

theorem address_commanded (d : Device) (c : Command) : (d.commanded c).address = d.address :=
  d.address_setRegister_cmd c.code

theorem lines_commanded (d : Device) (c : Command) : (d.commanded c).lines = d.lines :=
  d.lines_setRegister_cmd c.code

theorem keeps_commanded (d : Device) (c : Command) : d.Keeps (d.commanded c) :=
  ⟨rfl, rfl, rfl, rfl, rfl⟩

theorem register_complete (d : Device) {reg : UInt8} (answers : Answers reg) :
    (d.complete reg).register reg =
      if d.latency = 0 then Status.done.code else Status.busy.code := by
  have set := d.register_setRegister answers reg
    (if d.latency = 0 then Status.done else Status.busy).code
  rw [if_pos rfl] at set
  have same : (d.complete reg).register reg =
      (d.setStatus reg (if d.latency = 0 then .done else .busy)).register reg := by
    unfold complete setWait
    split <;> rfl
  rw [same, setStatus, set]
  split <;> rfl

theorem wait_complete (d : Device) (reg : UInt8) : (d.complete reg).wait reg = d.latency := by
  unfold complete setWait wait
  split <;> rfl

theorem ripe_complete (d : Device) {reg : UInt8} (answers : Answers reg) :
    (d.complete reg).Ripe reg := by
  intro finished
  rw [wait_complete] at finished
  rw [register_complete d answers, if_pos finished]

theorem keeps_complete (d : Device) (reg : UInt8) : d.Keeps (d.complete reg) := by
  unfold complete setWait
  split <;> exact ⟨rfl, rfl, rfl, rfl, rfl⟩

/-- What the start of a read of `count` bytes leaves. -/
structure ReadStarted (d : Device) (addr : Addr) (count : Nat) (d' : Device) : Prop
    extends Keeps d d' where
  readFifo : d'.readFifo = d.memory.peek addr count
  statusWait : d'.wait Register.status = d.latency
  countWait : d'.countWait = d.latency
  ripe : d'.Ripe Register.status

theorem Keeps.trans_readStarted {a b c : Device} {addr : Addr} {count : Nat}
    (first : a.Keeps b) (last : b.ReadStarted addr count c) : a.ReadStarted addr count c where
  toKeeps := first.trans last.toKeeps
  readFifo := first.memory ▸ last.readFifo
  statusWait := last.statusWait.trans first.latency
  countWait := last.countWait.trans first.latency
  ripe := last.ripe

theorem readStarted {d : Device} (aligned : d.address.IsLineAligned)
    (fits : d.lines * lineBytes ≤ maxBulkBytes) :
    d.ReadStarted d.address (d.lines * lineBytes)
      (d.afterWrite Register.cmd Command.readStart.code) := by
  rw [afterWrite_cmd]
  simp only [startRead, address_commanded, lines_commanded]
  rw [if_pos ⟨aligned, fits⟩]
  exact {
    keeps_complete _ _ with
    readFifo := rfl
    statusWait := wait_complete _ _
    countWait := rfl
    ripe := ripe_complete _ (by decide) }

/-- A finished read reports what is buffered only if its count is not skewed: the count is held
within 16 bits, but what is buffered stays short of the bound. -/
theorem reportedCount_eq_length_iff {d : Device} (finished : d.wait Register.status = 0)
    (done : d.register Register.status = Status.done.code) (some : 0 < d.readFifo.length)
    (fits : d.readFifo.length < maxBulkBytes) :
    d.reportedCount = UInt16.ofNat d.readFifo.length ↔ d.skew = 0 := by
  have small : d.readFifo.length < 65535 := fits
  rw [reportedCount, if_pos ⟨done, finished⟩, ← UInt16.toNat_inj, UInt16.toNat_ofNat',
    UInt16.toNat_ofNat', Nat.mod_eq_of_lt (by omega), Nat.mod_eq_of_lt (by omega)]
  omega

/-- `payload` has been written to `addr` as one transaction. -/
structure Applied (d : Device) (addr : Addr) (payload : Bytes) (d' : Device) : Prop where
  memory : d'.memory = d.memory.poke addr payload
  writes : d'.writes = ⟨addr, payload⟩ :: d.writes
  latency : d'.latency = d.latency
  skew : d'.skew = d.skew
  stuck : d'.stuck = d.stuck

theorem Applied.trans_keeps {a b c : Device} {addr : Addr} {payload : Bytes}
    (first : a.Applied addr payload b) (last : b.Keeps c) : a.Applied addr payload c :=
  ⟨last.memory.trans first.memory, last.writes.trans first.writes,
    last.latency.trans first.latency, last.skew.trans first.skew, last.stuck.trans first.stuck⟩

theorem Keeps.trans_applied {a b c : Device} {addr : Addr} {payload : Bytes}
    (first : a.Keeps b) (last : b.Applied addr payload c) : a.Applied addr payload c where
  memory := by rw [last.memory, first.memory]
  writes := by rw [last.writes, first.writes]
  latency := last.latency.trans first.latency
  skew := last.skew.trans first.skew
  stuck := last.stuck.trans first.stuck

/-- What a started write of `payload` leaves. If bytes were buffered before it, the device
refuses it, but a wait that was pending stays pending. -/
structure WriteStarted (d : Device) (addr : Addr) (payload : Bytes) (d' : Device) : Prop where
  accepted : d.writeFifo = #[] → d.Applied addr payload d' ∧
    d'.wait Register.writeStatus = d.latency ∧ d'.Ripe Register.writeStatus
  refused : d.writeFifo ≠ #[] → d.Keeps d' ∧
    d'.wait Register.writeStatus = d.writeStatusWait ∧
    d'.register Register.writeStatus = Status.error.code

theorem Rewritten.trans_writeStarted {a b c : Device} {addr : Addr} {payload : Bytes}
    (first : a.Rewritten b) (last : b.WriteStarted addr payload c) :
    a.WriteStarted addr payload c := by
  have keeps := first.keeps
  obtain ⟨registers, rfl⟩ := first
  constructor
  · intro empty
    obtain ⟨applied, wait, ripe⟩ := last.accepted empty
    exact ⟨keeps.trans_applied applied, wait, ripe⟩
  · intro some
    obtain ⟨kept, wait, error⟩ := last.refused some
    exact ⟨keeps.trans kept, wait, error⟩

/-- The registers of a burst's length. -/
def announcing (count : Nat) : List (UInt8 × UInt8) :=
  [(Register.bulkLenLo, lowByte (UInt16.ofNat count)),
    (Register.bulkLenHi, highByte (UInt16.ofNat count))]

/-- The device when a burst has been announced and streamed to it. -/
def streamed (d : Device) (data : Bytes) : Device :=
  { d.stored (announcing data.length) with writeFifo := d.writeFifo ++ data }

theorem address_streamed (d : Device) (data : Bytes) : (d.streamed data).address = d.address := by
  change (d.stored (announcing data.length)).address = d.address
  simp +decide [announcing, address, Register.address, stored, register_setRegister]

theorem lines_streamed (d : Device) (data : Bytes) : (d.streamed data).lines = d.lines := by
  change (d.stored (announcing data.length)).lines = d.lines
  simp +decide [announcing, lines, stored, register_setRegister]

theorem keeps_streamed (d : Device) (data : Bytes) : d.Keeps (d.streamed data) :=
  ⟨rfl, rfl, rfl, rfl, rfl⟩

theorem writeStarted {d : Device} {payload : Bytes} (aligned : d.address.IsLineAligned)
    (announced : payload.length = d.lines * lineBytes) :
    d.WriteStarted d.address payload
      ((d.streamed payload).afterWrite Register.cmd Command.writeStart.code) := by
  have size := Bytes.size_append d.writeFifo payload
  have fifo : ((d.streamed payload).commanded .writeStart).writeFifo = d.writeFifo ++ payload := rfl
  have kept : d.Keeps ((d.streamed payload).commanded .writeStart) :=
    (d.keeps_streamed payload).trans (keeps_commanded _ _)
  have wait :
      ((d.streamed payload).commanded .writeStart).writeStatusWait = d.writeStatusWait := rfl
  simp only [afterWrite_cmd, startWrite, address_commanded, lines_commanded, fifo,
    address_streamed, lines_streamed, size]
  generalize (d.streamed payload).commanded .writeStart = d₁ at kept wait
  constructor
  · intro empty
    have bytes : (d.writeFifo ++ payload).toList = payload := by
      rw [Array.toList_appendList, empty, List.nil_append]
    have exact : d.writeFifo.size + payload.length = d.lines * lineBytes := by
      rw [empty, announced, Array.size_empty, Nat.zero_add]
    rw [if_pos ⟨aligned, exact⟩, bytes]
    refine ⟨kept.trans_applied ?_, (wait_complete _ _).trans kept.latency,
      ripe_complete _ (by decide)⟩
    refine Applied.trans_keeps ?_ (keeps_complete _ _)
    exact ⟨rfl, rfl, rfl, rfl, rfl⟩
  · intro some
    have larger : ¬(d.address.IsLineAligned ∧
        d.writeFifo.size + payload.length = d.lines * lineBytes) := by
      intro h
      have none : d.writeFifo.size = 0 := by omega
      exact some (Array.eq_empty_of_size_eq_zero none)
    rw [if_neg larger]
    refine ⟨kept.trans ⟨rfl, rfl, rfl, rfl, rfl⟩, wait, ?_⟩
    exact (register_setRegister _ (by decide) _ _).trans (if_pos rfl)

theorem register_afterWrite_null (d : Device) (reg : UInt8) :
    (d.afterWrite Register.cmd Command.null.code).register reg =
      (((d.setRegister Register.cmd Command.null.code).setStatus Register.status
        .idle).setStatus Register.writeStatus .idle).register reg := by
  rw [afterWrite_cmd]
  rfl

theorem cleared_afterWrite_null (d : Device) :
    (d.afterWrite Register.cmd Command.null.code).Cleared where
  toIdle := by
    rw [afterWrite_cmd]
    exact ⟨rfl, rfl, rfl, rfl, rfl⟩
  command := by simp +decide [register_afterWrite_null, setStatus, register_setRegister]
  status := by simp +decide [register_afterWrite_null, setStatus, register_setRegister]
  writeStatus := by simp +decide [register_afterWrite_null, setStatus, register_setRegister]

theorem keeps_afterWrite_null (d : Device) :
    d.Keeps (d.afterWrite Register.cmd Command.null.code) := by
  rw [afterWrite_cmd]
  exact ⟨rfl, rfl, rfl, rfl, rfl⟩

end Device

end LineBridge

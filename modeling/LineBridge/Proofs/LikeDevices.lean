import Mathlib
import LineBridge.Proofs.FlatMemory
import LineBridge.Proofs.Mirroring

/-! Devices that a driver cannot tell apart. Between transactions they need not agree in the
registers that the next transaction programs, nor in the mark that hides a count, nor in what
their logs hold from earlier. -/

namespace LineBridge

open LineBridge.Action (Agree Follows)

namespace Device

def statuses : List UInt8 := [Register.status, Register.writeStatus]

/-- The registers that a transaction depends on when it has been programmed. -/
def programmed : List UInt8 := Register.lenHi :: Register.lenLo :: Register.address ++ statuses

/-- Devices that differ at most in registers that are not shown, and in how their memory is
stored; the logs of `d` go on from those of `past` as the logs of `e` grow. -/
structure Alike (past : Device) (shown : List UInt8) (d e : Device) : Prop where
  memory : d.memory.byteAt = e.memory.byteAt
  readFifo : d.readFifo = e.readFifo
  writeFifo : d.writeFifo = e.writeFifo
  latency : d.latency = e.latency
  statusWait : d.statusWait = e.statusWait
  writeStatusWait : d.writeStatusWait = e.writeStatusWait
  countWait : d.countWait = e.countWait
  skew : d.skew = e.skew
  stuck : d.stuck = e.stuck
  registers : ∀ reg ∈ shown, d.register reg = e.register reg
  writes : d.writes = e.writes ++ past.writes
  commands : d.commands = e.commands ++ past.commands
  idleCycles : d.idleCycles = e.idleCycles + past.idleCycles

theorem lines_le (d : Device) : d.lines ≤ maxLineField :=
  (joinBytes _ _).toNat_lt

namespace Alike

variable {past d e : Device} {shown : List UInt8}

theorem subset {other : List UInt8} (h : Alike past shown d e) (fewer : other ⊆ shown) :
    Alike past other d e :=
  { h with registers := fun reg member => h.registers reg (fewer member) }

theorem setRegister (h : Alike past shown d e) {reg : UInt8} (answers : Answers reg)
    (value : UInt8) :
    Alike past (reg :: shown) (d.setRegister reg value) (e.setRegister reg value) := by
  refine { h with registers := fun r member => ?_ }
  rw [register_setRegister d answers, register_setRegister e answers]
  split
  · rfl
  · next other =>
    exact h.registers r ((List.mem_cons.mp member).resolve_left fun same => other same.symm)

theorem setStatus (h : Alike past shown d e) {reg : UInt8} (status : IsStatus reg)
    (value : Status) : Alike past shown (d.setStatus reg value) (e.setStatus reg value) :=
  (h.setRegister status.answers value.code).subset (List.subset_cons_self _ _)

theorem wait (h : Alike past shown d e) (reg : UInt8) : d.wait reg = e.wait reg := by
  unfold Device.wait
  rw [h.statusWait, h.writeStatusWait]

theorem setWait (h : Alike past shown d e) (reg : UInt8) (reads : Nat) :
    Alike past shown (d.setWait reg reads) (e.setWait reg reads) := by
  unfold Device.setWait
  split
  · exact { h with statusWait := rfl }
  · exact { h with writeStatusWait := rfl }

theorem complete (h : Alike past shown d e) {reg : UInt8} (status : IsStatus reg) :
    Alike past shown (d.complete reg) (e.complete reg) := by
  unfold Device.complete
  rw [h.latency]
  exact (h.setStatus status _).setWait reg _

theorem readStatus (h : Alike past shown d e) {reg : UInt8} (status : IsStatus reg)
    (seen : reg ∈ shown) :
    (d.readStatus reg).1 = (e.readStatus reg).1 ∧
      Alike past shown (d.readStatus reg).2 (e.readStatus reg).2 := by
  unfold Device.readStatus
  rw [h.stuck, h.wait]
  split
  · exact ⟨rfl, h⟩
  · split
    · exact ⟨h.registers reg seen, h⟩
    · exact ⟨rfl, (h.setWait reg 0).setStatus status .done⟩
    · exact ⟨rfl, h.setWait reg _⟩

theorem reportedCount (h : Alike past shown d e) (seen : Register.status ∈ shown) :
    d.reportedCount = e.reportedCount := by
  unfold Device.reportedCount
  rw [h.registers _ seen, h.statusWait, h.readFifo, h.skew]

theorem readCountLo (h : Alike past shown d e) (seen : Register.status ∈ shown) :
    d.readCountLo.1 = e.readCountLo.1 ∧ Alike past shown d.readCountLo.2 e.readCountLo.2 ∧
      d.readCountLo.2.countHidden = e.readCountLo.2.countHidden := by
  unfold Device.readCountLo
  rw [h.countWait, h.reportedCount seen]
  split
  · exact ⟨rfl, { h with countWait := rfl }, rfl⟩
  · exact ⟨rfl, { h with countWait := rfl }, rfl⟩

theorem address (h : Alike past shown d e) (seen : Register.address ⊆ shown) :
    d.address = e.address := by
  have same : Register.address.map d.register = Register.address.map e.register :=
    List.map_congr_left fun reg member => h.registers reg (seen member)
  rw [Device.address, same]
  rfl

theorem lines (h : Alike past shown d e) (low : Register.lenLo ∈ shown)
    (high : Register.lenHi ∈ shown) : d.lines = e.lines := by
  unfold Device.lines
  rw [h.registers _ low, h.registers _ high]

section Commands

variable (h : Alike past programmed d e)
include h

theorem commanded (c : Command) :
    Alike past programmed (d.commanded c) (e.commanded c) := by
  have told := (h.setRegister (show Answers Register.cmd by decide) c.code).subset
    (List.subset_cons_self _ _)
  refine { told with commands := ?_ }
  change ⟨c, d.address, d.lines⟩ :: d.commands = _
  rw [h.address (by decide), h.lines (by decide) (by decide), h.commands]
  rfl

theorem clear : Alike past programmed d.clear e.clear := by
  have idle := (h.setStatus (.inl rfl) .idle).setStatus (.inr rfl) .idle
  exact { idle with
    readFifo := rfl, writeFifo := rfl, statusWait := rfl, writeStatusWait := rfl,
    countWait := rfl }

theorem startRead : Alike past programmed d.startRead e.startRead := by
  unfold Device.startRead
  rw [h.address (by decide), h.lines (by decide) (by decide)]
  dsimp only
  split
  · have filled : d.memory.peek e.address (e.lines * lineBytes) =
        e.memory.peek e.address (e.lines * lineBytes) := by
      rw [LineStore.peek_eq_read, LineStore.peek_eq_read, h.memory]
    refine Alike.complete ?_ (.inl rfl)
    exact { h with readFifo := filled, countWait := h.latency }
  · exact h.setStatus (.inl rfl) .error

theorem startWrite : Alike past programmed d.startWrite e.startWrite := by
  unfold Device.startWrite
  rw [h.address (by decide), h.lines (by decide) (by decide), h.writeFifo]
  dsimp only
  split
  · next accepted =>
    have fits : e.writeFifo.toList.length ≤ spaceBytes := by
      rw [Array.length_toList, accepted.2]
      exact (Nat.mul_le_mul_right _ e.lines_le).trans (by decide)
    refine Alike.complete ?_ (.inr rfl)
    exact { h with
      writeFifo := rfl
      memory := by rw [LineStore.byteAt_poke _ _ fits, LineStore.byteAt_poke _ _ fits, h.memory]
      writes := congrArg (_ :: ·) h.writes }
  · have dropped : Alike past programmed { d with writeFifo := #[] } { e with writeFifo := #[] } :=
      { h with writeFifo := rfl }
    exact dropped.setStatus (.inr rfl) .error

theorem afterWrite_cmd (c : Command) : Alike past programmed
    (d.afterWrite Register.cmd c.code) (e.afterWrite Register.cmd c.code) := by
  rw [d.afterWrite_cmd, e.afterWrite_cmd]
  cases c with
  | null => exact (h.commanded .null).clear
  | readStart => exact (h.commanded .readStart).startRead
  | writeStart => exact (h.commanded .writeStart).startWrite

end Commands

end Alike

section Accesses

variable {past : Device} {shown : List UInt8} {E : Device → Device → Prop}

theorem writeRegister_agree {reg : UInt8} (plain : Plain reg) (value : UInt8) :
    Agree (Alike past shown) (writeRegister reg value) (writeRegister reg value)
      (fun _ => Alike past (reg :: shown)) E := by
  unfold writeRegister
  rw [if_pos plain.answers]
  refine Agree.modify fun d e alike => ?_
  rw [plain.afterWrite, plain.afterWrite]
  exact alike.setRegister plain.answers value

theorem writeEach_agree {writes : List (UInt8 × UInt8)}
    (plain : ∀ write ∈ writes, Plain write.1) :
    Agree (Alike past shown) (channel.writeEach writes) (channel.writeEach writes)
      (fun _ => Alike past ((writes.map Prod.fst).reverse ++ shown)) E := by
  induction writes generalizing shown with
  | nil => exact Agree.pure fun _ _ alike => alike
  | cons write rest ih =>
    apply Agree.bind (writeRegister_agree (plain write (List.mem_cons_self ..)) write.2)
    intro _
    rw [List.map_cons, List.reverse_cons, List.append_assoc, List.singleton_append]
    exact ih fun w member => plain w (List.mem_cons_of_mem _ member)

theorem writePair_agree {lo : UInt8} (low : Plain lo) (high : Plain (lo + 1)) (value : UInt16) :
    Agree (Alike past shown) (channel.writePair lo value) (channel.writePair lo value)
      (fun _ => Alike past ((lo + 1) :: lo :: shown)) E := by
  rw [Channel.writePair_eq _ low.answers.ne_last]
  apply Agree.bind (writeRegister_agree low _)
  intro _
  exact writeRegister_agree high _

/-- Programming sets all that a transaction depends on. -/
theorem program_agree (addr : Addr) (field : UInt16) :
    Agree (Alike past statuses)
      (channel.writeEach (Channel.addressWrites addr) >>= fun _ =>
        channel.writePair Register.lenLo field)
      (channel.writeEach (Channel.addressWrites addr) >>= fun _ =>
        channel.writePair Register.lenLo field)
      (fun _ => Alike past programmed) E := by
  apply Agree.bind (writeEach_agree fun _ member => plain_of_mem_addressWrites member)
  intro _
  have set : (Channel.addressWrites addr).map Prod.fst = Register.address :=
    List.map_fst_zip (by simp [Addr.bytes, Register.address])
  rw [set]
  refine (writePair_agree (by decide) (by decide) field).weaken (fun _ _ before => before)
    (fun _ _ _ after => after.subset (by decide)) fun _ _ after => after

theorem announce_follows (field : UInt16) :
    Follows (Alike past shown) (channel.writePair Register.bulkLenLo field)
      (channel.writePair Register.bulkLenLo field) :=
  (writePair_agree (by decide) (by decide) field).weaken (fun _ _ before => before)
    (fun _ _ _ after => after.subset fun _ member => .tail _ (.tail _ member))
    fun _ _ after => after

theorem command_follows (c : Command) :
    Follows (Alike past programmed) (writeRegister Register.cmd c.code)
      (writeRegister Register.cmd c.code) :=
  Agree.modify fun _ _ alike => alike.afterWrite_cmd c

theorem writeBulk_follows (data : Bytes) :
    Follows (Alike past shown) (writeBulk data) (writeBulk data) :=
  Agree.modify fun _ _ alike =>
    { alike with
      writeFifo := congrArg (fun buffered : Array UInt8 => buffered ++ data) alike.writeFifo }

theorem readBulk_follows (count : Nat) :
    Follows (Alike past shown) (readBulk count) (readBulk count) := by
  intro d e alike
  have same := alike.readFifo
  by_cases short : (e.readFifo.take count).length < count
  · refine ⟨.error (.link (.underrun count e.readFifo.length)), d, e, ?_, if_pos short, alike⟩
    rw [← same] at short ⊢
    exact if_pos short
  · refine ⟨.ok (e.readFifo.take count), { d with readFifo := d.readFifo.drop count }, _, ?_,
      if_neg short, { alike with readFifo := congrArg (List.drop count) same }⟩
    rw [← same] at short ⊢
    exact if_neg short

theorem readStatus_follows {reg : UInt8} (status : IsStatus reg) (seen : reg ∈ shown) :
    Follows (Alike past shown) (readRegister reg) (readRegister reg) := by
  unfold readRegister
  rw [if_pos status.answers]
  refine Agree.modifyGet fun d e alike => ?_
  rw [status.afterRead, status.afterRead]
  exact alike.readStatus status seen

/-- The first half of a count settles whether the second half is shown. -/
theorem readCount_follows (seen : Register.status ∈ shown) :
    Follows (Alike past shown) (channel.readPair Register.countLo)
      (channel.readPair Register.countLo) := by
  rw [Channel.readPair_eq _ (by decide)]
  apply Agree.bind (Q := fun _ d e => Alike past shown d e ∧ d.countHidden = e.countHidden)
  · exact Agree.modifyGet fun d e alike => alike.readCountLo seen
  intro low
  apply Agree.bind (Q := fun _ => Alike past shown)
  · refine Agree.modifyGet fun d e before => ⟨?_, before.1⟩
    change d.readCountHi = e.readCountHi
    unfold readCountHi
    rw [before.2, before.1.reportedCount seen]
  intro high
  exact Follows.pure _

theorem idleClock_follows (cycles : UInt32) :
    Follows (Alike past shown) (idleClock cycles) (idleClock cycles) := by
  refine Agree.modify fun d e alike => { alike with idleCycles := ?_ }
  change d.idleCycles + cycles.toNat = e.idleCycles + cycles.toNat + past.idleCycles
  rw [alike.idleCycles]
  omega

theorem packedWrite_agree (addr : Addr) (field : UInt16) (payload : Bytes) :
    Agree (Alike past statuses) (channel.packedWrite addr field payload)
      (channel.packedWrite addr field payload) (fun _ => Alike past programmed)
      (Alike past statuses) := by
  have forget : ∀ d e, Alike past programmed d e → Alike past statuses d e :=
    fun _ _ alike => alike.subset (by decide)
  unfold Channel.packedWrite
  rw [← bind_assoc]
  apply Agree.bind (program_agree addr field)
  intro _
  apply Agree.bind ((announce_follows _).within forget)
  intro _
  apply Agree.bind ((writeBulk_follows payload).within forget)
  intro _
  exact (command_follows .writeStart).within forget

/-- On devices that are alike between transactions, every transaction goes the same way. -/
theorem link_copies (past : Device) :
    link.Copies .exact id (fun _ => True) (Alike past statuses) (Alike past programmed) where
  now _ := rfl
  forget alike := alike.subset (by decide)
  program := program_agree
  packedWrite addr field payload _ := packedWrite_agree addr field payload
  command := command_follows
  announce := announce_follows
  writeBulk _ := writeBulk_follows _
  readBulk _ := (readBulk_follows _).weaken (fun _ _ before => before.1)
    (fun _ _ _ after => after) fun _ _ after => after
  pollStatus expected _ status _ := by
    refine poll_follows (fun _ _ _ => rfl) (fun _ _ _ alike => alike) _
      (readStatus_follows status ?_) _
    rcases status with rfl | rfl <;> decide
  pollCount accept _ := poll_follows (fun _ _ _ => rfl) (fun _ _ _ alike => alike) _
    (readCount_follows (by decide)) accept
  idleClock := idleClock_follows

end Accesses

end Device

end LineBridge

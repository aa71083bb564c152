import Mathlib
import LineBridge.Proofs.FlatMemory
import LineBridge.Proofs.RejectedCommands

/-! Lines as a flat memory. A store sets the bytes at its addresses, around the end of the space,
and no other. Memory is changed by stores alone, be they made from outside or by a write that a
device carries out. So a device that began without memory holds its lines under their base
addresses whatever is done to it, and shows zero wherever nothing was stored. -/

namespace LineBridge

open LineBridge.Bench (Access)

/-- The address is one of those that were written. -/
def LineWrite.Covers (w : LineWrite) (b : Addr) : Prop := ∃ j < w.data.length, b = w.addr.offset j

namespace LineStore

/-- Every line is held under an address at which a line begins. -/
def Based (m : LineStore) : Prop := ∀ key ∈ m.lines, lineBytes ∣ key.toNat

theorem based_empty : empty.Based := fun _ member => absurd member Std.HashMap.not_mem_empty

theorem Based.setByte {m : LineStore} (based : m.Based) (a : Addr) (value : UInt8) :
    (m.setByte a value).Based := by
  intro key member
  rcases Std.HashMap.mem_insert.mp member with here | earlier
  · rw [← eq_of_beq here]
    exact a.lineBytes_dvd_lineBase
  · exact based key earlier

theorem Based.poke {m : LineStore} (based : m.Based) (a : Addr) (data : Bytes) :
    (m.poke a data).Based := by
  induction data generalizing m a with
  | nil => exact based
  | cons byte rest ih => exact ih (based.setByte a byte) (a.offset 1)

/-- A byte that a store does not reach stays, however long the store is. -/
theorem byteAt_poke_of_apart (m : LineStore) {a b : Addr} {data : Bytes}
    (apart : ∀ j < data.length, b ≠ a.offset j) : (m.poke a data).byteAt b = m.byteAt b := by
  induction data generalizing m a with
  | nil => rfl
  | cons byte rest ih =>
    have here : b ≠ a := by simpa using apart 0 (Nat.succ_pos _)
    have behind : ∀ j < rest.length, b ≠ (a.offset 1).offset j := by
      intro j inside
      rw [Addr.offset_offset, Nat.add_comm]
      exact apart (j + 1) (Nat.succ_lt_succ inside)
    rw [poke, ih _ behind, byteAt_setByte, if_neg here.symm]

/-- A store that does not come round to its own beginning leaves each of its bytes in place. -/
theorem byteAt_poke_offset (m : LineStore) (a : Addr) {data : Bytes}
    (fits : data.length ≤ spaceBytes) {j : Nat} (inside : j < data.length) :
    (m.poke a data).byteAt (a.offset j) = data[j] := by
  rw [byteAt_poke m a fits, Flat.write, a.distance_offset (Nat.lt_of_lt_of_le inside fits),
    List.getD_eq_getElem _ _ inside]

theorem getElem?_peek (m : LineStore) (a : Addr) {n i : Nat} (inside : i < n) :
    (m.peek a n)[i]? = some (m.byteAt (a.offset i)) := by
  rw [peek, List.getElem?_map, List.getElem?_range inside, Option.map_some]

/-- Stores one after the other. -/
def pokeEach (m : LineStore) (stores : List LineWrite) : LineStore :=
  stores.foldl (fun m w => m.poke w.addr w.data) m

theorem pokeEach_append (m : LineStore) (first last : List LineWrite) :
    m.pokeEach (first ++ last) = (m.pokeEach first).pokeEach last := List.foldl_append

theorem Based.pokeEach {m : LineStore} (based : m.Based) (stores : List LineWrite) :
    (m.pokeEach stores).Based := by
  induction stores generalizing m with
  | nil => exact based
  | cons w rest ih => exact ih (based.poke w.addr w.data)

theorem byteAt_pokeEach_of_not_covered (m : LineStore) {stores : List LineWrite} {b : Addr}
    (apart : ∀ w ∈ stores, ¬w.Covers b) : (m.pokeEach stores).byteAt b = m.byteAt b := by
  induction stores generalizing m with
  | nil => rfl
  | cons w rest ih =>
    rw [List.forall_mem_cons] at apart
    have here : ∀ j < w.data.length, b ≠ w.addr.offset j :=
      fun j inside same => apart.1 ⟨j, inside, same⟩
    exact (ih _ apart.2).trans (m.byteAt_poke_of_apart here)

end LineStore

namespace Device

/-- Reads memory from outside, past the registers. -/
def peek (d : Device) (addr : Addr) (count : Nat) : Bytes := d.memory.peek addr count

/-- Stores bytes from outside, past the registers. -/
def poke (d : Device) (addr : Addr) (data : Bytes) : Device :=
  { d with memory := d.memory.poke addr data }

/-- What can be done to a device. -/
inductive Handling where
  | access (a : Access)
  | poke (addr : Addr) (data : Bytes)
  /-- Sets speed and faults. -/
  | adjust (latency : Nat) (skew : Int) (stuck : Bool)
  | clearLogs

def afterHandling (d : Device) : Handling → Device
  | .access a => d.afterAccess a
  | .poke addr data => d.poke addr data
  | .adjust latency skew stuck => { d with latency, skew, stuck }
  | .clearLogs => { d with writes := [], commands := [] }

def afterHandlings (d : Device) (handlings : List Handling) : Device :=
  handlings.foldl afterHandling d

/-- The write that a code written to the command register sets off. -/
def startedWrite? (d : Device) (raw : UInt8) : Option LineWrite :=
  if raw = Command.writeStart.code ∧ d.address.IsLineAligned ∧
      d.writeFifo.size = d.lines * lineBytes then
    some ⟨d.address, d.writeFifo.toList⟩
  else none

/-- The stores that come of one thing that is done. -/
def stores (d : Device) : Handling → List LineWrite
  | .access (.write reg value) => if reg = Register.cmd then (d.startedWrite? value).toList else []
  | .poke addr data => [⟨addr, data⟩]
  | _ => []

/-- The stores that come of all that is done, oldest first. -/
def history (d : Device) : List Handling → List LineWrite
  | [] => []
  | h :: rest => d.stores h ++ (d.afterHandling h).history rest

theorem keeps_startRead (d : Device) : d.Keeps d.startRead := by
  dsimp only [startRead]
  split
  · refine Keeps.trans ?_ (keeps_complete _ _)
    exact ⟨rfl, rfl, rfl, rfl, rfl⟩
  · exact (d.rewritten_setRegister _ _).keeps

theorem memory_startWrite (d : Device) :
    d.startWrite.memory =
      d.memory.pokeEach (d.startedWrite? Command.writeStart.code).toList := by
  unfold startWrite startedWrite?
  by_cases accepted : d.address.IsLineAligned ∧ d.writeFifo.size = d.lines * lineBytes
  · rw [if_pos accepted, if_pos ⟨rfl, accepted⟩]
    exact (keeps_complete _ _).memory
  · rw [if_neg accepted, if_neg fun started => accepted started.2]
    rfl

/-- Of all codes only that of a write can change memory. -/
theorem memory_afterCommand (d : Device) (raw : UInt8) :
    (d.afterWrite Register.cmd raw).memory = d.memory.pokeEach (d.startedWrite? raw).toList := by
  have quiet (other : raw ≠ Command.writeStart.code) : d.startedWrite? raw = none :=
    if_neg fun started => other started.1
  cases known : Command.ofCode? raw with
  | none =>
    have other : raw ≠ Command.writeStart.code := by
      rintro rfl
      rw [Command.ofCode?_eq_some_iff.mpr rfl] at known
      cases known
    rw [quiet other]
    change ((d.setRegister Register.cmd raw).execute raw).memory = d.memory
    simp only [execute, known]
    rfl
  | some c =>
    obtain rfl := Command.ofCode?_eq_some_iff.mp known
    cases c with
    | null =>
      rw [quiet (by decide)]
      exact d.keeps_afterWrite_null.memory
    | readStart =>
      rw [quiet (by decide), afterWrite_cmd]
      exact (keeps_startRead _).memory
    | writeStart =>
      have same : (d.commanded .writeStart).startedWrite? Command.writeStart.code =
          d.startedWrite? Command.writeStart.code := by
        simp only [startedWrite?, address_commanded, lines_commanded]
        rfl
      rw [afterWrite_cmd, memory_startWrite, same]
      rfl

theorem memory_afterWrite (d : Device) (reg value : UInt8) :
    (d.afterWrite reg value).memory =
      d.memory.pokeEach (if reg = Register.cmd then (d.startedWrite? value).toList else []) := by
  by_cases command : reg = Register.cmd
  · rw [if_pos command, command]
    exact d.memory_afterCommand value
  · rw [if_neg command]
    unfold afterWrite
    split_ifs <;> rfl

theorem memory_afterRead (d : Device) (reg : UInt8) :
    (d.afterRead reg).2.memory = d.memory := by
  unfold afterRead
  split_ifs
  · unfold readStatus
    split
    · rfl
    · split
      · rfl
      · exact (d.watched_setWait reg 0).keeps.memory
      · exact (d.watched_setWait reg _).keeps.memory
  · unfold readCountLo
    split <;> rfl
  · rfl
  · rfl
  · rfl

theorem memory_afterAccess (d : Device) (a : Access) :
    (d.afterAccess a).memory = d.memory.pokeEach (d.stores (.access a)) := by
  cases a with
  | write reg value =>
    by_cases answers : Answers reg
    · have ran : d.afterAccess (.write reg value) = d.afterWrite reg value := by
        simp [afterAccess, channel, writeRegister, answers]
      rw [ran, memory_afterWrite]
      rfl
    · have command : reg ≠ Register.cmd := by
        rintro rfl
        exact answers (by decide)
      have ran : d.afterAccess (.write reg value) = d := by
        simp [afterAccess, channel, writeRegister, answers]
      rw [ran, stores, if_neg command]
      rfl
  | read reg _ =>
    change ((readRegister reg).run d).2.memory = d.memory
    unfold readRegister
    split
    · exact d.memory_afterRead reg
    · rfl
  | writeBulk data => rfl
  | readBulk count _ =>
    change ((readBulk count).run d).2.memory = d.memory
    simp only [readBulk, Action.run]
    split <;> rfl
  | idle cycles => rfl
  | cut => rfl

/-- Whatever is done to a device changes its memory by the stores that come of it. -/
theorem memory_afterHandling (d : Device) (h : Handling) :
    (d.afterHandling h).memory = d.memory.pokeEach (d.stores h) := by
  cases h with
  | access a => exact d.memory_afterAccess a
  | poke addr data => rfl
  | adjust latency skew stuck => rfl
  | clearLogs => rfl

theorem memory_afterHandlings (d : Device) (handlings : List Handling) :
    (d.afterHandlings handlings).memory = d.memory.pokeEach (d.history handlings) := by
  induction handlings generalizing d with
  | nil => rfl
  | cons h rest ih =>
    calc (d.afterHandlings (h :: rest)).memory
        = (d.afterHandling h).memory.pokeEach ((d.afterHandling h).history rest) := ih _
      _ = (d.memory.pokeEach (d.stores h)).pokeEach ((d.afterHandling h).history rest) := by
        rw [memory_afterHandling]
      _ = d.memory.pokeEach (d.history (h :: rest)) := (LineStore.pokeEach_append ..).symm

/-- Lines are a flat memory. After a store of at most the whole space, reading anywhere shows its
bytes at their addresses, around the end of the space, and at every other address what was there
before. A device that began without memory, whatever has been done to it since, holds every line
under a multiple of its size and shows zero at each address that nothing was stored to. -/
theorem line_memory_flat (d : Device) (a b : Addr) {data : Bytes}
    (fits : data.length ≤ spaceBytes) (n : Nat) :
    let before := d.peek b n
    let after := (d.poke a data).peek b n
    (after.length = n ∧ ∀ i < n,
      (∀ j (inside : j < data.length), b.offset i = a.offset j → after[i]? = some data[j]) ∧
      ((∀ j < data.length, b.offset i ≠ a.offset j) → after[i]? = before[i]?)) ∧
    ∀ (fresh : Device) (handlings : List Handling), fresh.memory = .empty →
      let reached := fresh.afterHandlings handlings
      (∀ i < n, (∀ w ∈ fresh.history handlings, ¬w.Covers (b.offset i)) →
        (reached.peek b n)[i]? = some 0) ∧
      ∀ key ∈ reached.memory.lines, 16 ∣ key.toNat := by
  intro before after
  refine ⟨⟨LineStore.length_peek _ _ _, fun i within => ⟨fun j inside same => ?_, fun apart => ?_⟩⟩,
    fun fresh handlings blank => ?_⟩
  · have stored := d.memory.byteAt_poke_offset a fits inside
    rw [← same] at stored
    exact (LineStore.getElem?_peek _ _ within).trans (congrArg some stored)
  · have kept := d.memory.byteAt_poke_of_apart apart
    exact ((LineStore.getElem?_peek _ _ within).trans (congrArg some kept)).trans
      (LineStore.getElem?_peek _ _ within).symm
  · intro reached
    have memory : reached.memory = LineStore.empty.pokeEach (fresh.history handlings) := by
      rw [← blank]
      exact fresh.memory_afterHandlings handlings
    refine ⟨fun i within untouched => ?_, ?_⟩
    · have zero := LineStore.empty.byteAt_pokeEach_of_not_covered untouched
      rw [LineStore.byteAt_empty, ← memory] at zero
      exact (LineStore.getElem?_peek _ _ within).trans (congrArg some zero)
    · rw [memory]
      exact LineStore.based_empty.pokeEach _

/-- A store across the end of the space into a device that holds something there already, and a
new device to which the same store and then a whole write are done. -/
theorem line_memory_flat_around :
    let d : Device := { memory := LineStore.empty.poke ⟨0xFFFFFFFC⟩ (List.replicate 8 9) }
    let after := (d.poke ⟨0xFFFFFFFE⟩ [1, 2, 3, 4]).peek ⟨0xFFFFFFFC⟩ 8
    let reached := ({} : Device).afterHandlings [.poke ⟨0xFFFFFFFE⟩ [1, 2, 3, 4],
      .access (.writeBulk (List.replicate 16 7)),
      .access (.write Register.cmd Command.writeStart.code)]
    ([1, 2, 3, 4] : Bytes).length ≤ spaceBytes ∧ after[3]? = some 2 ∧ after[5]? = some 4 ∧
      after[6]? = (d.peek ⟨0xFFFFFFFC⟩ 8)[6]? ∧ (reached.peek ⟨0xFFFFFFFC⟩ 8)[1]? = some 0 ∧
      ∀ key ∈ reached.memory.lines, 16 ∣ key.toNat := by
  intro d after reached
  have fits : ([1, 2, 3, 4] : Bytes).length ≤ spaceBytes := by decide
  obtain ⟨⟨-, shown⟩, later⟩ := line_memory_flat d ⟨0xFFFFFFFE⟩ ⟨0xFFFFFFFC⟩ fits 8
  obtain ⟨zero, based⟩ := later {} _ rfl
  refine ⟨fits, (shown 3 (by decide)).1 1 (by decide) (by decide),
    (shown 5 (by decide)).1 3 (by decide) (by decide),
    (shown 6 (by decide)).2 (by decide), zero 1 (by decide) ?_, based⟩
  have stores : Device.history {} [.poke ⟨0xFFFFFFFE⟩ [1, 2, 3, 4],
      .access (.writeBulk (List.replicate 16 7)),
      .access (.write Register.cmd Command.writeStart.code)] =
      [⟨⟨0xFFFFFFFE⟩, [1, 2, 3, 4]⟩, ⟨⟨0⟩, List.replicate 16 7⟩] := by decide +kernel
  rw [stores]
  have apart : ∀ w ∈ [LineWrite.mk ⟨0xFFFFFFFE⟩ [1, 2, 3, 4], ⟨⟨0⟩, List.replicate 16 7⟩],
      ∀ j < w.data.length, (Addr.mk 0xFFFFFFFC).offset 1 ≠ w.addr.offset j := by decide
  rintro w member ⟨j, inside, same⟩
  exact apart w member j inside same

end Device

end LineBridge

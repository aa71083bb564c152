import Mathlib
import LineBridge.Proofs.AdapterFrames
import LineBridge.Proofs.Metering
import LineBridge.Proofs.SteadyLinks
import LineBridge.Spi.Link

/-! What a link through an adapter takes for what it sends. Whatever comes back, an access either
ends in a fault of the link, or has taken as many bytes as its commands clock in. -/

namespace LineBridge

open LineBridge.Metered (FatalOr Pairing Since Yields)

variable {σ : Type}

namespace Spi

/-- Every command of the step fits its format. -/
def BusStep.Fits (step : BusStep) : Prop := ∀ c ∈ step.commands, c.Sized

/-- Bytes that a command clocks in. -/
def AdapterCommand.clockedIn : AdapterCommand → Nat
  | shiftIn count => count
  | _ => 0

def BusStep.clockedIn (step : BusStep) : Nat := (step.commands.map AdapterCommand.clockedIn).sum

theorem BusStep.clockedIn_read (reg : UInt8) (count : Nat) :
    (read reg count).clockedIn = count := by
  simp [clockedIn, commands, assertion, AdapterCommand.clockedIn]

theorem BusStep.clockedIn_of_isIdle {step : BusStep} (idle : step.IsIdle) : step.clockedIn = 0 := by
  cases step with
  | clockGroups count => rfl
  | clockBits count => rfl
  | _ => exact idle.elim

/-- A packed write does nothing but write. -/
theorem clockedIn_packedSteps (addr : Addr) (field : UInt16) (pieces : List Bytes) :
    ∀ step ∈ packedSteps addr field pieces, step.clockedIn = 0 := by
  have stored (writes : List (UInt8 × UInt8)) : ∀ step ∈ stores writes, step.clockedIn = 0 := by
    rintro _ among
    obtain ⟨write, -, rfl⟩ := List.mem_map.mp among
    rfl
  have streamed : ∀ step ∈ pieces.map (BusStep.write Register.bulkWrite), step.clockedIn = 0 := by
    rintro _ among
    obtain ⟨piece, -, rfl⟩ := List.mem_map.mp among
    rfl
  rw [packedSteps]
  simp only [List.forall_mem_append]
  exact ⟨⟨⟨stored _, stored _⟩, streamed⟩, stored _⟩

/-- The bytes sent are these commands and no others, and what was taken is as much as they clock
in. -/
structure Clocked (sent taken : Bytes) (commands : List AdapterCommand) : Prop where
  sized : ∀ c ∈ commands, c.Sized
  encoded : sent = commands.flatMap AdapterCommand.bytes
  answers : taken.length = (commands.map AdapterCommand.clockedIn).sum
  unique : ∀ others : List AdapterCommand, (∀ c ∈ others, c.Sized) →
    sent = others.flatMap AdapterCommand.bytes → others = commands

def Collected (sent taken : Bytes) : Prop := ∃ commands, Clocked sent taken commands

theorem collected_flatMap {commands : List AdapterCommand} (sized : ∀ c ∈ commands, c.Sized)
    {taken : Bytes} (size : taken.length = (commands.map AdapterCommand.clockedIn).sum) :
    Collected (commands.flatMap AdapterCommand.bytes) taken :=
  ⟨commands, sized, rfl, size, fun _ sized' same =>
    AdapterCommand.selfDelimiting.flatMap_inj sized sized' same.symm⟩

theorem pairing_collected : Pairing Collected where
  nil := collected_flatMap (List.forall_mem_nil _) rfl
  append := by
    rintro _ taken _ taken' ⟨first, sized, rfl, size, -⟩ ⟨later, sized', rfl, size', -⟩
    have total : (taken ++ taken').length =
        ((first ++ later).map AdapterCommand.clockedIn).sum := by
      rw [List.length_append, List.map_append, List.sum_append, size, size']
    have joined := collected_flatMap (List.forall_mem_append.mpr ⟨sized, sized'⟩) total
    rwa [List.flatMap_append] at joined

theorem collected_steps {steps : List BusStep} (sized : ∀ step ∈ steps, step.Fits)
    {taken : Bytes} (size : taken.length = (steps.map BusStep.clockedIn).sum) :
    Collected (steps.flatMap BusStep.bytes) taken := by
  have commands : ∀ c ∈ steps.flatMap BusStep.commands, c.Sized := by
    intro c member
    obtain ⟨step, among, inside⟩ := List.mem_flatMap.mp member
    exact sized step among c inside
  have total : taken.length =
      ((steps.flatMap BusStep.commands).map AdapterCommand.clockedIn).sum := by
    rw [size, List.map_flatMap, List.flatMap_def, List.sum_flatten, List.map_map]
    rfl
  have collected := collected_flatMap commands total
  rwa [List.flatMap_assoc] at collected

section Commands

variable {stream : ByteStream σ} (regular : stream.Regular)
include regular

/-- What is sent and not answered clocks nothing in. -/
theorem send_collected {steps : List BusStep} (sized : ∀ step ∈ steps, step.Fits)
    (silent : ∀ step ∈ steps, step.clockedIn = 0) :
    Yields (stream.metered.send (steps.flatMap BusStep.bytes)) fun _ => Collected := by
  have none : (steps.map BusStep.clockedIn).sum = 0 := by
    refine List.sum_eq_zero fun count member => ?_
    obtain ⟨step, among, rfl⟩ := List.mem_map.mp member
    exact silent step among
  refine (regular.send_yields _).weaken ?_
  rintro _ _ _ ⟨rfl, rfl⟩
  exact collected_steps sized none.symm

/-- What is clocked in is taken whole. -/
theorem sendAndReceive_collected {steps : List BusStep}
    (sized : ∀ step ∈ steps, step.Fits) {len : Nat}
    (size : (steps.map BusStep.clockedIn).sum = len) :
    Yields (sendAndReceive stream.metered (steps.flatMap BusStep.bytes) len)
      fun _ => Collected := by
  have handed : steps.flatMap BusStep.bytes ++ [Opcode.sendImmediate] =
      (steps ++ [BusStep.handOver]).flatMap BusStep.bytes := by
    rw [List.flatMap_append]
    rfl
  have sized' : ∀ step ∈ steps ++ [BusStep.handOver], step.Fits :=
    List.forall_mem_append.mpr ⟨sized, List.forall_mem_singleton.mpr
      (List.forall_mem_singleton.mpr trivial)⟩
  rw [sendAndReceive, handed]
  apply (regular.send_yields _).bind
  rintro _ _ _ ⟨rfl, rfl⟩
  apply (regular.collect_yields len).bind
  rintro got _ _ ⟨rfl, rfl, fits⟩
  split
  · exact Yields.fail _
  · next whole =>
    refine Yields.pure ?_
    have total : got.length = ((steps ++ [BusStep.handOver]).map BusStep.clockedIn).sum := by
      rw [List.map_append, List.sum_append, size]
      exact Nat.le_antisymm fits (Nat.not_lt.mp whole)
    have collected := collected_steps sized' total
    simpa only [List.append_nil, List.nil_append] using collected

variable (s : Settings)

theorem sendEach_collected {chunk : Nat} (bounded : chunk ≤ maxChunkBytes) {pieces : List Bytes}
    (fits : ∀ piece ∈ pieces, piece.length ≤ chunk) :
    Yields (sendEach stream.metered (pieces.map
      (writeFrame (Register.writeFlag ||| Register.bulkWrite)))) fun _ => Collected := by
  induction pieces with
  | nil => exact Yields.pure pairing_collected.nil
  | cons piece rest ih =>
    rw [List.forall_mem_cons] at fits
    have sized : ∀ step ∈ [BusStep.write Register.bulkWrite piece], step.Fits :=
      List.forall_mem_singleton.mpr (BusStep.sized_write _ (fits.1.trans bounded))
    have sent := send_collected regular sized (List.forall_mem_singleton.mpr rfl)
    rw [List.flatMap_singleton, BusStep.bytes_write] at sent
    apply sent.bind
    intro _ sent taken collected
    exact (ih fits.2).weaken fun _ _ _ later => pairing_collected.append collected later

theorem readChunks_collected {chunk : Nat} (positive : 0 < chunk) (bounded : chunk ≤ maxChunkBytes)
    (left : Nat) (done : List Bytes) :
    Yields (readChunks stream.metered chunk positive left done) fun _ => Collected := by
  induction left using Nat.strongRecOn generalizing done with
  | ind left ih =>
    rw [readChunks]
    split
    · exact Yields.pure pairing_collected.nil
    · next some =>
      have fits : 1 ≤ min left chunk ∧ min left chunk ≤ maxCommandBytes :=
        ⟨le_min (Nat.pos_of_ne_zero some) positive,
          (Nat.min_le_right _ _).trans (bounded.trans (by decide))⟩
      have sized : ∀ step ∈ [BusStep.read Register.bulkRead (min left chunk)], step.Fits :=
        List.forall_mem_singleton.mpr (BusStep.sized_read _ fits)
      have count : ([BusStep.read Register.bulkRead (min left chunk)].map
          BusStep.clockedIn).sum = min left chunk := by
        rw [List.map_singleton, List.sum_singleton, BusStep.clockedIn_read]
      have got := sendAndReceive_collected regular sized count
      rw [List.flatMap_singleton, BusStep.bytes_read _ fits.1 fits.2] at got
      apply got.bind
      intro data sent taken collected
      exact (ih (left - min left chunk) (by omega) (data :: done)).weaken
        fun _ _ _ later => pairing_collected.append collected later

theorem writeRegister_collected (clock : Clock (Metered σ)) (reg value : UInt8) :
    Yields ((channel stream.metered clock s).writeRegister reg value) fun _ => Collected := by
  have sized : ∀ step ∈ [BusStep.write reg [value]], step.Fits :=
    List.forall_mem_singleton.mpr (BusStep.sized_write reg (by decide : 1 ≤ maxChunkBytes))
  have sent := send_collected regular sized (List.forall_mem_singleton.mpr rfl)
  rwa [List.flatMap_singleton, BusStep.bytes_write] at sent

theorem readRegister_collected (clock : Clock (Metered σ)) (reg : UInt8) :
    Yields ((channel stream.metered clock s).readRegister reg) fun _ => Collected := by
  have fits : 1 ≤ 1 ∧ 1 ≤ maxCommandBytes := by decide
  have sized : ∀ step ∈ [BusStep.read reg 1], step.Fits :=
    List.forall_mem_singleton.mpr (BusStep.sized_read reg fits)
  have count : ([BusStep.read reg 1].map BusStep.clockedIn).sum = 1 := by
    rw [List.map_singleton, List.sum_singleton, BusStep.clockedIn_read]
  have got := sendAndReceive_collected regular sized count
  rw [List.flatMap_singleton, BusStep.bytes_read reg fits.1 fits.2] at got
  exact got.bind_pure _ fun _ _ _ collected => collected

theorem readPair_collected (clock : Clock (Metered σ)) {lo : UInt8} (inside : lo ≠ 0xFF) :
    Yields ((link stream.metered clock s).readPair lo) fun _ => Collected := by
  rw [readPair_eq stream.metered clock s inside]
  have fits : 1 ≤ 1 ∧ 1 ≤ maxCommandBytes := by decide
  have sized : ∀ step ∈ [BusStep.read lo 1, BusStep.read (lo + 1) 1], step.Fits :=
    List.forall_mem_cons.mpr ⟨BusStep.sized_read lo fits,
      List.forall_mem_singleton.mpr (BusStep.sized_read (lo + 1) fits)⟩
  have count : ([BusStep.read lo 1, BusStep.read (lo + 1) 1].map BusStep.clockedIn).sum = 2 := by
    rw [List.map_cons, List.map_singleton, List.sum_cons, List.sum_singleton,
      BusStep.clockedIn_read, BusStep.clockedIn_read]
  have got := sendAndReceive_collected regular sized count
  rw [List.flatMap_cons, List.flatMap_singleton, BusStep.bytes_read lo fits.1 fits.2,
    BusStep.bytes_read (lo + 1) fits.1 fits.2] at got
  exact got.bind_pure _ fun _ _ _ collected => collected

theorem idleClock_collected (clock : Clock (Metered σ)) (cycles : UInt32) :
    Yields ((channel stream.metered clock s).idleClock cycles) fun _ => Collected := by
  change Yields (if cycles = 0 then pure () else
    stream.metered.send (idleCommands cycles.toNat)) fun _ => Collected
  split
  · exact Yields.pure pairing_collected.nil
  · obtain ⟨steps, idle, -, same⟩ := exists_idleSteps cycles.toNat
    rw [same]
    have fits : ∀ step ∈ steps, step.Fits :=
      fun step member => BusStep.sized_commands (idle step member).1
    exact send_collected regular fits
      fun step member => BusStep.clockedIn_of_isIdle (idle step member).2

theorem packedWrite_collected (clock : Clock (Metered σ)) (addr : Addr) (field : UInt16)
    (payload : Bytes) :
    Yields ((link stream.metered clock s).packedWrite addr field payload) fun _ => Collected := by
  have fits : ∀ piece ∈ Bytes.chunks s.clamped.maxChunk payload, piece.length ≤ maxChunkBytes :=
    fun piece member => (Bytes.length_of_mem_chunks member).2.trans s.chunk_le
  change Yields (stream.metered.send (packedFrames s.clamped.maxChunk addr field payload))
    fun _ => Collected
  rw [packedFrames_eq s.one_le_chunk]
  refine send_collected regular ?_ (clockedIn_packedSteps addr field _)
  exact fun step member => BusStep.sized_commands (sized_packedSteps addr field fits step member)

/-- A link through an adapter, on any stream, takes what it has had clocked in. -/
theorem steady_link (clock : Clock σ) (m : Metered σ) :
    (link stream.metered clock.metered s).Steady (Since Collected m) (FatalOr Collected m) := by
  have write (reg value : UInt8) :=
    pairing_collected.preserves (writeRegister_collected regular s clock.metered reg value) m
  have read (reg : UInt8) :=
    pairing_collected.preserves (readRegister_collected regular s clock.metered reg) m
  have pause (length : Nat) (m' : Metered σ) (since : Since Collected m m') :
      Since Collected m (clock.metered.pause length m') := by
    obtain ⟨sent, taken, passed, collected⟩ := since
    exact ⟨sent, taken, ⟨passed.sent, passed.taken⟩, collected⟩
  exact {
    writeRegister := write
    writeBulk := fun data _ => pairing_collected.preserves (sendEach_collected regular s.chunk_le
      fun piece member => (Bytes.length_of_mem_chunks member).2) m
    readBulk := fun count _ => pairing_collected.preserves
      (readChunks_collected regular _ s.chunk_le count []) m
    idleClock := fun cycles =>
      pairing_collected.preserves (idleClock_collected regular s clock.metered cycles) m
    writePair := fun _ => Channel.writePair_preserves write fun _ _ since => .inr since
    readPair := fun lo => by
      by_cases last : lo = 0xFF
      · rw [last, readPair_last]
        exact Action.Ends.fail fun _ since => .inr since
      · exact pairing_collected.preserves (readPair_collected regular s clock.metered last) m
    pollRegister := Channel.pollRegister_preserves read pause
    packedWrite := fun addr field payload _ => pairing_collected.preserves
      (packedWrite_collected regular s clock.metered addr field payload) m
    pause := pause
    own := fun _ _ since => .inr since }

end Commands

end Spi

end LineBridge

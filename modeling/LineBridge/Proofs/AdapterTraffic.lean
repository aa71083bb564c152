import Mathlib
import LineBridge.Bench.Meter
import LineBridge.Proofs.AdapterFrames
import LineBridge.Proofs.Agreement
import LineBridge.Proofs.Waiting
import LineBridge.Spi.Link

/-! What an SPI link sends. On a stream that takes and answers everything, every use of the link
goes through, and what it adds to the stream decodes to the accesses that were asked for. -/

namespace LineBridge

open LineBridge.Action (Ends)
open LineBridge.Spi (BusStep)

variable {σ α β : Type}

/-- A use of a link, as data. -/
inductive LinkCall where
  | writeRegister (reg value : UInt8)
  | readRegister (reg : UInt8)
  | writeBulk (data : Bytes)
  | readBulk (count : Nat)
  | idleClock (cycles : UInt32)
  | writePair (lo : UInt8) (value : UInt16)
  | readPair (lo : UInt8)
  | pollRegister (reg expected : UInt8) (limits : PollLimits)
  | packedWrite (addr : Addr) (field : UInt16) (payload : Bytes)

inductive LinkReply where
  | done
  | byte (value : UInt8)
  | bytes (data : Bytes)
  | word (value : UInt16)
  | waited (outcome : PollOutcome UInt8)

namespace LinkCall

def perform (link : Link σ) : LinkCall → Action σ LinkReply
  | writeRegister reg value => (fun _ => .done) <$> link.writeRegister reg value
  | readRegister reg => .byte <$> link.readRegister reg
  | writeBulk data => (fun _ => .done) <$> link.writeBulk data
  | readBulk count => .bytes <$> link.readBulk count
  | idleClock cycles => (fun _ => .done) <$> link.idleClock cycles
  | writePair lo value => (fun _ => .done) <$> link.writePair lo value
  | readPair lo => .word <$> link.readPair lo
  | pollRegister reg expected limits => .waited <$> link.pollRegister reg expected limits
  | packedWrite addr field payload => (fun _ => .done) <$> link.packedWrite addr field payload

/-- The registers that it names leave the place of the write flag free. -/
def Flagless : LinkCall → Prop
  | writeRegister reg _ | readRegister reg | pollRegister reg .. => reg < Register.writeFlag
  | writePair lo _ | readPair lo => lo.toNat + 1 < Register.writeFlag.toNat
  | _ => True

end LinkCall

/-- A stream that takes whatever it is given and always has an answer, on a clock that leaves it
alone; `sent` shows what it was given. -/
structure ByteStream.Willing (stream : ByteStream σ) (clock : Clock σ) (sent : σ → Bytes) :
    Prop where
  write : ∀ bytes before, Ends (sent · = before) (stream.write bytes)
    (fun _ s => sent s = before ++ bytes) (fun _ _ => False)
  flush : ∀ before, Ends (sent · = before) stream.flush (fun _ s => sent s = before)
    (fun _ _ => False)
  read : ∀ count before, 0 < count → Ends (sent · = before) (stream.read count)
    (fun bytes s => (0 < bytes.length ∧ bytes.length ≤ count) ∧ sent s = before) (fun _ _ => False)
  pause : ∀ length s, sent (clock.pause length s) = sent s

namespace Spi

/-- A computation that goes through and sends steps, as `Q` says of its value and them. -/
def Sends (sent : σ → Bytes) (x : Action σ α) (Q : α → List BusStep → Prop) : Prop :=
  ∀ before, Ends (sent · = before) x
    (fun a s => ∃ steps, (∀ step ∈ steps, step.Sized) ∧
      sent s = before ++ steps.flatMap BusStep.bytes ∧ Q a steps)
    (fun _ _ => False)

namespace Sends

variable {sent : σ → Bytes} {x : Action σ α} {f : α → Action σ β} {Q : α → List BusStep → Prop}
  {R : β → List BusStep → Prop}

theorem pure {a : α} (holds : Q a []) : Sends sent (Pure.pure a) Q := by
  intro before
  exact Ends.pure fun s same => ⟨[], List.forall_mem_nil _, by simpa using same, holds⟩

theorem bind (first : Sends sent x Q)
    (next : ∀ a steps, Q a steps → Sends sent (f a) fun b later => R b (steps ++ later)) :
    Sends sent (x >>= f) R := by
  intro before
  apply Ends.bind (first before)
  rintro a s ⟨steps, sized, same, holds⟩
  refine (next a steps holds _).onValue ?_ s same
  rintro b s' ⟨later, sized', same', holds'⟩
  refine ⟨steps ++ later, List.forall_mem_append.mpr ⟨sized, sized'⟩, ?_, holds'⟩
  rw [same', List.flatMap_append, List.append_assoc]

theorem map (h : Sends sent x Q) (g : α → β) (holds : ∀ a steps, Q a steps → R (g a) steps) :
    Sends sent (g <$> x) R := by
  rw [map_eq_pure_bind]
  refine h.bind fun a steps before => pure ?_
  rw [List.append_nil]
  exact holds a steps before

theorem weaken {Q' : α → List BusStep → Prop} (h : Sends sent x Q')
    (holds : ∀ a steps, Q' a steps → Q a steps) : Sends sent x Q := by
  intro before
  refine (h before).onValue ?_
  rintro a s ⟨steps, sized, same, after⟩
  exact ⟨steps, sized, same, holds a steps after⟩

end Sends

end Spi

/-- The steps that a use of a link comes to, with payloads in pieces of 1 to `chunk` bytes. -/
inductive LinkCall.Shows (chunk : Nat) : LinkCall → LinkReply → List BusStep → Prop
  | writeRegister {reg value : UInt8} :
    Shows chunk (.writeRegister reg value) .done [.write reg [value]]
  | readRegister {reg value : UInt8} :
    Shows chunk (.readRegister reg) (.byte value) [.read reg 1, .handOver]
  | writeBulk {pieces : List Bytes}
    (sized : ∀ piece ∈ pieces, 1 ≤ piece.length ∧ piece.length ≤ chunk) :
    Shows chunk (.writeBulk pieces.flatten) .done (pieces.map (.write Register.bulkWrite))
  | readBulk {counts : List Nat} {data : Bytes}
    (sized : ∀ count ∈ counts, 1 ≤ count ∧ count ≤ chunk) (whole : data.length = counts.sum) :
    Shows chunk (.readBulk counts.sum) (.bytes data)
      (counts.flatMap fun count => [.read Register.bulkRead count, .handOver])
  | idleClock {cycles : UInt32} {steps : List BusStep} (idle : ∀ step ∈ steps, step.IsIdle)
    (total : (steps.map BusStep.idleClocks).sum = cycles.toNat) :
    Shows chunk (.idleClock cycles) .done steps
  | writePair {lo : UInt8} {value : UInt16} :
    Shows chunk (.writePair lo value) .done
      [.write lo [lowByte value], .write (lo + 1) [highByte value]]
  | readPair {lo : UInt8} {value : UInt16} :
    Shows chunk (.readPair lo) (.word value) [.read lo 1, .read (lo + 1) 1, .handOver]
  | pollRegister {reg expected : UInt8} {limits : PollLimits} {outcome : PollOutcome UInt8}
    (some : 0 < outcome.attempts) (bounded : outcome.attempts ≤ limits.reads) :
    Shows chunk (.pollRegister reg expected limits) (.waited outcome)
      (List.replicate outcome.attempts [.read reg 1, .handOver]).flatten
  | packedWrite {addr : Addr} {field : UInt16} {pieces : List Bytes}
    (sized : ∀ piece ∈ pieces, 1 ≤ piece.length ∧ piece.length ≤ chunk) :
    Shows chunk (.packedWrite addr field pieces.flatten) .done
      (Spi.packedSteps addr field pieces)

namespace Spi

variable {stream : ByteStream σ} {clock : Clock σ} {sent : σ → Bytes}
  (willing : stream.Willing clock sent)
include willing

theorem send_ends (bytes before : Bytes) :
    Ends (sent · = before) (stream.send bytes) (fun _ s => sent s = before ++ bytes)
      (fun _ _ => False) := by
  rw [ByteStream.send]
  split
  · next none =>
    rw [List.isEmpty_iff.mp none, List.append_nil]
    exact willing.flush before
  · exact Ends.bind (willing.write bytes before) fun _ => willing.flush _

/-- What is sent in one go. -/
theorem send_sends {steps : List BusStep} (sized : ∀ step ∈ steps, step.Sized) :
    Sends sent (stream.send (steps.flatMap BusStep.bytes)) fun _ made => made = steps :=
  fun before => (send_ends willing _ before).onValue fun _ _ same => ⟨steps, sized, same, rfl⟩

theorem collectFrom_ends (before : Bytes) {count : Nat} {got : Array UInt8}
    (part : got.size ≤ count) :
    Ends (sent · = before) (stream.collectFrom count got)
      (fun bytes s => bytes.length = count ∧ sent s = before) (fun _ _ => False) := by
  -- on what is still missing: every answer has some of it
  induction missing : count - got.size using Nat.strongRecOn generalizing got with
  | ind missing ih =>
    subst missing
    rw [ByteStream.collectFrom]
    split
    · next short =>
      apply Ends.bind (willing.read (count - got.size) before (Nat.sub_pos_of_lt short))
      rintro more s ⟨⟨some, fits⟩, same⟩
      have grown := Bytes.size_append got more
      rw [if_neg (Nat.ne_of_gt some)]
      exact ih (count - (got ++ more).size) (by omega) (by omega) rfl s same
    · next whole =>
      refine Ends.pure fun s same => ⟨?_, same⟩
      rw [Array.length_toList]
      omega

/-- What is shifted in is handed over, and all of it is there. -/
theorem sendAndReceive_sends {steps : List BusStep} (sized : ∀ step ∈ steps, step.Sized)
    (len : Nat) :
    Sends sent (sendAndReceive stream (steps.flatMap BusStep.bytes) len) fun data made =>
      data.length = len ∧ made = steps ++ [.handOver] := by
  have handed : steps.flatMap BusStep.bytes ++ [Opcode.sendImmediate] =
      (steps ++ [BusStep.handOver]).flatMap BusStep.bytes := by
    rw [List.flatMap_append]
    rfl
  have sized' : ∀ step ∈ steps ++ [BusStep.handOver], step.Sized :=
    List.forall_mem_append.mpr ⟨sized, List.forall_mem_singleton.mpr trivial⟩
  rw [sendAndReceive, handed]
  apply (send_sends willing sized').bind
  rintro _ _ rfl before
  apply Ends.bind (collectFrom_ends willing before (Nat.zero_le len))
  rintro got s ⟨whole, same⟩
  rw [if_neg (Nat.not_lt.mpr (Nat.le_of_eq whole.symm))]
  exact ⟨[], List.forall_mem_nil _, by simpa using same, whole, List.append_nil _⟩

section Accesses

variable {s : Settings} {reg : UInt8} (free : reg < Register.writeFlag)
include free

theorem writeRegister_sends (value : UInt8) :
    Sends sent ((channel stream clock s).writeRegister reg value) fun _ made =>
      made = [.write reg [value]] := by
  have sized : ∀ step ∈ [BusStep.write reg [value]], step.Sized :=
    List.forall_mem_singleton.mpr ⟨free, (by decide : 1 ≤ maxChunkBytes)⟩
  have sends := send_sends willing sized
  rw [List.flatMap_singleton, BusStep.bytes_write] at sends
  exact sends

theorem readRegister_sends :
    Sends sent ((channel stream clock s).readRegister reg) fun _ made =>
      made = [.read reg 1, .handOver] := by
  have fits : 1 ≤ maxCommandBytes := by decide
  have sized : ∀ step ∈ [BusStep.read reg 1], step.Sized :=
    List.forall_mem_singleton.mpr ⟨free, Nat.le_refl 1, fits⟩
  have sends := sendAndReceive_sends willing sized 1
  rw [List.flatMap_singleton, BusStep.bytes_read reg (Nat.le_refl 1) fits] at sends
  refine sends.bind fun got steps made => Sends.pure ?_
  rw [made.2, List.append_nil]
  rfl

end Accesses

section Words

variable {s : Settings} {lo : UInt8} (free : lo.toNat + 1 < Register.writeFlag.toNat)
include free

theorem writePair_sends (value : UInt16) :
    Sends sent ((channel stream clock s).writePair lo value) fun _ made =>
      made = [.write lo [lowByte value], .write (lo + 1) [highByte value]] := by
  have pair := flagless_pair free
  rw [Channel.writePair_eq _ (flagless_ne_last pair.1)]
  apply (writeRegister_sends willing pair.1 _).bind
  rintro _ _ rfl
  refine (writeRegister_sends willing pair.2 _).weaken ?_
  rintro _ _ rfl
  rfl

theorem readPair_sends :
    Sends sent ((link stream clock s).readPair lo) fun _ made =>
      made = [.read lo 1, .read (lo + 1) 1, .handOver] := by
  have pair := flagless_pair free
  rw [readPair_eq stream clock s (flagless_ne_last pair.1)]
  have fits : 1 ≤ maxCommandBytes := by decide
  have sized : ∀ step ∈ [BusStep.read lo 1, BusStep.read (lo + 1) 1], step.Sized :=
    List.forall_mem_cons.mpr ⟨⟨pair.1, Nat.le_refl 1, fits⟩,
      List.forall_mem_singleton.mpr ⟨pair.2, Nat.le_refl 1, fits⟩⟩
  have sends := sendAndReceive_sends willing sized 2
  rw [List.flatMap_cons, List.flatMap_singleton, BusStep.bytes_read lo (Nat.le_refl 1) fits,
    BusStep.bytes_read (lo + 1) (Nat.le_refl 1) fits] at sends
  refine sends.bind fun got steps made => Sends.pure ?_
  rw [made.2, List.append_nil]
  rfl

end Words

/-- A wait is as many reads as its outcome says. -/
theorem pollRegister_sends {s : Settings} {reg : UInt8} (free : reg < Register.writeFlag)
    (expected : UInt8) (limits : PollLimits) :
    Sends sent ((channel stream clock s).pollRegister reg expected limits) fun outcome made =>
      (0 < outcome.attempts ∧ outcome.attempts ≤ limits.reads) ∧
        made = (List.replicate outcome.attempts [.read reg 1, .handOver]).flatten := by
  intro before
  let reads (n : Nat) : List BusStep := (List.replicate n [.read reg 1, .handOver]).flatten
  let made (n : Nat) (s : σ) : Prop := (∀ step ∈ reads n, step.Sized) ∧
    sent s = before ++ (reads n).flatMap BusStep.bytes
  have polled : Ends (made 0) ((channel stream clock s).pollRegister reg expected limits)
      (fun outcome s => (0 < outcome.attempts ∧ outcome.attempts ≤ limits.reads) ∧
        made outcome.attempts s) (fun _ _ => False) := by
    refine poll_ends ?_ ?_
    · intro n room
      apply Ends.of_eq
      rintro state ⟨sized, same⟩
      refine (readRegister_sends willing free (sent state)).weaken (by rintro _ rfl; rfl) ?_
        (fun _ _ no => no)
      rintro value after ⟨steps, sized', same', rfl⟩
      have again : made (n + 1) after := by
        have more : reads (n + 1) = reads n ++ [.read reg 1, .handOver] := by
          simp only [reads, List.replicate_succ', List.flatten_append, List.flatten_singleton]
        refine ⟨?_, ?_⟩
        · rw [more]
          exact List.forall_mem_append.mpr ⟨sized, sized'⟩
        · rw [same', same, more, List.flatMap_append, List.append_assoc]
      split
      · exact ⟨⟨Nat.succ_pos n, room⟩, again⟩
      · exact ⟨again, fun _ => ⟨⟨Nat.succ_pos n, room⟩, again⟩⟩
    · rintro n length state ⟨sized, same⟩
      exact ⟨sized, (willing.pause length state).trans same⟩
  refine polled.weaken ?_ ?_ (fun _ _ no => no)
  · intro state same
    exact ⟨List.forall_mem_nil _, by simpa [reads] using same⟩
  · rintro outcome state ⟨bounds, sized, same⟩
    exact ⟨reads outcome.attempts, sized, same, bounds, rfl⟩

/-- Idling sends clocks alone, and as many as were asked for. -/
theorem idleClock_sends {s : Settings} (cycles : UInt32) :
    Sends sent ((channel stream clock s).idleClock cycles) fun _ made =>
      (∀ step ∈ made, step.IsIdle) ∧ (made.map BusStep.idleClocks).sum = cycles.toNat := by
  change Sends sent (if cycles = 0 then pure () else stream.send (idleCommands cycles.toNat)) _
  split
  · next none =>
    subst none
    exact Sends.pure ⟨List.forall_mem_nil _, rfl⟩
  · obtain ⟨steps, fits, total, same⟩ := exists_idleSteps cycles.toNat
    rw [same]
    refine (send_sends willing fun step member => (fits step member).1).weaken ?_
    rintro _ _ rfl
    exact ⟨fun step member => (fits step member).2, total⟩

section Chunks

variable {s : Settings}

theorem writeBulk_sends (data : Bytes) :
    Sends sent ((channel stream clock s).writeBulk data) fun _ made =>
      made = (Bytes.chunks s.clamped.maxChunk data).map (.write Register.bulkWrite) := by
  have fits : ∀ piece ∈ Bytes.chunks s.clamped.maxChunk data, piece.length ≤ maxChunkBytes :=
    fun piece member => (Bytes.length_of_mem_chunks member).2.trans s.chunk_le
  change Sends sent (sendEach stream ((Bytes.chunks s.clamped.maxChunk data).map _)) _
  generalize Bytes.chunks s.clamped.maxChunk data = pieces at fits
  induction pieces with
  | nil => exact Sends.pure rfl
  | cons piece rest ih =>
    rw [List.forall_mem_cons] at fits
    have sized : ∀ step ∈ [BusStep.write Register.bulkWrite piece], step.Sized :=
      List.forall_mem_singleton.mpr ⟨by decide, fits.1⟩
    have sends := send_sends willing sized
    rw [List.flatMap_singleton, BusStep.bytes_write] at sends
    apply sends.bind
    rintro _ _ rfl
    refine (ih fits.2).weaken ?_
    rintro _ _ rfl
    rfl

theorem readChunks_sends {chunk : Nat} (positive : 0 < chunk) (bounded : chunk ≤ maxChunkBytes)
    (left : Nat) (done : List Bytes) :
    Sends sent (readChunks stream chunk positive left done) fun data made =>
      ∃ counts : List Nat, (∀ count ∈ counts, 1 ≤ count ∧ count ≤ chunk) ∧ counts.sum = left ∧
        data.length = done.reverse.flatten.length + left ∧
        made = counts.flatMap fun count => [.read Register.bulkRead count, .handOver] := by
  induction left using Nat.strongRecOn generalizing done with
  | ind left ih =>
    rw [readChunks]
    by_cases none : left = 0
    · subst none
      rw [if_pos rfl]
      exact Sends.pure ⟨[], List.forall_mem_nil _, rfl, rfl, rfl⟩
    · rw [if_neg none]
      dsimp only
      have some : 1 ≤ min left chunk := le_min (Nat.pos_of_ne_zero none) positive
      have short : min left chunk ≤ left := Nat.min_le_left _ _
      have fits : min left chunk ≤ maxCommandBytes :=
        (Nat.min_le_right _ _).trans (bounded.trans (by decide))
      have within : min left chunk ≤ chunk := Nat.min_le_right _ _
      generalize min left chunk = want at some short fits within
      have sized : ∀ step ∈ [BusStep.read Register.bulkRead want], step.Sized :=
        List.forall_mem_singleton.mpr ⟨by decide, some, fits⟩
      have sends := sendAndReceive_sends willing sized want
      rw [List.flatMap_singleton, BusStep.bytes_read _ some fits] at sends
      apply sends.bind
      rintro data _ ⟨size, rfl⟩
      refine (ih (left - want) (by omega) (data :: done)).weaken ?_
      rintro all _ ⟨counts, sized', total, whole, rfl⟩
      refine ⟨want :: counts, List.forall_mem_cons.mpr ⟨⟨some, within⟩, sized'⟩, ?_, ?_, rfl⟩
      · rw [List.sum_cons, total, Nat.add_sub_cancel' short]
      · rw [whole, List.reverse_cons, List.flatten_append, List.flatten_singleton,
          List.length_append, size]
        omega

end Chunks

section Packed

variable {s : Settings}

theorem packedWrite_sends (addr : Addr) (field : UInt16) (payload : Bytes) :
    Sends sent ((link stream clock s).packedWrite addr field payload) fun _ made =>
      made = packedSteps addr field (Bytes.chunks s.clamped.maxChunk payload) := by
  have fits : ∀ piece ∈ Bytes.chunks s.clamped.maxChunk payload, piece.length ≤ maxChunkBytes :=
    fun piece member => (Bytes.length_of_mem_chunks member).2.trans s.chunk_le
  change Sends sent (stream.send (packedFrames s.clamped.maxChunk addr field payload)) _
  rw [packedFrames_eq s.one_le_chunk]
  exact send_sends willing (sized_packedSteps addr field fits)

theorem writeEach_sends {writes : List (UInt8 × UInt8)}
    (free : ∀ write ∈ writes, write.1 < Register.writeFlag) :
    Sends sent ((channel stream clock s).writeEach writes) fun _ made => made = stores writes := by
  induction writes with
  | nil => exact Sends.pure rfl
  | cons write rest ih =>
    rw [List.forall_mem_cons] at free
    apply (writeRegister_sends willing free.1 _).bind
    rintro _ _ rfl
    refine (ih free.2).weaken ?_
    rintro _ _ rfl
    rfl

/-- Access by access, a packed write sends the same. -/
theorem eachPackedWrite_sends (addr : Addr) (field : UInt16) (payload : Bytes) :
    Sends sent ((channel stream clock s).packedWrite addr field payload) fun _ made =>
      made = packedSteps addr field (Bytes.chunks s.clamped.maxChunk payload) := by
  have whole := Bytes.flatten_chunks s.clamped.maxChunk s.one_le_chunk payload
  apply (writeEach_sends willing (flagless_addressWrites addr)).bind
  rintro _ _ rfl
  apply (writePair_sends willing (by decide) field).bind
  rintro _ _ rfl
  apply (writePair_sends willing (by decide) (UInt16.ofNat payload.length)).bind
  rintro _ _ rfl
  apply (writeBulk_sends willing payload).bind
  rintro _ _ rfl
  refine (writeRegister_sends willing (by decide) _).weaken ?_
  rintro _ _ rfl
  rw [packedSteps, whole]
  simp only [List.append_assoc]
  rfl

end Packed

/-- Every use of the link goes through, and sends what it is to show on the bus. -/
theorem perform_sends {s : Settings} {call : LinkCall} (free : call.Flagless) :
    Sends sent (call.perform (link stream clock s)) (call.Shows s.clamped.maxChunk) := by
  have sized (data : Bytes) : ∀ piece ∈ Bytes.chunks s.clamped.maxChunk data,
      1 ≤ piece.length ∧ piece.length ≤ s.clamped.maxChunk :=
    fun _ member => Bytes.length_of_mem_chunks member
  have whole := Bytes.flatten_chunks s.clamped.maxChunk s.one_le_chunk
  cases call with
  | writeRegister reg value =>
    refine (writeRegister_sends willing free value).map _ ?_
    rintro _ _ rfl
    exact .writeRegister
  | readRegister reg =>
    refine (readRegister_sends willing free).map _ ?_
    rintro _ _ rfl
    exact .readRegister
  | writeBulk data =>
    refine (writeBulk_sends willing data).map _ ?_
    rintro _ _ rfl
    have shows := LinkCall.Shows.writeBulk (sized data)
    rwa [whole] at shows
  | readBulk count =>
    refine (readChunks_sends willing s.one_le_chunk s.chunk_le count []).map _ ?_
    rintro data _ ⟨counts, sized, rfl, size, rfl⟩
    exact .readBulk sized (size.trans (Nat.zero_add _))
  | idleClock cycles =>
    refine (idleClock_sends willing cycles).map _ ?_
    rintro _ _ ⟨idle, total⟩
    exact .idleClock idle total
  | writePair lo value =>
    refine (writePair_sends willing free value).map _ ?_
    rintro _ _ rfl
    exact .writePair
  | readPair lo =>
    refine (readPair_sends willing free).map _ ?_
    rintro _ _ rfl
    exact .readPair
  | pollRegister reg expected limits =>
    refine (pollRegister_sends willing free expected limits).map _ ?_
    rintro _ _ ⟨bounds, rfl⟩
    exact .pollRegister bounds.1 bounds.2
  | packedWrite addr field payload =>
    refine (packedWrite_sends willing addr field payload).map _ ?_
    rintro _ _ rfl
    have shows : LinkCall.Shows s.clamped.maxChunk _ .done (packedSteps addr field _) :=
      .packedWrite (sized payload)
    rwa [whole] at shows

/-- What a sequence of uses adds to the stream, use by use. -/
theorem runEach_sends {s : Settings} {calls : List LinkCall}
    (free : ∀ call ∈ calls, call.Flagless) (state : σ) :
    let run := Action.runEach (LinkCall.perform (link stream clock s)) calls state
    ∃ parts : List (List BusStep), (∀ step ∈ parts.flatten, step.Sized) ∧
      sent run.2 = sent state ++ parts.flatten.flatMap BusStep.bytes ∧
      List.Forall₂ (fun made part => ∃ reply, made.2 = .ok reply ∧
        made.1.Shows s.clamped.maxChunk reply part) (calls.zip run.1) parts := by
  induction calls generalizing state with
  | nil => exact ⟨[], List.forall_mem_nil _, (List.append_nil _).symm, .nil⟩
  | cons call rest ih =>
    rw [List.forall_mem_cons] at free
    have first : Sends sent (call.perform (link stream clock s)) (call.Shows s.clamped.maxChunk) :=
      perform_sends willing free.1
    obtain ⟨reply, state', run, part, sized, same, shows⟩ := (first (sent state)).exists_ok rfl
    obtain ⟨parts, sized', same', later⟩ := ih free.2 state'
    have stepped : Action.runEach (LinkCall.perform (link stream clock s)) (call :: rest) state =
        (.ok reply :: (Action.runEach (LinkCall.perform (link stream clock s)) rest state').1,
          (Action.runEach (LinkCall.perform (link stream clock s)) rest state').2) := by
      simp only [Action.runEach, run]
    rw [stepped]
    refine ⟨part :: parts, List.forall_mem_append.mpr ⟨sized, sized'⟩, ?_,
      .cons ⟨reply, rfl, shows⟩ later⟩
    rw [same', same, List.flatten_cons, List.flatMap_append, List.append_assoc]

/-- After the setup, any uses of the link go through, and what they send decodes to the accesses
that were asked for and to nothing else. Both ways to issue a packed write send the same. -/
theorem traffic_decodes (s : Settings) {calls : List LinkCall}
    (free : ∀ call ∈ calls, call.Flagless) (state : σ) :
    (∃ ready, (start stream s).run state = (.ok (), ready) ∧
      sent ready = sent state ++ setup s.clamped ∧
      let run := Action.runEach (LinkCall.perform (link stream clock s)) calls ready
      ∃ (traffic : Bytes) (parts : List (List BusStep)), sent run.2 = sent ready ++ traffic ∧
        Decodes traffic parts.flatten ∧
        List.Forall₂ (fun made part => ∃ reply, made.2 = .ok reply ∧
          made.1.Shows (min 65535 (max 1 s.maxChunk)) reply part) (calls.zip run.1) parts) ∧
    ∀ addr field payload, ∃ once each,
      ((link stream clock s).packedWrite addr field payload).run state = (.ok (), once) ∧
      ((channel stream clock s).packedWrite addr field payload).run state = (.ok (), each) ∧
      sent once = sent each := by
  constructor
  · obtain ⟨_, ready, started, same⟩ :=
      (send_ends willing (setup s.clamped) (sent state)).exists_ok rfl
    obtain ⟨parts, sized, traffic, shows⟩ := runEach_sends willing (s := s) free ready
    exact ⟨ready, started, same, _, parts, traffic, decodes_flatMap sized, shows⟩
  · intro addr field payload
    obtain ⟨_, once, run, _, _, same, rfl⟩ :=
      (packedWrite_sends willing addr field payload (sent state)).exists_ok rfl
    obtain ⟨_, each, run', _, _, same', rfl⟩ :=
      (eachPackedWrite_sends willing addr field payload (sent state)).exists_ok rfl
    exact ⟨once, each, run, run', same.trans same'.symm⟩

end Spi

namespace Bench.Meter

/-- A stream with nothing behind it: what is sent is recorded, and reads find the idle level. -/
def floating : ByteStream Meter where
  write bytes := Action.modify (·.addSent bytes)
  flush := Action.modify (·.addFlush)
  read count := pure (List.replicate count 0xFF)

theorem willing_floating : floating.Willing .still sentBytes where
  write bytes before := by
    refine Ends.modify fun m same => ?_
    rw [← same, sentBytes, addSent, List.reverse_cons, List.flatten_append,
      List.flatten_singleton]
    rfl
  flush before := Ends.modify fun _ same => same
  read count before some := by
    refine Ends.pure fun _ same => ⟨?_, same⟩
    rw [List.length_replicate]
    exact ⟨some, Nat.le_refl count⟩
  pause _ _ := rfl

end Bench.Meter

namespace Spi

/-- A session in which payload bytes look like commands, and a chunk that is cut down to one byte
is asked for. -/
theorem traffic_decodes_floating :
    let s : Settings := { maxChunk := 0 }
    let calls : List LinkCall :=
      [.writeRegister 0xF 0x80, .readPair 9, .writeBulk [0x80, 0, 0xB], .readBulk 2, .idleClock 20,
        .pollRegister 7 2 (.immediate 2), .packedWrite ⟨0x40⟩ 0 [0x87]]
    (∀ call ∈ calls, call.Flagless) ∧
    ∃ ready, (start Bench.Meter.floating s).run {} = (.ok (), ready) ∧
      ready.sentBytes = setup s.clamped ∧
      let run := Action.runEach (LinkCall.perform (link Bench.Meter.floating .still s)) calls ready
      ∃ (traffic : Bytes) (parts : List (List BusStep)),
        run.2.sentBytes = ready.sentBytes ++ traffic ∧ Decodes traffic parts.flatten ∧
        List.Forall₂ (fun made part => ∃ reply, made.2 = .ok reply ∧ made.1.Shows 1 reply part)
          (calls.zip run.1) parts := by
  intro s calls
  have free : ∀ call ∈ calls, call.Flagless := by
    simp only [calls, List.forall_mem_cons, LinkCall.Flagless]
    exact ⟨by decide, by decide, trivial, trivial, trivial, by decide, trivial,
      List.forall_mem_nil _⟩
  have decoded := traffic_decodes Bench.Meter.willing_floating s free {}
  obtain ⟨⟨ready, started, same, rest⟩, -⟩ := decoded
  exact ⟨free, ready, started, same, rest⟩

end Spi

end LineBridge

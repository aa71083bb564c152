import Mathlib
import LineBridge.Proofs.Frames
import LineBridge.Proofs.Metering
import LineBridge.Proofs.SteadyLinks
import LineBridge.Remote.Link

/-! What a link over a stream takes for what it sends. Whatever bytes come back, an access either
ends in a fault of the link, or has taken one reply for each command that it has sent, and behind
the reply to a read what the read asked for. -/

namespace LineBridge

open LineBridge.Action (Preserves)
open LineBridge.Metered (FatalOr Pairing Since Yields)

variable {σ α : Type}

namespace Remote

/-- A command with the answer that was taken for it. -/
structure Exchange where
  command : Frame
  /-- The header of the answer, as it came. -/
  reply : Bytes
  /-- What was taken behind it. -/
  delivery : Bytes
  whole : reply.length = replyBytes
  delivered : delivery.length =
    if command.header.op = .bulkRead ∧ (ReplyHeader.decode reply).success = true then
      command.header.count.toNat
    else 0

namespace Exchange

def sent (x : Exchange) : Bytes := x.command.bytes

def taken (x : Exchange) : Bytes := x.reply ++ x.delivery

end Exchange

/-- The bytes sent are these commands and no others, and the bytes taken are their answers, one
for each and in order. -/
structure Balanced (sent taken : Bytes) (exchanges : List Exchange) : Prop where
  commands : sent = exchanges.flatMap Exchange.sent
  answers : taken = exchanges.flatMap Exchange.taken
  unique : ∀ frames : List Frame, sent = frames.flatMap Frame.bytes →
    frames = exchanges.map Exchange.command

def Answered (sent taken : Bytes) : Prop := ∃ exchanges, Balanced sent taken exchanges

theorem answered_flatMap (exchanges : List Exchange) :
    Answered (exchanges.flatMap Exchange.sent) (exchanges.flatMap Exchange.taken) := by
  refine ⟨exchanges, rfl, rfl, fun frames same => ?_⟩
  have commands : exchanges.flatMap Exchange.sent =
      (exchanges.map Exchange.command).flatMap Frame.bytes :=
    (List.flatMap_map Exchange.command Frame.bytes exchanges).symm
  rw [commands] at same
  exact Frame.selfDelimiting.flatMap_inj (fun _ _ => trivial) (fun _ _ => trivial) same.symm

theorem pairing_answered : Pairing Answered where
  nil := answered_flatMap []
  append := by
    rintro _ _ _ _ ⟨first, rfl, rfl, -⟩ ⟨later, rfl, rfl, -⟩
    have joined := answered_flatMap (first ++ later)
    rwa [List.flatMap_append, List.flatMap_append] at joined

/-- A single command with an answer of the right size. -/
theorem answered_one (x : Exchange) : Answered x.command.bytes (x.reply ++ x.delivery) := by
  have alone := answered_flatMap [x]
  rwa [List.flatMap_singleton, List.flatMap_singleton] at alone

/-- Nothing comes behind the reply to any other command. -/
theorem answered_of_silent {f : Frame} (silent : f.header.op ≠ .bulkRead) {taken : Bytes}
    (whole : taken.length = replyBytes) :
    Answered f.bytes taken := by
  have alone := answered_one ⟨f, taken, [], whole, by rw [if_neg fun both => silent both.1]; rfl⟩
  rwa [List.append_nil] at alone

section Commands

variable {stream : ByteStream σ} (regular : stream.Regular)
include regular

theorem exchange_yields (f : Frame) :
    Yields (exchange stream.metered f.header f.payload) fun reply sent taken =>
      sent = f.bytes ∧ taken.length = replyBytes ∧ reply = ReplyHeader.decode taken := by
  apply (regular.send_yields f.bytes).bind
  rintro _ _ _ ⟨rfl, rfl⟩
  refine (regular.receive_yields replyBytes).bind_pure ReplyHeader.decode ?_
  rintro reply _ taken ⟨rfl, rfl, whole⟩
  exact ⟨List.append_nil _, whole, rfl⟩

/-- A request that goes through has been granted. -/
theorem request_yields (f : Frame) :
    Yields (request stream.metered f.header f.payload) fun data sent taken =>
      sent = f.bytes ∧ taken.length = replyBytes ∧ (ReplyHeader.decode taken).success = true ∧
        data = (ReplyHeader.decode taken).data := by
  apply (exchange_yields regular f).bind
  rintro reply _ taken ⟨rfl, whole, rfl⟩
  split
  · next granted =>
    refine Yields.pure ⟨List.append_nil _, ?_⟩
    rw [List.append_nil]
    exact ⟨whole, granted, rfl⟩
  · exact Yields.fail _

section Bare

variable {f : Frame} (silent : f.header.op ≠ .bulkRead)
include silent

theorem exchange_answered :
    Yields (exchange stream.metered f.header f.payload) fun _ => Answered := by
  refine (exchange_yields regular f).weaken ?_
  rintro _ _ taken ⟨rfl, whole, -⟩
  exact answered_of_silent silent whole

theorem request_answered :
    Yields (request stream.metered f.header f.payload) fun _ => Answered := by
  refine (request_yields regular f).weaken ?_
  rintro _ _ taken ⟨rfl, whole, -⟩
  exact answered_of_silent silent whole

end Bare

theorem writeBulkFrames_answered {frames : List Bytes}
    (fit : ∀ frame ∈ frames, frame.length ≤ maxBulkBytes) :
    Yields (writeBulkFrames stream.metered frames) fun _ => Answered := by
  induction frames with
  | nil => exact Yields.pure pairing_answered.nil
  | cons frame rest ih =>
    rw [List.forall_mem_cons] at fit
    let f := Frame.carrying .bulkWrite rfl 0 0 frame fit.1
    have silent : f.header.op ≠ .bulkRead := nofun
    apply (request_answered regular silent).bind
    intro _ sent taken answered
    exact (ih fit.2).weaken fun _ _ _ later => pairing_answered.append answered later

/-- What is delivered for a read is announced by the reply, and taken whole. -/
theorem readBulkFrames_answered {frame : Nat} (positive : 0 < frame) {left : Nat}
    (fits : left ≤ maxBulkBytes) (done : List Bytes) :
    Yields (readBulkFrames stream.metered frame positive left done) fun _ => Answered := by
  induction left using Nat.strongRecOn generalizing done with
  | ind left ih =>
    rw [readBulkFrames]
    split
    · exact Yields.pure pairing_answered.nil
    · next some =>
      have want : min left frame ≤ maxBulkBytes := (Nat.min_le_left _ _).trans fits
      let f := Frame.bare ⟨.bulkRead, 0, 0, UInt32.ofNat (min left frame)⟩ rfl
      apply (request_yields regular f).bind
      rintro data _ reply ⟨rfl, whole, granted, rfl⟩
      split
      · exact Yields.fail _
      · apply (regular.receive_yields (min left frame)).bind
        rintro delivery _ _ ⟨rfl, rfl, size⟩
        have delivered : delivery.length =
            if f.header.op = .bulkRead ∧ (ReplyHeader.decode reply).success = true then
              f.header.count.toNat else 0 := by
          rw [if_pos ⟨rfl, granted⟩, size]
          exact (toNat_count want).symm
        have answered := answered_one ⟨f, reply, delivery, whole, delivered⟩
        refine (ih (left - min left frame) (by omega) (by omega) (delivery :: done)).weaken ?_
        intro _ sent taken later
        have both := pairing_answered.append answered later
        rwa [List.append_assoc] at both

theorem pollRemotely_answered (reg expected : UInt8) (limits : PollLimits) :
    Yields (pollRemotely stream.metered reg expected limits) fun _ => Answered := by
  let f := Frame.bare
    ⟨.pollRegister, reg.toUInt32, expected.toUInt64, max limits.attempts 1⟩ rfl
  have silent : f.header.op ≠ .bulkRead := nofun
  exact (exchange_answered regular silent).bind_pure _ fun _ _ _ answered => answered

theorem request_preserves {f : Frame} (silent : f.header.op ≠ .bulkRead) (g : UInt64 → α)
    (m : Metered σ) : Preserves (Since Answered m) (FatalOr Answered m)
      (request stream.metered f.header f.payload >>= fun data => Pure.pure (g data)) :=
  pairing_answered.preserves
    ((request_answered regular silent).bind_pure g fun _ _ _ answered => answered) m

/-- A link over any stream takes the answers to its commands. -/
theorem steady_link (clock : Clock σ) (frame : Nat) (m : Metered σ) :
    (link stream.metered clock.metered frame).Steady (Since Answered m) (FatalOr Answered m) where
  writeRegister reg value :=
    let f := Frame.bare ⟨.writeRegister, reg.toUInt32, value.toUInt64, 0⟩ rfl
    request_preserves regular (f := f) nofun _ m
  writeBulk data fits := by
    refine pairing_answered.preserves (writeBulkFrames_answered regular ?_) m
    intro piece member
    exact (Bytes.length_le_of_mem_chunks (Nat.le_max_left ..) member).trans fits
  readBulk count fits :=
    pairing_answered.preserves (readBulkFrames_answered regular _ fits []) m
  idleClock cycles :=
    let f := Frame.bare ⟨.idleClock, 0, cycles.toUInt64, 0⟩ rfl
    request_preserves regular (f := f) nofun _ m
  writePair lo value :=
    let f := Frame.bare ⟨.writePair, lo.toUInt32, value.toUInt64, 0⟩ rfl
    request_preserves regular (f := f) nofun _ m
  readPair lo :=
    let f := Frame.bare ⟨.readPair, lo.toUInt32, 0, 0⟩ rfl
    request_preserves regular (f := f) nofun _ m
  pollRegister reg expected limits :=
    pairing_answered.preserves (pollRemotely_answered regular reg expected limits) m
  packedWrite addr field payload fits :=
    let f := Frame.carrying .packedWrite rfl addr.val field.toUInt64 payload fits
    request_preserves regular (f := f) nofun _ m
  pause := fun _ _ ⟨sent, taken, passed, answered⟩ =>
    ⟨sent, taken, ⟨passed.sent, passed.taken⟩, answered⟩
  own _ _ since := .inr since

end Commands

end Remote

end LineBridge

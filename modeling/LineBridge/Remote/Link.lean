import LineBridge.Link
import LineBridge.Remote.Frame

/-! A link to a bridge that is served over a byte stream. Every command waits for its reply.
Bulk transfers are cut into frames of bounded size; register pairs, waits and packed writes
are one command each. -/

namespace LineBridge.Remote

variable {σ : Type} (stream : ByteStream σ)

def exchange (header : CommandHeader) (payload : Bytes) : Action σ ReplyHeader := do
  sendCommand stream header payload
  nextReply stream

/-- Asks for something that may not fail. -/
def request (header : CommandHeader) (payload : Bytes) : Action σ UInt64 := do
  let reply ← exchange stream header payload
  if reply.success then pure reply.data
  else Action.fail (.link (.refused header.op header.addr))

def writeBulkFrames : List Bytes → Action σ Unit
  | [] => pure ()
  | frame :: rest => do
    let _ ← request stream ⟨.bulkWrite, 0, 0, UInt32.ofNat frame.length⟩ frame
    writeBulkFrames rest

/-- Reads frame by frame; `done` holds the frames behind it, the newest first. -/
def readBulkFrames (frame : Nat) (positive : 0 < frame) (left : Nat) (done : List Bytes) :
    Action σ Bytes :=
  if left = 0 then pure done.reverse.flatten
  else do
    let want := min left frame
    let delivered ← request stream ⟨.bulkRead, 0, 0, UInt32.ofNat want⟩ []
    if delivered.toNat ≠ want then
      Action.fail (.link (.shortDelivery delivered.toNat want))
    else
      let data ← stream.receive want
      readBulkFrames frame positive (left - min left frame) (data :: done)
termination_by left
decreasing_by omega

/-- Leaves a wait to the bridge; its reply says how the wait ended. -/
def pollRemotely (reg expected : UInt8) (limits : PollLimits) :
    Action σ (PollOutcome UInt8) := do
  let reply ← exchange stream
    ⟨.pollRegister, reg.toUInt32, expected.toUInt64, max limits.attempts 1⟩ []
  let value := reply.data.toUInt8
  let attempts := (reply.data >>> 32).toNat
  pure (if reply.success then .ready value attempts else .exhausted value attempts)

/-- The link over a stream with frames of at most `maxFrame` bytes, and at least one. -/
def link (clock : Clock σ) (maxFrame : Nat) : Link σ where
  name := "socket"
  clock := clock
  writeRegister reg value := do
    let _ ← request stream ⟨.writeRegister, reg.toUInt32, value.toUInt64, 0⟩ []
  readRegister reg := do
    let data ← request stream ⟨.readRegister, reg.toUInt32, 0, 0⟩ []
    pure data.toUInt8
  writeBulk data := writeBulkFrames stream (Bytes.chunks (max 1 maxFrame) data)
  readBulk count := readBulkFrames stream (max 1 maxFrame) (by omega) count []
  idleClock cycles := do
    let _ ← request stream ⟨.idleClock, 0, cycles.toUInt64, 0⟩ []
  writePair lo value := do
    let _ ← request stream ⟨.writePair, lo.toUInt32, value.toUInt64, 0⟩ []
  readPair lo := do
    let data ← request stream ⟨.readPair, lo.toUInt32, 0, 0⟩ []
    pure data.toUInt16
  pollRegister := pollRemotely stream
  packedWrite addr field payload := do
    let _ ← request stream
      ⟨.packedWrite, addr.val, field.toUInt64, UInt32.ofNat payload.length⟩ payload

end LineBridge.Remote

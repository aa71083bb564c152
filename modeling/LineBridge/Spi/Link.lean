import LineBridge.ByteStream
import LineBridge.Link
import LineBridge.Spi.Frame

/-! A link through an SPI adapter. Writes are sent and not answered; reads flush the adapter
and collect the bytes that were shifted in, however the adapter splits them. -/

namespace LineBridge.Spi

variable {σ : Type} (stream : ByteStream σ)

/-- Sets the adapter up, before the link is used. -/
def start (s : Settings) : Action σ Unit := stream.send (setup s.clamped)

/-- Sends commands that shift bytes in, and collects them. -/
def sendAndReceive (commands : Bytes) (len : Nat) : Action σ Bytes := do
  stream.send (commands ++ [Opcode.sendImmediate])
  let got ← stream.collect len
  if got.length < len then Action.fail (.link (.shortReceive got.length len)) else pure got

def sendEach : List Bytes → Action σ Unit
  | [] => pure ()
  | commands :: rest => do
    stream.send commands
    sendEach rest

/-- Reads chunk by chunk; `done` holds the chunks behind it, the newest first. -/
def readChunks (chunk : Nat) (positive : 0 < chunk) (left : Nat) (done : List Bytes) :
    Action σ Bytes :=
  if left = 0 then pure done.reverse.flatten
  else do
    let want := min left chunk
    let data ← sendAndReceive stream (readFrame Register.bulkRead want) want
    readChunks chunk positive (left - min left chunk) (data :: done)
termination_by left

/-- The five accesses. -/
def channel (clock : Clock σ) (s : Settings) : Channel σ where
  name := "mpsse"
  clock := clock
  writeRegister reg value := stream.send (writeRegisterFrame reg value)
  readRegister reg := do
    let got ← sendAndReceive stream (readFrame reg 1) 1
    pure (got.headD 0)
  writeBulk data := sendEach stream ((Bytes.chunks s.clamped.maxChunk data).map
    (writeFrame (Register.writeFlag ||| Register.bulkWrite)))
  readBulk count := readChunks stream s.clamped.maxChunk
    (by simp only [Settings.clamped, maxChunkBytes, maxCommandBytes]; omega) count []
  idleClock cycles :=
    if cycles = 0 then pure () else stream.send (idleCommands cycles.toNat)

/-- Pairs are read, and whole writes are issued, in one go. -/
def link (clock : Clock σ) (s : Settings) : Link σ :=
  { (channel stream clock s).link with
    readPair := fun lo => do
      let hi ← Action.ofExcept (nextRegister lo)
      let got ← sendAndReceive stream (readFrame lo 1 ++ readFrame hi 1) 2
      pure (joinBytes (got.headD 0) (got.tail.headD 0))
    packedWrite := fun addr field payload =>
      stream.send (packedFrames s.clamped.maxChunk addr field payload) }

theorem readPair_eq (clock : Clock σ) (s : Settings) {lo : UInt8} (inside : lo ≠ 0xFF) :
    (link stream clock s).readPair lo =
      sendAndReceive stream (readFrame lo 1 ++ readFrame (lo + 1) 1) 2 >>= fun got =>
        pure (joinBytes (got.headD 0) (got.tail.headD 0)) := by
  simp only [link, nextRegister_eq inside]
  rfl

/-- No pair begins at the last number, and nothing is sent for it. -/
theorem readPair_last (clock : Clock σ) (s : Settings) :
    (link stream clock s).readPair 0xFF = Action.fail .overflow := rfl

end LineBridge.Spi

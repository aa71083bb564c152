import LineBridge.Endpoint
import LineBridge.Image.Loader
import LineBridge.Spi.Frame

/-! The settings of a host, their defaults, and the rules that tie them to the bridge: batches
are whole lines that fit the bulk length register, pages are whole lines, control words are
aligned, and frames are not empty. -/

namespace LineBridge

structure PollSettings where
  maxAttempts : UInt32 := 1000
  delayMicros : UInt64 := 50
  timeoutMillis : UInt64 := 2000
deriving DecidableEq, Repr

namespace PollSettings

def limits (p : PollSettings) : PollLimits where
  attempts := p.maxAttempts
  delay := p.delayMicros.toNat * 1000
  timeout := p.timeoutMillis.toNat * 1000000

end PollSettings

structure LinkSettings where
  endpoint : String := "127.0.0.1:7777"
  timeoutMillis : UInt64 := 5000
  maxFrame : UInt64 := 512
  clockHz : UInt32 := 1000000
  maxChunk : UInt64 := 512
deriving DecidableEq, Repr

namespace LinkSettings

def spi (l : LinkSettings) : Spi.Settings := ⟨l.clockHz, l.maxChunk.toNat⟩

/-- A link can be opened to something that reads as an endpoint, and must have time to answer. -/
def check (l : LinkSettings) : Except Fault Unit := do
  let _ ← Endpoint.ofText l.endpoint
  if l.timeoutMillis = 0 then throw (.link .zeroTimeout)

end LinkSettings

structure Settings where
  poll : PollSettings := {}
  transfer : TransferSettings := {}
  control : ControlWords := {}
  link : LinkSettings := {}
deriving DecidableEq, Repr

namespace Settings

def checkBatch (field : BatchField) (bytes : UInt64) : Except Fault Unit :=
  if bytes = 0 ∨ bytes % 16 ≠ 0 ∨ 65520 < bytes then
    .error (.settings (.batchSize field bytes.toNat))
  else .ok ()

def checkControl (field : ControlField) (addr : UInt32) : Except Fault Unit :=
  if addr % 4 ≠ 0 then .error (.settings (.controlAlignment field addr)) else .ok ()

/-- The first rule that is broken, in a fixed order. -/
def validate (s : Settings) : Except Fault Unit := do
  checkBatch .read s.transfer.readBatchBytes
  checkBatch .write s.transfer.writeBatchBytes
  if s.transfer.loadPageBytes = 0 ∨ s.transfer.loadPageBytes % 16 ≠ 0 then
    throw (.settings (.pageSize s.transfer.loadPageBytes.toNat))
  checkControl .programCounter s.control.programCounter
  checkControl .reset s.control.reset
  if s.link.maxFrame = 0 ∨ s.link.maxChunk = 0 then throw (.settings .zeroFrame)
  if 65535 < s.link.maxChunk then throw (.settings (.chunkTooLarge s.link.maxChunk.toNat))

/-- A host on a link, set up by these settings. -/
def memory {σ : Type} (s : Settings) (state : σ) : Memory σ where
  host := { state, limits := s.poll.limits, idleCycles := s.transfer.idleCycles }
  transfer := s.transfer

end Settings

end LineBridge

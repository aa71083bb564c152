import LineBridge.Host.State
import LineBridge.Range

/-! One bus transaction per call. A read programs address and length, starts, waits for the
status, waits for the byte count, drains the bulk register, and clears the command; a write
programs, streams its payload, starts, waits, and clears. A request that the registers cannot
describe is refused before the link is touched. -/

namespace LineBridge.Host

variable {σ : Type}

/-- Bytes of the largest transaction of whole lines. -/
def maxBatchBytes : Nat := maxBatchLines * lineBytes

/-- A length in a 64-bit word, which stops at its largest value. -/
def saturate (n : Nat) : Nat := min n (UInt64.size - 1)

/-- The length field for a transfer of lines, if the transfer can be described. -/
def checkLines (addr : Addr) (lines : Nat) : Except Fault UInt16 := do
  if maxBatchLines < lines then
    throw (.tooLarge (saturate (lines * lineBytes)) maxBatchBytes)
  let len := lines * lineBytes
  addr.requireLineAligned len
  if lines = 0 then throw (.misaligned addr.val.toNat 0 .noLines)
  let _ ← addr.requestEnd len
  match lineField lines with
  | some field => pure field
  | none => throw (.tooLarge len maxBatchBytes)

def checkPayload (addr : Addr) (lines : Nat) (payload : Bytes) : Except Fault Unit :=
  if lines * lineBytes = payload.length then .ok ()
  else .error (.misaligned addr.val.toNat payload.length .payload)

def checkBulk (len : Nat) : Except Fault UInt16 :=
  if maxBulkBytes < len then .error (.tooLarge len maxBulkBytes) else .ok (UInt16.ofNat len)

variable (link : Link σ)

/-- Writes address and length registers. -/
def program (addr : Addr) (field : UInt16) : Action (Host σ) Unit := do
  setInFlight (some addr)
  onLink (link.toChannel.writeEach (Channel.addressWrites addr))
  onLink (link.writePair Register.lenLo field)

def command (c : Command) : Action (Host σ) Unit :=
  onLink (link.writeRegister Register.cmd c.code)

/-- Clears the command and lets the link settle. -/
def finish : Action (Host σ) Unit := do
  command link .null
  let h ← Action.get
  if 0 < h.idleCycles then onLink (link.idleClock h.idleCycles)
  setInFlight none

/-- Waits for a status register to report done. -/
def waitDone (reg : UInt8) (addr : Addr) : Action (Host σ) Unit := do
  let h ← Action.get
  match ← onLink (link.pollRegister reg Status.done.code h.limits) with
  | .ready .. => pure ()
  | .exhausted last attempts =>
    if last = Status.error.code then Action.fail (.device addr last)
    else
      Action.fail (.timeout reg addr Status.done.code.toUInt16 last.toUInt16 attempts)

/-- Waits for the byte count to reach what was asked for. Any other count that stands at the
end, zero apart, means that host and device disagree. -/
def waitCount (addr : Addr) (expected : Nat) : Action (Host σ) Unit := do
  let h ← Action.get
  let target := UInt16.ofNat expected
  let outcome ← onLink
    (poll link.clock h.limits (link.readPair Register.countLo) (target ≤ ·))
  let count := outcome.value.toNat
  if count = expected then pure ()
  else if count ≠ 0 then Action.fail (.size addr expected count)
  else Action.fail (.timeout Register.countLo addr target 0 outcome.attempts)

/-- Drains the bulk read register; a delivery of any other size is a fault. -/
def bulkRead (len : Nat) : Action (Host σ) Bytes := do
  let field ← Action.ofExcept (checkBulk len)
  if len = 0 then pure []
  else
    onLink (link.writePair Register.bulkLenLo field)
    let data ← onLink (link.readBulk len)
    if data.length = len then pure data
    else
      let h ← Action.get
      Action.fail (.size (h.inFlight.getD ⟨0⟩) len data.length)

def bulkWrite (data : Bytes) : Action (Host σ) Unit := do
  let field ← Action.ofExcept (checkBulk data.length)
  if data.isEmpty then pure ()
  else
    onLink (link.writePair Register.bulkLenLo field)
    onLink (link.writeBulk data)

/-- Reads consecutive lines in one transaction. -/
def readLines (addr : Addr) (lines : Nat) : Action (Host σ) Bytes := do
  let field ← Action.ofExcept (checkLines addr lines)
  let expected := lines * lineBytes
  let started ← now link
  program link addr field
  command link .readStart
  waitDone link Register.status addr
  waitCount link addr expected
  let data ← bulkRead link expected
  endPhase link .read started
  let drained ← now link
  finish link
  endPhase link .ack drained
  pure data

def readLine (addr : Addr) : Action (Host σ) Bytes := readLines link addr 1

/-- Waits for a write that was issued, and clears the command. -/
def completeWrite (addr : Addr) : Action (Host σ) Unit := do
  let issued ← now link
  waitDone link Register.writeStatus addr
  finish link
  endPhase link .ack issued

/-- Writes consecutive lines in one transaction, step by step. -/
def writeLines (addr : Addr) (lines : Nat) (payload : Bytes) : Action (Host σ) Unit := do
  let field ← Action.ofExcept (checkLines addr lines)
  Action.ofExcept (checkPayload addr lines payload)
  let started ← now link
  program link addr field
  bulkWrite link payload
  command link .writeStart
  endPhase link .write started
  completeWrite link addr

/-- Writes consecutive lines in one transaction that the link issues as a whole. -/
def writeLinesPacked (addr : Addr) (lines : Nat) (payload : Bytes) : Action (Host σ) Unit := do
  let field ← Action.ofExcept (checkLines addr lines)
  Action.ofExcept (checkPayload addr lines payload)
  let started ← now link
  setInFlight (some addr)
  onLink (link.packedWrite addr field payload)
  endPhase link .write started
  completeWrite link addr

/-- Polls any register under the given limits; the caller judges the outcome. -/
def pollWithin (reg expected : UInt8) (limits : PollLimits) :
    Action (Host σ) (PollOutcome UInt8) :=
  onLink (link.pollRegister reg expected limits)

def pollRegister (reg expected : UInt8) : Action (Host σ) (PollOutcome UInt8) := do
  let h ← Action.get
  pollWithin link reg expected h.limits

/-- Gives up the transaction in flight: the device drops whatever it has buffered. -/
def abort : Action (Host σ) Unit := finish link

end LineBridge.Host

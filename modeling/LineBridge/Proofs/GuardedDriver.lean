import Mathlib
import LineBridge.Proofs.Calls
import LineBridge.Proofs.Guarded

/-! The driver with every slice, index, copy, difference and narrowing guarded, where it is made
and with what it is made of. What goes over the link is what the driver does, and a link may
answer anything. -/

namespace LineBridge

variable {σ α : Type}

namespace Guarded

section Hosts

variable (link : Link σ)

/-- Uses the link. -/
def onLink (x : Action σ α) : Guarded (Host σ) α := lift (Host.onLink x)

def checkLines (addr : Addr) (lines : Nat) : Guarded (Host σ) UInt16 :=
  if maxBatchLines < lines then
    lift (Action.fail (.tooLarge (Host.saturate (lines * lineBytes)) Host.maxBatchBytes))
  else do
    let len ← times lines lineBytes
    lift (Action.ofExcept (addr.requireLineAligned len))
    if lines = 0 then lift (Action.fail (.misaligned addr.val.toNat 0 .noLines))
    else
      let _ ← requestEnd addr len
      if maxLineField < lines then lift (Action.fail (.tooLarge len Host.maxBatchBytes))
      else
        let less ← minus lines 1
        word16 less

def checkBulk (len : Nat) : Guarded (Host σ) UInt16 :=
  if maxBulkBytes < len then lift (Action.fail (.tooLarge len maxBulkBytes)) else word16 len

def waitCount (addr : Addr) (expected : Nat) : Guarded (Host σ) Unit := do
  let _ ← word16 expected
  lift (Host.waitCount link addr expected)

def bulkRead (len : Nat) : Guarded (Host σ) Bytes := do
  let field ← checkBulk len
  if len = 0 then pure []
  else
    onLink (link.writePair Register.bulkLenLo field)
    let data ← onLink (link.readBulk len)
    if data.length = len then pure data
    else
      let h ← lift Action.get
      lift (Action.fail (.size (h.inFlight.getD ⟨0⟩) len data.length))

def bulkWrite (data : Bytes) : Guarded (Host σ) Unit := do
  let field ← checkBulk data.length
  if data.isEmpty then pure ()
  else
    onLink (link.writePair Register.bulkLenLo field)
    onLink (link.writeBulk data)

def readLines (addr : Addr) (lines : Nat) : Guarded (Host σ) Bytes := do
  let field ← checkLines addr lines
  let expected ← times lines lineBytes
  let started ← lift (Host.now link)
  lift (Host.program link addr field)
  lift (Host.command link .readStart)
  lift (Host.waitDone link Register.status addr)
  waitCount link addr expected
  let data ← bulkRead link expected
  lift (Host.endPhase link .read started)
  let drained ← lift (Host.now link)
  lift (Host.finish link)
  lift (Host.endPhase link .ack drained)
  pure data

/-- The bytes are copied to a line of their own. -/
def readLine (addr : Addr) : Guarded (Host σ) Bytes := do
  let data ← readLines link addr 1
  require (data.length = lineBytes)
  pure data

def writeLines (addr : Addr) (lines : Nat) (payload : Bytes) : Guarded (Host σ) Unit := do
  let field ← checkLines addr lines
  lift (Action.ofExcept (Host.checkPayload addr lines payload))
  let started ← lift (Host.now link)
  lift (Host.program link addr field)
  bulkWrite link payload
  lift (Host.command link .writeStart)
  lift (Host.endPhase link .write started)
  lift (Host.completeWrite link addr)

/-- Whoever issues the write announces the length of its payload in 16 bits. -/
def writeLinesPacked (addr : Addr) (lines : Nat) (payload : Bytes) : Guarded (Host σ) Unit := do
  let field ← checkLines addr lines
  lift (Action.ofExcept (Host.checkPayload addr lines payload))
  let started ← lift (Host.now link)
  lift (Host.setInFlight (some addr))
  let _ ← word16 payload.length
  onLink (link.packedWrite addr field payload)
  lift (Host.endPhase link .write started)
  lift (Host.completeWrite link addr)

def patchLine (addr : Addr) (data : Bytes) : Guarded (Host σ) Unit := do
  let line ← readLine link addr.lineBase
  let started ← lift (Host.now link)
  let merged ← copyInto line addr.lineOffset data
  lift (Host.endPhase link .prep started)
  writeLines link addr.lineBase 1 merged

end Hosts

section Memories

variable (link : Link σ)

def onHost (g : Guarded (Host σ) α) : Guarded (Memory σ) α :=
  on (·.host) (fun h m => { m with host := h }) g

/-- How much the next transaction moves. -/
def first (batch : Nat) (addr : Addr) (len : Nat) : Guarded (Memory σ) Piece :=
  if addr.lineOffset ≠ 0 then do
    let room ← minus lineBytes addr.lineOffset
    pure ⟨.partialLine, min room len, 1⟩
  else if lineBytes ≤ len then do
    let lines := min (len / lineBytes) (max 1 batch)
    let bytes ← times lines lineBytes
    pure ⟨.lines, bytes, lines⟩
  else pure ⟨.partialLine, len, 1⟩

def readPiece (addr : Addr) (piece : Piece) : Guarded (Memory σ) Bytes :=
  match piece.kind with
  | .partialLine => do
    let line ← onHost (readLine link addr.lineBase)
    slice line addr.lineOffset (addr.lineOffset + piece.bytes)
  | .lines => onHost (readLines link addr piece.lines)

def readFrom (batch : Nat) (addr : Addr) (len : Nat) (report : TransferReport)
    (done : List Bytes) : Guarded (Memory σ) (Bytes × TransferReport) :=
  if len = 0 then pure (done.reverse.flatten, report)
  else
    -- the recursion goes by the plain piece, which is known to have bytes in it
    let piece := Piece.first batch addr len
    do
      let _ ← first batch addr len
      let data ← readPiece link addr piece
      lift (Memory.reportPiece .read addr piece)
      let next ← advance addr piece.bytes
      let _ ← minus len piece.bytes
      readFrom batch next (len - piece.bytes) (report.add piece) (data :: done)
termination_by len
decreasing_by
  have := Piece.bytes_first_pos batch addr ‹¬len = 0›
  omega

/-- All that was asked for is there in the end. -/
def readReported (addr : Addr) (len : Nat) : Guarded (Memory σ) (Bytes × TransferReport) := do
  let started ← lift (Memory.onHost (Host.now link))
  if len = 0 then pure ([], {})
  else
    let _ ← requestEnd addr len
    let transfer ← lift Memory.settings
    let (data, report) ← readFrom link transfer.readBatchLines addr len {} []
    require (data.length = len)
    let ended ← lift (Memory.onHost (Host.now link))
    pure (data, { report with elapsed := ended - started })

def read (addr : Addr) (len : Nat) : Guarded (Memory σ) Bytes := do
  let (data, _) ← readReported link addr len
  pure data

def writePiece (addr : Addr) (piece : Piece) (data : Bytes) : Guarded (Memory σ) Unit :=
  match piece.kind with
  | .partialLine => onHost (patchLine link addr data)
  | .lines => do
    let transfer ← lift Memory.settings
    if transfer.packedWrites then onHost (writeLinesPacked link addr piece.lines data)
    else onHost (writeLines link addr piece.lines data)

def writeFrom (batch : Nat) (addr : Addr) (len : Nat) (data : Bytes)
    (report : TransferReport) : Guarded (Memory σ) TransferReport :=
  if len = 0 then pure report
  else
    let piece := Piece.first batch addr len
    do
      let _ ← first batch addr len
      let part ← slice data 0 piece.bytes
      writePiece link addr piece part
      lift (Memory.reportPiece .write addr piece)
      let next ← advance addr piece.bytes
      let _ ← minus len piece.bytes
      let rest ← slice data piece.bytes data.length
      writeFrom batch next (len - piece.bytes) rest (report.add piece)
termination_by len
decreasing_by
  have := Piece.bytes_first_pos batch addr ‹¬len = 0›
  omega

def write (addr : Addr) (data : Bytes) : Guarded (Memory σ) TransferReport := do
  let started ← lift (Memory.onHost (Host.now link))
  if data.isEmpty then pure {}
  else
    let _ ← requestEnd addr data.length
    let transfer ← lift Memory.settings
    let report ← writeFrom link transfer.writeBatchLines addr data.length data {}
    let ended ← lift (Memory.onHost (Host.now link))
    pure { report with elapsed := ended - started }

/-- The four bytes are taken out one by one. -/
def readWord (addr : Addr) : Guarded (Memory σ) UInt32 := do
  lift (Action.ofExcept addr.requireWordAligned)
  let data ← read link addr wordBytes
  let b0 ← element data 0
  let b1 ← element data 1
  let b2 ← element data 2
  let b3 ← element data 3
  pure (UInt32.ofNat (Bytes.ofLittleEndian [b0, b1, b2, b3]))

def writeWord (addr : Addr) (value : UInt32) : Guarded (Memory σ) Unit := do
  lift (Action.ofExcept addr.requireWordAligned)
  let _ ← write link addr (Bytes.littleEndian wordBytes value.toNat)
  pure ()

/-- The two bytes that differ are taken out at the place where they differ. -/
def verify (addr : Addr) (expected : Bytes) : Guarded (Memory σ) Unit := do
  let actual ← read link addr expected.length
  match Memory.firstDifference expected actual 0 with
  | none => pure ()
  | some (i, _, _) =>
    let place ← advance addr i
    let wrote ← element expected i
    let got ← element actual i
    lift (Action.fail (.mismatch place wrote got))

end Memories

section Loaders

variable (link : Link σ)

def onMemory (g : Guarded (Memory σ) α) : Guarded (Loader σ) α :=
  on (·.memory) (fun m l => { l with memory := m }) g

/-- Writes pages, `done` bytes behind the base. -/
def writePages (base : Addr) (done : Nat) : List Bytes → Guarded (Memory σ) Unit
  | [] => pure ()
  | page :: rest => do
    let place ← advance base done
    let _ ← write link place page
    writePages base (done + page.length) rest

/-- Whole lines have a size that a word of the host can hold, and pages are not empty. -/
def loadSegment (verified : Bool) (segment : Segment) : Guarded (Memory σ) Nat := do
  let payload := segment.padded
  require (payload.length < UInt64.size)
  if payload.isEmpty then pure 0
  else
    let _ ← requestEnd segment.addr payload.length
    let transfer ← lift Memory.settings
    let page := max transfer.loadPageBytes.toNat lineBytes
    require (page ≠ 0)
    writePages link segment.addr 0 (payload.chunks page)
    if verified then verify link segment.addr payload
    pure payload.length

def loadSegments (verified : Bool) : List Segment → Nat → Guarded (Memory σ) Nat
  | [], written => pure written
  | segment :: rest, written => do
    let bytes ← loadSegment link verified segment
    loadSegments verified rest (written + bytes)

def load (image : Image) (verified : Bool) : Guarded (Loader σ) LoadReport := do
  let started ← lift (Loader.onMemory (Memory.onHost (Host.now link)))
  let bytes ← onMemory (loadSegments link verified image.segments 0)
  lift (Action.modify fun l => { l with entry := some image.entry })
  let ended ← lift (Loader.onMemory (Memory.onHost (Host.now link)))
  pure ⟨image.segments.length, bytes, image.entry, verified, ended - started⟩

def writeControl (addr value : UInt32) : Guarded (Loader σ) Unit :=
  onMemory (writeWord link ⟨addr⟩ value)

def halt : Guarded (Loader σ) Unit := do
  let l ← lift Action.get
  writeControl link l.control.reset l.control.hold

def start : Guarded (Loader σ) Unit := do
  let l ← lift Action.get
  match l.entry with
  | none => lift (Action.fail .notLoaded)
  | some entry =>
    writeControl link l.control.programCounter entry
    writeControl link l.control.reset l.control.hold
    writeControl link l.control.reset 0

def loadAndStart (image : Image) (verified : Bool) : Guarded (Loader σ) LoadReport := do
  let report ← load link image verified
  start link
  pure report

end Loaders

end Guarded

section Uses

variable (link : Link σ)

def MemoryCall.guarded : MemoryCall → Guarded (Memory σ) CallReply
  | read addr len => CallReply.bytes <$> Guarded.read link addr len
  | write addr data => CallReply.moved <$> Guarded.write link addr data
  | readWord addr => CallReply.word <$> Guarded.readWord link addr
  | writeWord addr value => (fun _ => CallReply.done) <$> Guarded.writeWord link addr value
  | verify addr expected => (fun _ => CallReply.done) <$> Guarded.verify link addr expected

def HostCall.guarded : HostCall → Guarded (Host σ) CallReply
  | readLines addr lines => CallReply.bytes <$> Guarded.readLines link addr lines
  | writeLines addr lines payload =>
    (fun _ => CallReply.done) <$> Guarded.writeLines link addr lines payload
  | writeLinesPacked addr lines payload =>
    (fun _ => CallReply.done) <$> Guarded.writeLinesPacked link addr lines payload
  | abort => (fun _ => CallReply.done) <$> Guarded.lift (Host.abort link)

def LoaderCall.guarded : LoaderCall → Guarded (Loader σ) CallReply
  | load image verify => CallReply.loaded <$> Guarded.load link image verify
  | start => (fun _ => CallReply.done) <$> Guarded.start link
  | halt => (fun _ => CallReply.done) <$> Guarded.halt link
  | loadAndStart image verify => CallReply.loaded <$> Guarded.loadAndStart link image verify

def DriverCall.guarded : DriverCall → Guarded (Loader σ) CallReply
  | host call => Guarded.onMemory (Guarded.onHost (call.guarded link))
  | memory call => Guarded.onMemory (call.guarded link)
  | loader call => call.guarded link

def DriverUse.guarded : DriverUse → Guarded (Loader σ) UseReply
  | call made => UseReply.answered <$> made.guarded link
  | readReported addr len =>
    (fun (data, report) => UseReply.account data report) <$>
      Guarded.onMemory (Guarded.readReported link addr len)
  | readLine addr =>
    UseReply.drained <$> Guarded.onMemory (Guarded.onHost (Guarded.readLine link addr))
  | bulkRead len =>
    UseReply.drained <$> Guarded.onMemory (Guarded.onHost (Guarded.bulkRead link len))
  | bulkWrite data =>
    (fun _ => UseReply.streamed) <$>
      Guarded.onMemory (Guarded.onHost (Guarded.bulkWrite link data))
  | pollRegister reg expected =>
    UseReply.waited <$>
      Guarded.lift (Loader.onMemory (Memory.onHost (Host.pollRegister link reg expected)))
  | pollWithin reg expected limits =>
    UseReply.waited <$>
      Guarded.lift (Loader.onMemory (Memory.onHost (Host.pollWithin link reg expected limits)))

end Uses

end LineBridge

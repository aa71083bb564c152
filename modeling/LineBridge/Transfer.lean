import LineBridge.Host.Transaction

/-! Memory access by the byte. A request is moved in pieces: a fragment up to the first line
boundary, batches of whole lines, and a fragment of the last line. A fragment is written by
reading its line, merging, and writing the line back. -/

namespace LineBridge

/-- How requests are cut and moved. -/
structure TransferSettings where
  readBatchBytes : UInt64 := 4096
  writeBatchBytes : UInt64 := 4096
  /-- The step in which images are loaded. -/
  loadPageBytes : UInt64 := 4096
  /-- Whole lines are written by packed writes. -/
  packedWrites : Bool := true
  idleCycles : UInt32 := 8
deriving DecidableEq, Repr

namespace TransferSettings

def readBatchLines (t : TransferSettings) : Nat := t.readBatchBytes.toNat / lineBytes

def writeBatchLines (t : TransferSettings) : Nat := t.writeBatchBytes.toNat / lineBytes

end TransferSettings

/-- A part of a request that is moved by one transaction, or by one merge. -/
structure Piece where
  kind : BatchKind
  bytes : Nat
  lines : Nat
deriving DecidableEq, Repr

namespace Piece

/-- The first piece of a request that is not empty, with at most `batch` lines in it. -/
def first (batch : Nat) (addr : Addr) (len : Nat) : Piece :=
  if addr.lineOffset ≠ 0 then ⟨.partialLine, min (lineBytes - addr.lineOffset) len, 1⟩
  else if lineBytes ≤ len then
    let lines := min (len / lineBytes) (max 1 batch)
    ⟨.lines, lines * lineBytes, lines⟩
  else ⟨.partialLine, len, 1⟩

theorem bytes_first_le (batch : Nat) (addr : Addr) (len : Nat) :
    (first batch addr len).bytes ≤ len := by
  unfold first
  split
  · exact Nat.min_le_right _ _
  · split
    · have := Nat.div_mul_le_self len lineBytes
      have := Nat.mul_le_mul_right lineBytes (Nat.min_le_left (len / lineBytes) (max 1 batch))
      exact Nat.le_trans this ‹_›
    · exact Nat.le_refl _

theorem bytes_first_pos (batch : Nat) (addr : Addr) {len : Nat} (nonempty : len ≠ 0) :
    0 < (first batch addr len).bytes := by
  have inside := addr.lineOffset_lt
  unfold first
  split
  · simp only
    omega
  · split
    · next whole =>
      have := Nat.div_pos whole (by decide : 0 < lineBytes)
      exact Nat.mul_pos (by omega) (by decide)
    · exact Nat.pos_of_ne_zero nonempty

end Piece

/-- The pieces of a request with the addresses at which they start. -/
def pieces (batch : Nat) (addr : Addr) (len : Nat) : List (Addr × Piece) :=
  if len = 0 then []
  else
    let piece := Piece.first batch addr len
    (addr, piece) :: pieces batch (addr.offset piece.bytes) (len - piece.bytes)
termination_by len
decreasing_by
  have := Piece.bytes_first_pos batch addr ‹¬len = 0›
  omega

/-- What one request moved. -/
structure TransferReport where
  bytes : Nat := 0
  batches : Nat := 0
  partialLines : Nat := 0
  /-- In nanoseconds. -/
  elapsed : Nat := 0
deriving DecidableEq, Repr

namespace TransferReport

def add (r : TransferReport) (piece : Piece) : TransferReport :=
  { r with
    bytes := r.bytes + piece.bytes
    batches := r.batches + 1
    partialLines := r.partialLines + if piece.kind = .partialLine then 1 else 0 }

end TransferReport

/-- A host with the settings for its transfers. -/
structure Memory (σ : Type) where
  host : Host σ
  transfer : TransferSettings := {}

namespace Memory

variable {σ α : Type}

def onHost (x : Action (Host σ) α) : Action (Memory σ) α :=
  Action.on (·.host) (fun h m => { m with host := h }) x

def settings : Action (Memory σ) TransferSettings := fun m => (.ok m.transfer, m)

def reportPiece (direction : Direction) (addr : Addr) (piece : Piece) : Action (Memory σ) Unit :=
  onHost (Host.report (.batch ⟨direction, piece.kind, addr, piece.bytes, piece.lines⟩))

variable (link : Link σ)

/-- The bytes of one piece. -/
def readPiece (addr : Addr) (piece : Piece) : Action (Memory σ) Bytes :=
  match piece.kind with
  | .partialLine => do
    let line ← onHost (Host.readLine link addr.lineBase)
    pure ((line.drop addr.lineOffset).take piece.bytes)
  | .lines => onHost (Host.readLines link addr piece.lines)

/-- Reads piece by piece; `done` holds the pieces behind it, the newest first. -/
def readFrom (batch : Nat) (addr : Addr) (len : Nat) (report : TransferReport)
    (done : List Bytes) : Action (Memory σ) (Bytes × TransferReport) :=
  if len = 0 then pure (done.reverse.flatten, report)
  else
    let piece := Piece.first batch addr len
    do
      let data ← readPiece link addr piece
      reportPiece .read addr piece
      readFrom batch (addr.offset piece.bytes) (len - piece.bytes) (report.add piece)
        (data :: done)
termination_by len
decreasing_by
  have := Piece.bytes_first_pos batch addr ‹¬len = 0›
  omega

/-- Reads any range, with an account of what it took. -/
def readReported (addr : Addr) (len : Nat) : Action (Memory σ) (Bytes × TransferReport) := do
  let started ← onHost (Host.now link)
  if len = 0 then pure ([], {})
  else
    let _ ← Action.ofExcept (addr.requestEnd len)
    let transfer ← settings
    let (data, report) ← readFrom link transfer.readBatchLines addr len {} []
    let ended ← onHost (Host.now link)
    pure (data, { report with elapsed := ended - started })

def read (addr : Addr) (len : Nat) : Action (Memory σ) Bytes := do
  let (data, _) ← readReported link addr len
  pure data

/-- A line with some of its bytes replaced. -/
def splice (line : Bytes) (offset : Nat) (data : Bytes) : Bytes :=
  line.take offset ++ data ++ line.drop (offset + data.length)

/-- Replaces a fragment of a line. -/
def patchLine (addr : Addr) (data : Bytes) : Action (Host σ) Unit := do
  let line ← Host.readLine link addr.lineBase
  let started ← Host.now link
  let merged := splice line addr.lineOffset data
  Host.endPhase link .prep started
  Host.writeLines link addr.lineBase 1 merged

/-- Writes the bytes of one piece. -/
def writePiece (addr : Addr) (piece : Piece) (data : Bytes) : Action (Memory σ) Unit :=
  match piece.kind with
  | .partialLine => onHost (patchLine link addr data)
  | .lines => do
    let transfer ← settings
    if transfer.packedWrites then onHost (Host.writeLinesPacked link addr piece.lines data)
    else onHost (Host.writeLines link addr piece.lines data)

/-- Writes `len` bytes piece by piece. -/
def writeFrom (batch : Nat) (addr : Addr) (len : Nat) (data : Bytes)
    (report : TransferReport) : Action (Memory σ) TransferReport :=
  if len = 0 then pure report
  else
    let piece := Piece.first batch addr len
    do
      writePiece link addr piece (data.take piece.bytes)
      reportPiece .write addr piece
      writeFrom batch (addr.offset piece.bytes) (len - piece.bytes) (data.drop piece.bytes)
        (report.add piece)
termination_by len
decreasing_by
  have := Piece.bytes_first_pos batch addr ‹¬len = 0›
  omega

/-- Writes any range and touches no byte outside it. -/
def write (addr : Addr) (data : Bytes) : Action (Memory σ) TransferReport := do
  let started ← onHost (Host.now link)
  if data.isEmpty then pure {}
  else
    let _ ← Action.ofExcept (addr.requestEnd data.length)
    let transfer ← settings
    let report ← writeFrom link transfer.writeBatchLines addr data.length data {}
    let ended ← onHost (Host.now link)
    pure { report with elapsed := ended - started }

/-- Reads an aligned word. -/
def readWord (addr : Addr) : Action (Memory σ) UInt32 := do
  Action.ofExcept addr.requireWordAligned
  let data ← read link addr wordBytes
  pure (UInt32.ofNat (Bytes.ofLittleEndian data))

/-- Writes an aligned word, which never crosses a line. -/
def writeWord (addr : Addr) (value : UInt32) : Action (Memory σ) Unit := do
  Action.ofExcept addr.requireWordAligned
  let _ ← write link addr (Bytes.littleEndian wordBytes value.toNat)
  pure ()

/-- The first place where two byte strings differ, with the two bytes. -/
def firstDifference : Bytes → Bytes → Nat → Option (Nat × UInt8 × UInt8)
  | e :: expected, a :: actual, at_ =>
    if e = a then firstDifference expected actual (at_ + 1) else some (at_, e, a)
  | _, _, _ => none

/-- Reads back and compares. -/
def verify (addr : Addr) (expected : Bytes) : Action (Memory σ) Unit := do
  let actual ← read link addr expected.length
  match firstDifference expected actual 0 with
  | none => pure ()
  | some (i, wrote, got) => Action.fail (.mismatch (addr.offset i) wrote got)

end Memory

end LineBridge

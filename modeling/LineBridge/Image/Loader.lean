import LineBridge.Image
import LineBridge.Transfer

/-! Loading images and starting the core. Segments are written page by page, padded to whole
lines, and read back on request. The core is controlled through two words of its memory: its
program counter, and a reset word that holds it when set and lets it run when zero. -/

namespace LineBridge

/-- Where the control words are, and the value that holds the core. -/
structure ControlWords where
  programCounter : UInt32 := 0x02000000
  reset : UInt32 := 0x02000004
  hold : UInt32 := 3
deriving DecidableEq, Repr

/-- Memory with a core in it. -/
structure Loader (σ : Type) where
  memory : Memory σ
  control : ControlWords := {}
  /-- The entry point of the image that was last loaded whole. -/
  entry : Option UInt32 := none

/-- What one load wrote; bytes count the padding. -/
structure LoadReport where
  segments : Nat
  bytes : Nat
  entry : UInt32
  verified : Bool
  /-- In nanoseconds. -/
  elapsed : Nat
deriving DecidableEq, Repr

namespace Loader

variable {σ α : Type}

def onMemory (x : Action (Memory σ) α) : Action (Loader σ) α :=
  Action.on (·.memory) (fun m l => { l with memory := m }) x

variable (link : Link σ)

/-- Writes pages one behind the other. -/
def writePages (addr : Addr) : List Bytes → Action (Memory σ) Unit
  | [] => pure ()
  | page :: rest => do
    let _ ← Memory.write link addr page
    writePages (addr.offset page.length) rest

/-- Writes one segment, and answers how many bytes that were. -/
def loadSegment (verify : Bool) (segment : Segment) : Action (Memory σ) Nat := do
  let payload := segment.padded
  if payload.isEmpty then pure 0
  else
    let _ ← Action.ofExcept (segment.addr.requestEnd payload.length)
    let transfer ← Memory.settings
    let page := max transfer.loadPageBytes.toNat lineBytes
    writePages link segment.addr (payload.chunks page)
    if verify then Memory.verify link segment.addr payload
    pure payload.length

/-- Writes segments in order, and answers how many bytes they were. -/
def loadSegments (verify : Bool) : List Segment → Nat → Action (Memory σ) Nat
  | [], written => pure written
  | segment :: rest, written => do
    let bytes ← loadSegment link verify segment
    loadSegments verify rest (written + bytes)

/-- Loads an image. Only a whole load makes its entry point the one to start at. -/
def load (image : Image) (verify : Bool) : Action (Loader σ) LoadReport := do
  let started ← onMemory (Memory.onHost (Host.now link))
  let bytes ← onMemory (loadSegments link verify image.segments 0)
  Action.modify fun l => { l with entry := some image.entry }
  let ended ← onMemory (Memory.onHost (Host.now link))
  pure ⟨image.segments.length, bytes, image.entry, verify, ended - started⟩

def writeControl (addr value : UInt32) : Action (Loader σ) Unit :=
  onMemory (Memory.writeWord link ⟨addr⟩ value)

/-- Holds the core in reset. -/
def halt : Action (Loader σ) Unit := do
  let l ← Action.get
  writeControl link l.control.reset l.control.hold

/-- Starts the core at the entry point: sets the program counter, holds, and lets go. -/
def start : Action (Loader σ) Unit := do
  let l ← Action.get
  match l.entry with
  | none => Action.fail .notLoaded
  | some entry =>
    writeControl link l.control.programCounter entry
    writeControl link l.control.reset l.control.hold
    writeControl link l.control.reset 0

/-- Loads an image and starts it. -/
def loadAndStart (image : Image) (verify : Bool) : Action (Loader σ) LoadReport := do
  let report ← load link image verify
  start link
  pure report

end Loader

end LineBridge

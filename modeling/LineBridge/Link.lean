import LineBridge.Polling

/-! Links to the bridge's register file. A channel offers five accesses; a link offers besides
them the four sequences that it may shorten, and every channel has a link that plays the
sequences access by access. -/

namespace LineBridge

/-- The accesses that every way to the register file has. -/
structure Channel (σ : Type) where
  name : String
  clock : Clock σ
  writeRegister : UInt8 → UInt8 → Action σ Unit
  readRegister : UInt8 → Action σ UInt8
  /-- Streams bytes into the bulk write register. -/
  writeBulk : Bytes → Action σ Unit
  /-- Takes that many bytes out of the bulk read register. -/
  readBulk : Nat → Action σ Bytes
  /-- Clocks with the device deselected. -/
  idleClock : UInt32 → Action σ Unit

/-- A channel with its register pairs, its waits and its packed writes. -/
structure Link (σ : Type) extends Channel σ where
  writePair : UInt8 → UInt16 → Action σ Unit
  readPair : UInt8 → Action σ UInt16
  pollRegister : UInt8 → UInt8 → PollLimits → Action σ (PollOutcome UInt8)
  /-- Issues a whole write of lines at an address, with its length field and payload, and does
  not wait for it. -/
  packedWrite : Addr → UInt16 → Bytes → Action σ Unit

/-- The low byte of a pair. -/
def lowByte (value : UInt16) : UInt8 := value.toUInt8

/-- The high byte of a pair. -/
def highByte (value : UInt16) : UInt8 := (value >>> 8).toUInt8

def joinBytes (low high : UInt8) : UInt16 := low.toUInt16 ||| (high.toUInt16 <<< 8)

/-- The register of a pair that has its high half. No register follows the last number. -/
def nextRegister (lo : UInt8) : Except Fault UInt8 :=
  if lo = 0xFF then .error .overflow else .ok (lo + 1)

theorem nextRegister_eq {lo : UInt8} (inside : lo ≠ 0xFF) : nextRegister lo = .ok (lo + 1) :=
  if_neg inside

namespace Channel

variable {σ : Type} (channel : Channel σ)

/-- The low half goes first. -/
def writePair (lo : UInt8) (value : UInt16) : Action σ Unit := do
  channel.writeRegister lo (lowByte value)
  let hi ← Action.ofExcept (nextRegister lo)
  channel.writeRegister hi (highByte value)

def readPair (lo : UInt8) : Action σ UInt16 := do
  let low ← channel.readRegister lo
  let hi ← Action.ofExcept (nextRegister lo)
  let high ← channel.readRegister hi
  pure (joinBytes low high)

section Pairs

variable {lo : UInt8} (inside : lo ≠ 0xFF)
include inside

theorem writePair_eq (value : UInt16) :
    channel.writePair lo value = channel.writeRegister lo (lowByte value) >>= fun _ =>
      channel.writeRegister (lo + 1) (highByte value) := by
  unfold writePair
  rw [nextRegister_eq inside]
  rfl

theorem readPair_eq :
    channel.readPair lo = channel.readRegister lo >>= fun low =>
      channel.readRegister (lo + 1) >>= fun high => pure (joinBytes low high) := by
  unfold readPair
  rw [nextRegister_eq inside]
  rfl

end Pairs

def pollRegister (reg expected : UInt8) (limits : PollLimits) : Action σ (PollOutcome UInt8) :=
  poll channel.clock limits (channel.readRegister reg) (· == expected)

def writeEach : List (UInt8 × UInt8) → Action σ Unit
  | [] => pure ()
  | (reg, value) :: rest => do
    channel.writeRegister reg value
    writeEach rest

/-- The address registers and what goes into them. -/
def addressWrites (addr : Addr) : List (UInt8 × UInt8) := Register.address.zip addr.bytes

def packedWrite (addr : Addr) (field : UInt16) (payload : Bytes) : Action σ Unit := do
  channel.writeEach (addressWrites addr)
  channel.writePair Register.lenLo field
  channel.writePair Register.bulkLenLo (UInt16.ofNat payload.length)
  channel.writeBulk payload
  channel.writeRegister Register.cmd Command.writeStart.code

/-- The link that plays every sequence access by access. -/
def link : Link σ where
  toChannel := channel
  writePair := channel.writePair
  readPair := channel.readPair
  pollRegister := channel.pollRegister
  packedWrite := channel.packedWrite

end Channel

end LineBridge

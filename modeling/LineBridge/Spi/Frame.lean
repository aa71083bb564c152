import LineBridge.Register

/-! Byte commands for an adapter that drives an SPI bus. A register access is one assertion of
chip select: a data command that shifts out the register number, with the write flag in its
top bit and the values after it, or without the flag and followed by a command that shifts the
answer in. Data and clock commands carry their length less one. -/

namespace LineBridge.Spi

namespace Opcode

def writeBytes : UInt8 := 0x10
def readBytes : UInt8 := 0x24
def setPins : UInt8 := 0x80
def loopbackOff : UInt8 := 0x85
def setDivisor : UInt8 := 0x86
def sendImmediate : UInt8 := 0x87
def fullClock : UInt8 := 0x8A
def threePhase : UInt8 := 0x8C
def clockBits : UInt8 := 0x8E
def clockBytes : UInt8 := 0x8F
def adaptiveOff : UInt8 := 0x97

end Opcode

namespace Pin

def clock : UInt8 := 0x01
def dataOut : UInt8 := 0x02
def chipSelect : UInt8 := 0x08
def outputs : UInt8 := clock ||| dataOut ||| chipSelect

end Pin

/-- Bytes, or groups of eight clocks, that one command can carry. -/
def maxCommandBytes : Nat := 65536

/-- A bulk payload shares its data command with the register number. -/
def maxChunkBytes : Nat := maxCommandBytes - 1

/-- The adapter's clock in three-phase mode, before the divisor. -/
def phasedClockHz : Nat := 20000000

structure Settings where
  clockHz : UInt32 := 1000000
  /-- Bytes of bulk payload in one assertion of chip select. -/
  maxChunk : Nat := 512
deriving DecidableEq, Repr

namespace Settings

/-- The smallest divisor that keeps the clock at or below the rate asked for. -/
def divisor (s : Settings) : UInt16 :=
  let hz := max 1 s.clockHz.toNat
  UInt16.ofNat (min 65535 ((phasedClockHz + hz - 1) / hz - 1))

/-- The chunk held between one byte and what a data command can carry. -/
def clamped (s : Settings) : Settings := { s with maxChunk := min maxChunkBytes (max 1 s.maxChunk) }

end Settings

/-- Pulls chip select low. -/
def select : Bytes := [Opcode.setPins, 0, Pin.outputs]

/-- Lets chip select go. -/
def deselect : Bytes := [Opcode.setPins, Pin.chipSelect, Pin.outputs]

/-- A command with its length less one. -/
def lengthCommand (opcode : UInt8) (len : Nat) : Bytes :=
  opcode :: Bytes.littleEndian 2 (len - 1)

/-- As many commands as it takes for a length. -/
def lengthCommands (opcode : UInt8) (len : Nat) : Bytes :=
  if len = 0 then []
  else lengthCommand opcode (min len maxCommandBytes) ++
    lengthCommands opcode (len - min len maxCommandBytes)
termination_by len
decreasing_by
  simp only [maxCommandBytes]
  omega

/-- One assertion of chip select that shifts out a header and a payload. -/
def writeFrame (header : UInt8) (payload : Bytes) : Bytes :=
  select ++ lengthCommand Opcode.writeBytes (1 + payload.length) ++ header :: payload ++ deselect

/-- One assertion of chip select that shifts out a header and shifts in an answer. -/
def readFrame (header : UInt8) (len : Nat) : Bytes :=
  select ++ lengthCommand Opcode.writeBytes 1 ++ header :: lengthCommands Opcode.readBytes len ++
    deselect

def writeRegisterFrame (reg value : UInt8) : Bytes :=
  writeFrame (Register.writeFlag ||| reg) [value]

/-- Sets the adapter up: full clock, three phases, no loopback, divisor, idle pins. -/
def setup (s : Settings) : Bytes :=
  [Opcode.fullClock, Opcode.adaptiveOff, Opcode.threePhase, Opcode.loopbackOff,
    Opcode.setDivisor] ++ Bytes.littleEndian 2 s.divisor.toNat ++ deselect

/-- Clocks without data: whole groups of eight, then the bits that are left. -/
def idleCommands (cycles : Nat) : Bytes :=
  lengthCommands Opcode.clockBytes (cycles / 8) ++
    if cycles % 8 = 0 then [] else [Opcode.clockBits, UInt8.ofNat (cycles % 8 - 1)]

/-- A whole write of lines, one assertion of chip select for every register and chunk. -/
def packedFrames (chunk : Nat) (addr : Addr) (field : UInt16) (payload : Bytes) : Bytes :=
  let registers := Register.address.zip addr.bytes ++
    [Register.lenLo, Register.lenHi].zip (Bytes.littleEndian 2 field.toNat) ++
    [Register.bulkLenLo, Register.bulkLenHi].zip (Bytes.littleEndian 2 payload.length)
  (registers.map fun (reg, value) => writeRegisterFrame reg value).flatten ++
    ((Bytes.chunks chunk payload).map
      (writeFrame (Register.writeFlag ||| Register.bulkWrite))).flatten ++
    writeRegisterFrame Register.cmd Command.writeStart.code

end LineBridge.Spi

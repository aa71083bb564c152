import LineBridge.Device.LineStore
import LineBridge.Link

/-! A bridge simulated down to its registers: two FIFOs, line memory, and the three commands.
A start command leaves its status register busy for `latency` reads, and the byte count then
hidden for as many; `stuck` and `skew` are faults to test a host against. -/

namespace LineBridge

/-- A write of whole lines as it was applied. -/
structure LineWrite where
  addr : Addr
  data : Bytes
deriving DecidableEq, Repr

/-- A command with the address and line count that stood in the registers. -/
structure CommandEntry where
  command : Command
  addr : Addr
  lines : Nat
deriving DecidableEq, Repr

/-- The state of a bridge. Logs hold their newest entry first. -/
structure Device where
  registers : Vector UInt8 16 := Vector.replicate 16 0
  memory : LineStore := {}
  readFifo : Bytes := []
  writeFifo : Array UInt8 := #[]
  /-- Reads for which a started command looks unfinished. -/
  latency : Nat := 0
  statusWait : Nat := 0
  writeStatusWait : Nat := 0
  countWait : Nat := 0
  /-- The last read of the low count was withheld, so the high count is too. -/
  countHidden : Bool := false
  /-- Added to the byte count that is reported. -/
  skew : Int := 0
  /-- Both status registers read busy for ever. -/
  stuck : Bool := false
  writes : List LineWrite := []
  commands : List CommandEntry := []
  idleCycles : Nat := 0

instance : Inhabited Device := ⟨{}⟩

namespace Device

/-- What a register holds, apart from what reading it would show or do. -/
def register (d : Device) (reg : UInt8) : UInt8 := (d.registers[reg.toNat]?).getD 0

def setRegister (d : Device) (reg value : UInt8) : Device :=
  { d with registers := d.registers.setIfInBounds reg.toNat value }

/-- The address registers together. -/
def address (d : Device) : Addr :=
  ⟨UInt32.ofNat (Bytes.ofLittleEndian (Register.address.map d.register))⟩

/-- The line count that the length registers mean. -/
def lines (d : Device) : Nat :=
  (joinBytes (d.register Register.lenLo) (d.register Register.lenHi)).toNat + 1

def setStatus (d : Device) (reg : UInt8) (status : Status) : Device :=
  d.setRegister reg status.code

/-- Reads for which a status register still looks busy. -/
def wait (d : Device) (reg : UInt8) : Nat :=
  if reg = Register.status then d.statusWait else d.writeStatusWait

def setWait (d : Device) (reg : UInt8) (reads : Nat) : Device :=
  if reg = Register.status then { d with statusWait := reads }
  else { d with writeStatusWait := reads }

/-- Finishes a command, visibly only after `latency` reads. -/
def complete (d : Device) (reg : UInt8) : Device :=
  (d.setStatus reg (if d.latency = 0 then .done else .busy)).setWait reg d.latency

/-- Back to idle; whatever is buffered is dropped. -/
def clear (d : Device) : Device :=
  { (d.setStatus Register.status .idle).setStatus Register.writeStatus .idle with
    readFifo := []
    writeFifo := #[]
    statusWait := 0
    writeStatusWait := 0
    countWait := 0 }

/-- Fills the read FIFO from memory, or refuses. -/
def startRead (d : Device) : Device :=
  let bytes := d.lines * lineBytes
  if d.address.IsLineAligned ∧ bytes ≤ maxBulkBytes then
    complete { d with
      readFifo := d.memory.peek d.address bytes
      countWait := d.latency } Register.status
  else d.setStatus Register.status .error

/-- Moves the write FIFO into memory if it holds exactly the announced lines, or refuses and
drops it. -/
def startWrite (d : Device) : Device :=
  if d.address.IsLineAligned ∧ d.writeFifo.size = d.lines * lineBytes then
    let data := d.writeFifo.toList
    complete { d with
      writeFifo := #[]
      memory := d.memory.poke d.address data
      writes := ⟨d.address, data⟩ :: d.writes } Register.writeStatus
  else { d with writeFifo := #[] }.setStatus Register.writeStatus .error

/-- Does what a code written to the command register asks. Only known commands are logged. -/
def execute (d : Device) (raw : UInt8) : Device :=
  match Command.ofCode? raw with
  | none => d.setStatus Register.status .error
  | some command =>
    let d := { d with commands := ⟨command, d.address, d.lines⟩ :: d.commands }
    match command with
    | .null => d.clear
    | .readStart => d.startRead
    | .writeStart => d.startWrite

/-- Reading a busy status brings it one read closer to done. -/
def readStatus (d : Device) (reg : UInt8) : UInt8 × Device :=
  if d.stuck then (Status.busy.code, d)
  else match d.wait reg with
    | 0 => (d.register reg, d)
    | 1 => (Status.busy.code, (d.setWait reg 0).setStatus reg .done)
    | reads + 2 => (Status.busy.code, d.setWait reg (reads + 1))

/-- The byte count of a finished read, skewed and held within 16 bits; zero before that. -/
def reportedCount (d : Device) : UInt16 :=
  if d.register Register.status = Status.done.code ∧ d.statusWait = 0 then
    UInt16.ofNat (min ((d.readFifo.length : Int) + d.skew).toNat 65535)
  else 0

def readCountLo (d : Device) : UInt8 × Device :=
  if 0 < d.countWait ∧ d.reportedCount ≠ 0 then
    (0, { d with countWait := d.countWait - 1, countHidden := true })
  else (lowByte d.reportedCount, { d with countHidden := false })

def readCountHi (d : Device) : UInt8 :=
  if d.countHidden then 0 else highByte d.reportedCount

end Device

end LineBridge

import LineBridge.Address

/-! The register map of the bridge: sixteen byte registers, the command codes that the
command register takes, and the states that the two status registers report. -/

namespace LineBridge

namespace Register

def addr0 : UInt8 := 0x0
def addr1 : UInt8 := 0x1
def addr2 : UInt8 := 0x2
def addr3 : UInt8 := 0x3
def lenLo : UInt8 := 0x4
def lenHi : UInt8 := 0x5
def cmd : UInt8 := 0x6
def status : UInt8 := 0x7
def writeStatus : UInt8 := 0x8
def countLo : UInt8 := 0x9
def countHi : UInt8 := 0xA
def bulkLenLo : UInt8 := 0xB
def bulkLenHi : UInt8 := 0xC
def bulkWrite : UInt8 := 0xD
def bulkRead : UInt8 := 0xE
def scratch : UInt8 := 0xF

/-- Registers in the file. -/
def count : Nat := 16

/-- Marks a write in the first byte of an SPI access. -/
def writeFlag : UInt8 := 0x80

/-- The address registers, least significant byte first. -/
def address : List UInt8 := [addr0, addr1, addr2, addr3]

/-- The name that diagnostics use. A pair is named after its low half. -/
def name (reg : UInt8) : String :=
  match reg.toNat with
  | 0x0 => "ADDR0"
  | 0x1 => "ADDR1"
  | 0x2 => "ADDR2"
  | 0x3 => "ADDR3"
  | 0x4 => "LEN_LO"
  | 0x5 => "LEN_HI"
  | 0x6 => "CMD"
  | 0x7 => "STATUS"
  | 0x8 => "WRITE_STATUS"
  | 0x9 => "RD_COUNT"
  | 0xA => "RD_COUNT_HI"
  | 0xB => "BULK_LEN"
  | 0xC => "BULK_LEN_HI"
  | 0xD => "BULK_WRITE_PORT"
  | 0xE => "BULK_READ_PORT"
  | 0xF => "SCRATCH"
  | _ => "UNKNOWN"

end Register

/-- What the command register can be told. -/
inductive Command where
  | null
  | readStart
  | writeStart
deriving DecidableEq, Repr

namespace Command

def code : Command → UInt8
  | null => 0
  | readStart => 1
  | writeStart => 2

def ofCode? (raw : UInt8) : Option Command :=
  if raw = 0 then some null else if raw = 1 then some readStart
  else if raw = 2 then some writeStart else none

def text : Command → String
  | null => "NULL"
  | readStart => "READ_START"
  | writeStart => "WRITE_START"

theorem ofCode?_eq_some_iff {raw : UInt8} {c : Command} :
    ofCode? raw = some c ↔ raw = c.code := by
  cases c <;> grind [ofCode?, code]

end Command

/-- What a status register can report. -/
inductive Status where
  | idle
  | busy
  | done
  | error
deriving DecidableEq, Repr

namespace Status

def code : Status → UInt8
  | idle => 0
  | busy => 1
  | done => 2
  | error => 3

def ofCode? (raw : UInt8) : Option Status :=
  if raw = 0 then some idle else if raw = 1 then some busy
  else if raw = 2 then some done else if raw = 3 then some error else none

theorem ofCode?_eq_some_iff {raw : UInt8} {s : Status} :
    ofCode? raw = some s ↔ raw = s.code := by
  cases s <;> grind [ofCode?, code]

end Status

/-- The length register holds the line count less one. -/
def lineField (lines : Nat) : Option UInt16 :=
  if lines = 0 ∨ maxLineField < lines then none else some (UInt16.ofNat (lines - 1))

end LineBridge

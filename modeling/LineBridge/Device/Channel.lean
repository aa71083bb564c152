import LineBridge.Device.State

/-! The simulated bridge as a link: what each access shows and does. -/

namespace LineBridge.Device

/-- Registers outside the file do not answer. -/
def Answers (reg : UInt8) : Prop := reg.toNat < Register.count

instance (reg : UInt8) : Decidable (Answers reg) := inferInstanceAs (Decidable (_ < _))

/-- The status and count registers ignore writes; the bulk and command registers act on them. -/
def afterWrite (d : Device) (reg value : UInt8) : Device :=
  if reg = Register.status ∨ reg = Register.writeStatus ∨ reg = Register.countLo ∨
      reg = Register.countHi then d
  else if reg = Register.bulkWrite then { d with writeFifo := d.writeFifo.push value }
  else if reg = Register.cmd then (d.setRegister reg value).execute value
  else d.setRegister reg value

/-- What a register shows, and the state that reading it leaves. -/
def afterRead (d : Device) (reg : UInt8) : UInt8 × Device :=
  if reg = Register.status ∨ reg = Register.writeStatus then d.readStatus reg
  else if reg = Register.countLo then d.readCountLo
  else if reg = Register.countHi then (d.readCountHi, d)
  else if reg = Register.bulkRead then
    (d.readFifo.headD 0, { d with readFifo := d.readFifo.tail })
  else (d.register reg, d)

def writeRegister (reg value : UInt8) : Action Device Unit :=
  if Answers reg then Action.modify (·.afterWrite reg value)
  else Action.fail (.link (.noRegister reg))

def readRegister (reg : UInt8) : Action Device UInt8 :=
  if Answers reg then Action.modifyGet (·.afterRead reg)
  else Action.fail (.link (.noRegister reg))

def writeBulk (data : Bytes) : Action Device Unit :=
  Action.modify fun d => { d with writeFifo := d.writeFifo ++ data }

/-- Asking for more than is buffered takes nothing. -/
def readBulk (count : Nat) : Action Device Bytes := fun d =>
  let taken := d.readFifo.take count
  if taken.length < count then
    (.error (.link (.underrun count d.readFifo.length)), d)
  else (.ok taken, { d with readFifo := d.readFifo.drop count })

def idleClock (cycles : UInt32) : Action Device Unit :=
  Action.modify fun d => { d with idleCycles := d.idleCycles + cycles.toNat }

/-- Access to a simulated bridge in the same process. -/
def channel : Channel Device where
  name := "model"
  clock := .still
  writeRegister := writeRegister
  readRegister := readRegister
  writeBulk := writeBulk
  readBulk := readBulk
  idleClock := idleClock

def link : Link Device := channel.link

end LineBridge.Device

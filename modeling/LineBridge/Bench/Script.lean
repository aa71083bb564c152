import LineBridge.Link

/-! A channel that answers from a script: reads and bulk deliveries are taken from lists, in
order, and writes are accepted. -/

namespace LineBridge.Bench

/-- The answers that are left. -/
structure Script where
  reads : List UInt8 := []
  /-- Delivered whole, whatever length is asked for. -/
  bulk : List Bytes := []

namespace Script

def readRegister : Action Script UInt8 := fun s =>
  match s.reads with
  | [] => (.error (.link .scriptExhausted), s)
  | value :: rest => (.ok value, { s with reads := rest })

def readBulk : Action Script Bytes := fun s =>
  match s.bulk with
  | [] => (.error (.link .scriptExhausted), s)
  | data :: rest => (.ok data, { s with bulk := rest })

def channel : Channel Script where
  name := "script"
  clock := .still
  writeRegister _ _ := pure ()
  readRegister _ := readRegister
  writeBulk _ := pure ()
  readBulk _ := readBulk
  idleClock _ := pure ()

end Script

end LineBridge.Bench

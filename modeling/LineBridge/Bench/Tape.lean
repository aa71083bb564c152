import LineBridge.Bench.Meter
import LineBridge.ByteStream

/-! A stream that plays back prepared bytes and records what is sent. It can serve reads in
small pieces, and it can fail at a chosen read or write. -/

namespace LineBridge.Bench

structure Tape where
  /-- What is still to be read. -/
  incoming : Bytes := []
  /-- The most that one read takes. -/
  readLimit : Option Nat := none
  /-- The read that fails, counted from zero. -/
  failRead : Option Nat := none
  /-- The write that fails, counted from zero. -/
  failWrite : Option Nat := none
  reads : Nat := 0
  writes : Nat := 0
  meter : Meter := {}

namespace Tape

/-- A write that fails records nothing. -/
def write (bytes : Bytes) : Action Tape Unit := fun t =>
  let counted := { t with writes := t.writes + 1 }
  if t.failWrite = some t.writes then (.error (.link .down), counted)
  else (.ok (), { counted with meter := t.meter.addSent bytes })

def flush : Action Tape Unit := Action.modify fun t => { t with meter := t.meter.addFlush }

/-- A read that fails consumes nothing. -/
def read (count : Nat) : Action Tape Bytes := fun t =>
  let counted := { t with reads := t.reads + 1 }
  if t.failRead = some t.reads then (.error (.link .down), counted)
  else
    let size := match t.readLimit with
      | none => count
      | some limit => min count limit
    let bytes := t.incoming.take size
    (.ok bytes, { counted with
      incoming := t.incoming.drop size
      meter := t.meter.addTaken bytes })

def stream : ByteStream Tape where
  write := write
  flush := flush
  read := read

end Tape

end LineBridge.Bench

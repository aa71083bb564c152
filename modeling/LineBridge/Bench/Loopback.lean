import LineBridge.Bench.Meter
import LineBridge.Device.Channel
import LineBridge.Remote.Server

/-! A stream whose far end is a simulated bridge in the same process. What has been sent is
served at each flush, and the replies become readable. A service that breaks off closes the
far end: later bytes go nowhere, and reads end when the replies are used up. -/

namespace LineBridge.Bench

structure Loopback where
  device : Device
  /-- Sent since the last flush, the newest first. -/
  pending : List Bytes := []
  /-- Replies still to be read. -/
  incoming : Bytes := []
  /-- Why the service broke off. -/
  closed : Option Fault := none
  /-- Commands answered. -/
  answered : Nat := 0
  meter : Meter := {}

namespace Loopback

def write (bytes : Bytes) : Action Loopback Unit := Action.modify fun l =>
  { l with pending := bytes :: l.pending, meter := l.meter.addSent bytes }

/-- Serves what is pending, unless the far end is closed. -/
def deliver (l : Loopback) : Loopback :=
  match l.closed with
  | some _ => { l with pending := [] }
  | none =>
    let service := Remote.serve Device.channel l.pending.reverse.flatten l.device
    let l := { l with
      pending := []
      device := service.bridge
      incoming := l.incoming ++ service.output }
    match service.ending with
    | .ok count => { l with answered := l.answered + count }
    | .error fault => { l with closed := some fault }

def flush : Action Loopback Unit :=
  Action.modify fun l => { l.deliver with meter := l.meter.addFlush }

def read (count : Nat) : Action Loopback Bytes := Action.modifyGet fun l =>
  let bytes := l.incoming.take count
  (bytes, { l with incoming := l.incoming.drop count, meter := l.meter.addTaken bytes })

def stream : ByteStream Loopback where
  write := write
  flush := flush
  read := read

end Loopback

end LineBridge.Bench

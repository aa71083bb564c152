import LineBridge.Host.Event
import LineBridge.Text.Elapsed

/-! Accounts of a host's transfers, kept from its events: bytes, batches and lines by
direction, acknowledged transactions, and the time spent in each phase. -/

namespace LineBridge

/-- Running totals; the counters are 64 bits wide and times are in nanoseconds. -/
structure Ledger where
  bytesRead : UInt64 := 0
  bytesWritten : UInt64 := 0
  readBatches : UInt64 := 0
  writeBatches : UInt64 := 0
  partialLines : UInt64 := 0
  linesMoved : UInt64 := 0
  transactions : UInt64 := 0
  prepTime : Nat := 0
  writeTime : Nat := 0
  readTime : Nat := 0
  ackTime : Nat := 0
deriving DecidableEq, Repr

namespace Ledger

/-- Acknowledging ends a transaction. -/
def recordPhase (l : Ledger) (phase : Phase) (elapsed : Nat) : Ledger :=
  match phase with
  | .prep => { l with prepTime := l.prepTime + elapsed }
  | .write => { l with writeTime := l.writeTime + elapsed }
  | .read => { l with readTime := l.readTime + elapsed }
  | .ack => { l with ackTime := l.ackTime + elapsed, transactions := l.transactions + 1 }

def recordBatch (l : Ledger) (b : Batch) : Ledger :=
  let l := match b.direction with
    | .read => { l with
        bytesRead := l.bytesRead + UInt64.ofNat b.bytes
        readBatches := l.readBatches + 1 }
    | .write => { l with
        bytesWritten := l.bytesWritten + UInt64.ofNat b.bytes
        writeBatches := l.writeBatches + 1 }
  { l with
    partialLines := l.partialLines + if b.kind = .partialLine then 1 else 0
    linesMoved := l.linesMoved + UInt64.ofNat b.lines }

def record (l : Ledger) : Event → Ledger
  | .phase phase elapsed => l.recordPhase phase elapsed
  | .batch b => l.recordBatch b

/-- The totals over events in the order in which they came. -/
def ofEvents (events : List Event) : Ledger := events.foldl record {}

def totalBytes (l : Ledger) : UInt64 := l.bytesRead + l.bytesWritten

def busyTime (l : Ledger) : Nat := l.prepTime + l.writeTime + l.readTime + l.ackTime

/-- Bytes per second; zero if no time has passed. -/
def rate (bytes : UInt64) (elapsed : Nat) : Float :=
  let seconds := Elapsed.seconds elapsed
  if 0.0 < seconds then bytes.toFloat / seconds else 0.0

def throughput (l : Ledger) : Float := rate l.totalBytes l.busyTime

end Ledger

/-- The batches among events, in order. -/
def batchesOf (events : List Event) : List Batch :=
  events.filterMap fun
    | .batch b => some b
    | .phase .. => none

/-- The callers' bytes in a list of batches, in a 64-bit word. -/
def batchedBytes (batches : List Batch) : UInt64 :=
  batches.foldl (fun sum b => sum + UInt64.ofNat b.bytes) 0

end LineBridge

import LineBridge.Bytes

/-! What has passed over a stream. -/

namespace LineBridge.Bench

/-- Bytes sent and taken, in pieces with the newest first, and the number of flushes. -/
structure Meter where
  sent : List Bytes := []
  taken : List Bytes := []
  flushes : Nat := 0

namespace Meter

def addSent (m : Meter) (bytes : Bytes) : Meter := { m with sent := bytes :: m.sent }

def addTaken (m : Meter) (bytes : Bytes) : Meter := { m with taken := bytes :: m.taken }

def addFlush (m : Meter) : Meter := { m with flushes := m.flushes + 1 }

def sentBytes (m : Meter) : Bytes := m.sent.reverse.flatten

def takenBytes (m : Meter) : Bytes := m.taken.reverse.flatten

end Meter

end LineBridge.Bench

import LineBridge.Link

/-! A channel under test. Every access is noted, and one of them, chosen by its number, fails
before it reaches what lies behind. -/

namespace LineBridge.Bench

/-- An access with what it answered; `none` stands for a fault behind the probe. -/
inductive Access where
  | write (reg value : UInt8)
  | read (reg : UInt8) (value : Option UInt8)
  | writeBulk (data : Bytes)
  | readBulk (count : Nat) (data : Option Bytes)
  | idle (cycles : UInt32)
  /-- An access that the probe cut off. -/
  | cut
deriving DecidableEq, Repr

/-- The state behind a probe, and what the probe knows. -/
structure Probed (σ : Type) where
  inner : σ
  /-- The access to cut off, counted from zero. -/
  cutAt : Option Nat := none
  accesses : Nat := 0
  /-- Newest first. -/
  trace : List Access := []

namespace Probed

variable {σ α : Type}

/-- Lets an access through, or cuts it off, and notes it. -/
def through (x : Action σ α) (note : Option α → Access) : Action (Probed σ) α := fun p =>
  let counted := { p with accesses := p.accesses + 1 }
  if p.cutAt = some p.accesses then
    (.error (.link .injected), { counted with trace := .cut :: p.trace })
  else
    let (outcome, s) := x.run p.inner
    (outcome, { counted with inner := s, trace := note outcome.toOption :: p.trace })

/-- A channel seen through a probe. -/
def channel (inner : Channel σ) : Channel (Probed σ) where
  name := inner.name
  clock := {
    now := fun p => inner.clock.now p.inner
    pause := fun d p => { p with inner := inner.clock.pause d p.inner } }
  writeRegister reg value := through (inner.writeRegister reg value) fun _ => .write reg value
  readRegister reg := through (inner.readRegister reg) (.read reg)
  writeBulk data := through (inner.writeBulk data) fun _ => .writeBulk data
  readBulk count := through (inner.readBulk count) (.readBulk count)
  idleClock cycles := through (inner.idleClock cycles) fun _ => .idle cycles

end Probed

end LineBridge.Bench

import LineBridge.Remote.Server

/-! A stream whose far end is served from all that has ever been sent to it. Nothing is dropped: a
command of which only a part has arrived waits for the rest of it. -/

namespace LineBridge.Bench

structure Pipe (τ : Type) where
  /-- The bridge behind the stream, before anything was sent. -/
  first : τ
  /-- All that was sent. -/
  sent : Bytes := []
  /-- How much has been read of what came back. -/
  taken : Nat := 0
  /-- The time spent in pauses. -/
  paused : Nat := 0

namespace Pipe

variable {τ : Type} (channel : Channel τ)

/-- What the service makes of all that it was sent. -/
def service (p : Pipe τ) : Remote.Service τ := Remote.serve channel p.sent p.first

/-- What came back and has not been read. -/
def incoming (p : Pipe τ) : Bytes := (p.service channel).output.drop p.taken

def write (bytes : Bytes) : Action (Pipe τ) Unit :=
  Action.modify fun p => { p with sent := p.sent ++ bytes }

/-- A read that would have to wait for ever finds the end of the stream. -/
def read (count : Nat) : Action (Pipe τ) Bytes := Action.modifyGet fun p =>
  let bytes := (p.incoming channel).take count
  (bytes, { p with taken := p.taken + bytes.length })

def stream : ByteStream (Pipe τ) where
  write := write
  flush := pure ()
  read := read channel

/-- Each byte takes a nanosecond on its way. -/
def clock : Clock (Pipe τ) where
  now p := p.sent.length + p.taken + p.paused
  pause length p := { p with paused := p.paused + length }

end Pipe

end LineBridge.Bench

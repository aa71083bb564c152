import LineBridge.Action

/-! Byte streams in both directions, such as a socket or an adapter on a serial bus. -/

namespace LineBridge

/-- A stream with states `σ`. -/
structure ByteStream (σ : Type) where
  /-- Sends all the given bytes. -/
  write : Bytes → Action σ Unit
  flush : Action σ Unit
  /-- Takes at least one byte and at most the given number, or none at the end of the stream. -/
  read : Nat → Action σ Bytes

namespace ByteStream

variable {σ : Type} (stream : ByteStream σ)

/-- Sends bytes at once. Sending nothing does not use the stream. -/
def send (bytes : Bytes) : Action σ Unit := do
  if bytes.isEmpty then pure () else stream.write bytes
  stream.flush

/-- Reads on until `count` bytes are there, `got` among them, or the stream has ended. -/
def collectFrom (count : Nat) (got : Array UInt8) : Action σ Bytes :=
  if got.size < count then do
    let more ← stream.read (count - got.size)
    if more.length = 0 then pure got.toList
    else collectFrom count (got ++ more)
  else pure got.toList
termination_by count - got.size
decreasing_by
  have grown : (got ++ more).size = got.size + more.length := by
    rw [← Array.length_toList, Array.toList_appendList, List.length_append, Array.length_toList]
  omega

/-- The next `count` bytes, or all that are left if the stream ends before that. -/
def collect (count : Nat) : Action σ Bytes := collectFrom stream count #[]

/-- The next `count` bytes. -/
def receive (count : Nat) : Action σ Bytes := do
  let got ← stream.collect count
  if got.length < count then Action.fail (.link .endOfStream) else pure got

end ByteStream

end LineBridge

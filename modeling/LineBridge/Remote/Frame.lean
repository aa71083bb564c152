import LineBridge.ByteStream

/-! Frames between a host and a bridge that is served over a byte stream. A command is a
17-byte header, followed by its payload for the streaming writes; a reply is a 9-byte header,
followed by the bytes that were asked for. All words are little endian. -/

namespace LineBridge.Remote

def commandBytes : Nat := 17

def replyBytes : Nat := 9

/-- A command. What the fields mean depends on the operation: `addr` is a register or a bus
address, `data` a value or a length field, `count` a number of bytes or of polls. -/
structure CommandHeader where
  op : Operation
  addr : UInt32
  data : UInt64
  count : UInt32
deriving DecidableEq, Repr

structure ReplyHeader where
  data : UInt64
  success : Bool
deriving DecidableEq, Repr

namespace CommandHeader

def encode (h : CommandHeader) : Bytes :=
  h.op.code :: (Bytes.littleEndian 4 h.addr.toNat ++ Bytes.littleEndian 8 h.data.toNat ++
    Bytes.littleEndian 4 h.count.toNat)

/-- Reads a header from 17 bytes; only the operation can be wrong. -/
def decode (bytes : Bytes) : Except LinkFault CommandHeader :=
  let code := bytes.headD 0
  match Operation.ofCode? code with
  | none => .error (.unknownOperation code)
  | some op => .ok {
      op
      addr := UInt32.ofNat (Bytes.ofLittleEndian ((bytes.drop 1).take 4))
      data := UInt64.ofNat (Bytes.ofLittleEndian ((bytes.drop 5).take 8))
      count := UInt32.ofNat (Bytes.ofLittleEndian ((bytes.drop 13).take 4)) }

@[simp] theorem length_encode (h : CommandHeader) : h.encode.length = commandBytes := by
  simp [encode, commandBytes]

end CommandHeader

namespace ReplyHeader

def ok (data : UInt64) : ReplyHeader := ⟨data, true⟩

def failed (data : UInt64) : ReplyHeader := ⟨data, false⟩

def encode (h : ReplyHeader) : Bytes :=
  Bytes.littleEndian 8 h.data.toNat ++ [if h.success then 1 else 0]

/-- Reads a header from 9 bytes; every byte but zero means success. -/
def decode (bytes : Bytes) : ReplyHeader where
  data := UInt64.ofNat (Bytes.ofLittleEndian (bytes.take 8))
  success := (bytes.drop 8).headD 0 != 0

@[simp] theorem length_encode (h : ReplyHeader) : h.encode.length = replyBytes := by
  simp [encode, replyBytes]

end ReplyHeader

variable {σ : Type} (stream : ByteStream σ)

def sendCommand (header : CommandHeader) (payload : Bytes) : Action σ Unit :=
  stream.send (header.encode ++ payload)

def sendReply (header : ReplyHeader) (payload : Bytes) : Action σ Unit :=
  stream.send (header.encode ++ payload)

/-- The next command. A stream that ends before a whole header has no further command. -/
def nextCommand : Action σ (Option CommandHeader) := do
  let got ← stream.collect commandBytes
  if got.length < commandBytes then pure none
  else match CommandHeader.decode got with
    | .ok header => pure (some header)
    | .error cause => Action.fail (.link cause)

def nextReply : Action σ ReplyHeader := do
  let got ← stream.receive replyBytes
  pure (ReplyHeader.decode got)

end LineBridge.Remote

import LineBridge.Link
import LineBridge.Remote.Frame

/-! The bridge's side of a stream: commands are answered one by one, in order, each before the
next is looked at. What the bridge refuses is answered by a failed reply; only input that
cannot be cut into commands ends the service with a fault. The bridge is reached through a
channel, whose clock times the waits that are left to it. -/

namespace LineBridge.Remote

variable {τ : Type}

/-- An answer: a header, and the bytes that follow it. -/
structure Reply where
  header : ReplyHeader
  payload : Bytes := []

namespace Reply

def encode (r : Reply) : Bytes := r.header.encode ++ r.payload

end Reply

/-- Answers with the value of an access, or with a failure. -/
def answer (access : Action τ UInt64) (t : τ) : Reply × τ :=
  match access.run t with
  | (.ok data, t') => (⟨.ok data, []⟩, t')
  | (.error _, t') => (⟨.failed 0, []⟩, t')

/-- Answers an access to a register, whose number must fit a byte. -/
def answerAt (addr : UInt32) (access : UInt8 → Action τ UInt64) (t : τ) : Reply × τ :=
  if addr < 256 then answer (access addr.toUInt8) t else (⟨.failed 0, []⟩, t)

/-- The outcome of a wait in one word: the value in the low half, the reads in the high. -/
def outcomeWord (outcome : PollOutcome UInt8) : UInt64 :=
  outcome.value.toUInt64 ||| (UInt64.ofNat outcome.attempts <<< 32)

variable (channel : Channel τ)

/-- The limits of a wait that a command leaves to the bridge: its reads, and a minute for them. -/
def CommandHeader.limits (h : CommandHeader) : PollLimits := .immediate (max h.count 1)

/-- A wait that runs out is answered by a failure that carries its outcome. -/
def answerPoll (reg : UInt8) (h : CommandHeader) (t : τ) : Reply × τ :=
  match (channel.link.pollRegister reg h.data.toUInt8 h.limits).run t with
  | (.ok outcome, t') => (⟨⟨outcomeWord outcome, outcome.isReady⟩, []⟩, t')
  | (.error _, t') => (⟨.failed 0, []⟩, t')

/-- What a command does to the bridge, and its answer. -/
def perform (h : CommandHeader) (payload : Bytes) (t : τ) : Reply × τ :=
  let link := channel.link
  match h.op with
  | .writeRegister => answerAt h.addr
      (fun reg => do link.writeRegister reg h.data.toUInt8; pure 0) t
  | .readRegister => answerAt h.addr
      (fun reg => do let v ← link.readRegister reg; pure v.toUInt64) t
  | .readPair => answerAt h.addr
      (fun reg => do let v ← link.readPair reg; pure v.toUInt64) t
  | .writePair => answerAt h.addr
      (fun reg => do link.writePair reg h.data.toUInt16; pure 0) t
  | .pollRegister =>
    if h.addr < 256 then answerPoll channel h.addr.toUInt8 h t else (⟨.failed 0, []⟩, t)
  | .idleClock => answer (do link.idleClock h.data.toUInt32; pure 0) t
  | .bulkWrite => answer (do link.writeBulk payload; pure 0) t
  | .packedWrite => answer
      (do link.packedWrite ⟨h.addr⟩ h.data.toUInt16 payload; pure 0) t
  | .bulkRead =>
    match (link.readBulk h.count.toNat).run t with
    | (.ok data, t') => (⟨.ok (UInt64.ofNat data.length), data⟩, t')
    | (.error _, t') => (⟨.failed 0, []⟩, t')

/-- Bytes that follow the header of a command. -/
def payloadBytes (h : CommandHeader) : Nat :=
  if h.op.carriesPayload then h.count.toNat else 0

/-- A service that has ended: how many commands were answered, or why it broke off, what was
sent, and what became of the bridge. -/
structure Service (τ : Type) where
  ending : Except Fault Nat
  output : Bytes
  bridge : τ

/-- Serves what is left of the input; `replies` holds the answers so far, the newest first. -/
def serveFrom (input : Bytes) (t : τ) (answered : Nat) (replies : List Bytes) : Service τ :=
  if input.length < commandBytes then ⟨.ok answered, replies.reverse.flatten, t⟩
  else match CommandHeader.decode (input.take commandBytes) with
    | .error cause => ⟨.error (.link cause), replies.reverse.flatten, t⟩
    | .ok header =>
      let rest := input.drop commandBytes
      if maxBulkBytes < payloadBytes header then
        ⟨.error (.tooLarge header.count.toNat maxBulkBytes),
          ((ReplyHeader.failed 0).encode :: replies).reverse.flatten, t⟩
      else if rest.length < payloadBytes header then
        ⟨.error (.link .endOfStream), replies.reverse.flatten, t⟩
      else
        let (reply, t') := perform channel header (rest.take (payloadBytes header)) t
        serveFrom (rest.drop (payloadBytes header)) t' (answered + 1) (reply.encode :: replies)
termination_by input.length
decreasing_by
  have := ‹¬input.length < commandBytes›
  simp only [List.length_drop, commandBytes] at this ⊢
  omega

/-- Serves a client that has sent the given bytes and nothing after them. -/
def serve (input : Bytes) (t : τ) : Service τ := serveFrom channel input t 0 []

/-- Serves clients one after another; a client that breaks off leaves the bridge as it is. -/
def serveAll : List Bytes → τ → List Bytes × τ
  | [], t => ([], t)
  | input :: later, t =>
    let service := serve channel input t
    let (outputs, last) := serveAll later service.bridge
    (service.output :: outputs, last)

end LineBridge.Remote

import Mathlib
import LineBridge.Proofs.Codec
import LineBridge.Proofs.SelfDelimiting

/-! Whole commands. A frame is a header with just the payload that it announces; what a service
makes of a row of frames is what the commands do one after another, with one answer each, and then
what it makes of the rest. -/

namespace LineBridge.Remote

variable {τ : Type} (channel : Channel τ)

/-- A bulk length fits the field of a command. -/
theorem toNat_count {len : Nat} (fits : len ≤ maxBulkBytes) : (UInt32.ofNat len).toNat = len :=
  UInt32.toNat_ofNat_of_lt' (Nat.lt_of_le_of_lt fits (by decide))

/-- A whole command on the wire. -/
structure Frame where
  header : CommandHeader
  payload : Bytes
  announced : payload.length = payloadBytes header
  bounded : payloadBytes header ≤ maxBulkBytes

namespace Frame

def bytes (f : Frame) : Bytes := f.header.encode ++ f.payload

/-- Headers are of one size, and each says where its command ends. -/
theorem selfDelimiting : SelfDelimiting (fun _ => True) bytes where
  nonempty f _ := List.cons_ne_nil _ _
  inj := by
    intro f g a b _ _ same
    simp only [bytes, List.append_assoc] at same
    have headers : f.header = g.header := by
      have decoded := congrArg CommandHeader.decode same
      rw [CommandHeader.decode_encode, CommandHeader.decode_encode] at decoded
      exact Except.ok.inj decoded
    rw [headers] at same
    have behind := List.append_cancel_left same
    have size : f.payload.length = g.payload.length := by
      rw [f.announced, g.announced, headers]
    obtain ⟨payloads, tails⟩ := List.append_inj behind size
    refine ⟨?_, tails⟩
    cases f
    cases g
    cases headers
    cases payloads
    rfl

/-- A command that is all header. -/
def bare (h : CommandHeader) (plain : h.op.carriesPayload = false) : Frame where
  header := h
  payload := []
  announced := by rw [payloadBytes, plain]; rfl
  bounded := by rw [payloadBytes, plain]; exact Nat.zero_le _

/-- A command that announces its payload. -/
def carrying (op : Operation) (carries : op.carriesPayload = true) (addr : UInt32) (data : UInt64)
    (payload : Bytes) (fits : payload.length ≤ maxBulkBytes) : Frame where
  header := ⟨op, addr, data, UInt32.ofNat payload.length⟩
  payload := payload
  announced := by rw [payloadBytes, carries, if_pos rfl, toNat_count fits]
  bounded := by rw [payloadBytes, carries, if_pos rfl, toNat_count fits]; exact fits

end Frame

/-- Commands performed one after another, with their answers. -/
def performEach : List Frame → τ → List Reply × τ
  | [], t => ([], t)
  | f :: rest, t =>
    let (reply, t') := perform channel f.header f.payload t
    let (replies, last) := performEach rest t'
    (reply :: replies, last)

/-- One whole command is performed and answered, whatever comes behind it. -/
theorem serveFrom_frame (f : Frame) (behind : Bytes) (t : τ) (answered : Nat)
    (replies : List Bytes) :
    serveFrom channel (f.bytes ++ behind) t answered replies =
      serveFrom channel behind (perform channel f.header f.payload t).2 (answered + 1)
        ((perform channel f.header f.payload t).1.encode :: replies) := by
  have size := f.announced
  have input : f.bytes ++ behind = f.header.encode ++ (f.payload ++ behind) :=
    List.append_assoc ..
  have long : ¬(f.bytes ++ behind).length < commandBytes := by
    rw [input, List.length_append, CommandHeader.length_encode]
    omega
  have header : (f.bytes ++ behind).take commandBytes = f.header.encode :=
    input ▸ List.take_left' f.header.length_encode
  have rest : (f.bytes ++ behind).drop commandBytes = f.payload ++ behind :=
    input ▸ List.drop_left' f.header.length_encode
  have enough : ¬(f.payload ++ behind).length < payloadBytes f.header := by
    rw [List.length_append]
    omega
  rw [serveFrom, if_neg long, header, f.header.decode_encode_self]
  simp only [rest]
  rw [if_neg (Nat.not_lt.mpr f.bounded), if_neg enough, List.take_left' size,
    List.drop_left' size]

theorem serveFrom_frames (frames : List Frame) (t : τ) (answered : Nat) (replies : List Bytes) :
    serveFrom channel (frames.flatMap Frame.bytes) t answered replies =
      ⟨.ok (answered + frames.length),
        replies.reverse.flatten ++ ((performEach channel frames t).1.map Reply.encode).flatten,
        (performEach channel frames t).2⟩ := by
  induction frames generalizing t answered replies with
  | nil => simp [performEach, serveFrom_nil]
  | cons f rest ih =>
    rw [List.flatMap_cons, serveFrom_frame, ih]
    simp [performEach, Nat.add_comm, Nat.add_left_comm]

/-- A service that is sent whole commands performs them, and ends well. -/
theorem serve_frames (frames : List Frame) (t : τ) :
    serve channel (frames.flatMap Frame.bytes) t =
      ⟨.ok frames.length, ((performEach channel frames t).1.map Reply.encode).flatten,
        (performEach channel frames t).2⟩ := by
  rw [serve, serveFrom_frames, Nat.zero_add]
  rfl

theorem serve_frame (f : Frame) (t : τ) :
    serve channel f.bytes t = ⟨.ok 1, (perform channel f.header f.payload t).1.encode,
      (perform channel f.header f.payload t).2⟩ := by
  have alone := serve_frames channel [f] t
  rw [List.flatMap_singleton] at alone
  rw [alone]
  simp [performEach]

/-- What has been performed is not performed again. -/
theorem performEach_append (frames : List Frame) (f : Frame) (t : τ) :
    performEach channel (frames ++ [f]) t =
      let before := performEach channel frames t
      let last := perform channel f.header f.payload before.2
      (before.1 ++ [last.1], last.2) := by
  induction frames generalizing t with
  | nil => rfl
  | cons g rest ih => simp only [List.cons_append, performEach, ih]

end LineBridge.Remote

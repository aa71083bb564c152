import Mathlib
import LineBridge.Bench.Loopback
import LineBridge.Proofs.Deliveries
import LineBridge.Proofs.Frames
import LineBridge.Proofs.PlainLinks
import LineBridge.Remote.Link

/-! Commands over a stream without loss. Nothing is said about when the far end serves what it
is sent, or into how many pieces a read cuts the replies: `connected s t incoming` says that,
once all commands sent so far are served, the service stands in front of `t` and waits for the
next one, and that `incoming` is what is left to read. A bridge that fronts a device answers
every command as the device would, as long as the waits that are left to it are in time. -/

namespace LineBridge

open LineBridge.Action (Agree Ends Follows)

variable {σ τ α β : Type}

structure ByteStream.Lossless (stream : ByteStream σ) (peer : Channel τ)
    (connected : σ → τ → Bytes → Prop) : Prop where
  /-- A whole command that is sent is served. -/
  send : ∀ (f : Remote.Frame) t, Ends (connected · t []) (stream.send f.bytes)
    (fun _ s => connected s (Remote.serve peer f.bytes t).bridge
      (Remote.serve peer f.bytes t).output)
    (fun _ _ => False)
  /-- A read takes some of what is there, in order. -/
  read : ∀ count t incoming, 0 < count → incoming ≠ [] →
    Ends (connected · t incoming) (stream.read count)
      (fun got s => got ≠ [] ∧ got.length ≤ count ∧
        ∃ rest, incoming = got ++ rest ∧ connected s t rest)
      (fun _ _ => False)

/-- The device that is seen at the far end. -/
def Seen (view : τ → Device) (connected : σ → τ → Bytes → Prop) (s : σ) (d : Device)
    (incoming : Bytes) : Prop := ∃ t, connected s t incoming ∧ view t = d

/-- Nothing is left to read. -/
def Quiet (view : τ → Device) (connected : σ → τ → Bytes → Prop) (s : σ) (d : Device) : Prop :=
  Seen view connected s d []

namespace Bench.Loopback

/-- The far end has not closed, and has served all that it was sent. -/
structure Connected (l : Loopback) (d : Device) (incoming : Bytes) : Prop where
  device : l.device = d
  pending : l.pending = []
  incoming : l.incoming = incoming
  closed : l.closed = none

theorem lossless : stream.Lossless Device.channel Connected where
  send := by
    intro f d l connected
    obtain ⟨rfl, pending, incoming, closed⟩ := connected
    have sent : (stream.send f.bytes).run l =
        (.ok (), { ({ l with
          pending := f.bytes :: l.pending
          meter := l.meter.addSent f.bytes } : Loopback).deliver with
            meter := (l.meter.addSent f.bytes).addFlush }) := rfl
    have joined : [f.bytes].reverse.flatten = f.bytes := List.append_nil _
    have served := Remote.serve_frame Device.channel f l.device
    rw [sent, served]
    simp only [deliver, closed, pending, joined, served]
    exact ⟨rfl, rfl, by rw [incoming, List.nil_append], rfl⟩
  read := by
    intro count d incoming positive some l connected
    obtain ⟨same, pending, rfl, closed⟩ := connected
    refine ⟨?_, List.length_take_le .., l.incoming.drop count, ?_, ⟨same, pending, rfl, closed⟩⟩
    · intro none
      rcases List.take_eq_nil_iff.mp none with zero | empty
      · omega
      · exact some empty
    · exact (List.take_append_drop count l.incoming).symm

end Bench.Loopback

namespace Remote

variable {peer : Channel τ} {view : τ → Device}

section Answers

variable {x : Action τ UInt64} {y : Action Device UInt64}

/-- Answers to accesses in step. -/
theorem answer_alike (follows : Follows (view · = ·) x y) (t : τ) :
    (answer x t).1 = (answer y (view t)).1 ∧ view (answer x t).2 = (answer y (view t)).2 := by
  obtain ⟨outcome, t', d', ran, ran', after⟩ := follows t (view t) rfl
  rw [answer, ran, answer, ran']
  cases outcome with
  | ok data => exact ⟨rfl, after⟩
  | error e => exact ⟨rfl, after⟩

theorem answerAt_alike {x : UInt8 → Action τ UInt64} {y : UInt8 → Action Device UInt64}
    (follows : ∀ reg, Follows (view · = ·) (x reg) (y reg)) (addr : UInt32) (t : τ) :
    (answerAt addr x t).1 = (answerAt addr y (view t)).1 ∧
      view (answerAt addr x t).2 = (answerAt addr y (view t)).2 := by
  unfold answerAt
  split
  · exact answer_alike (follows _) t
  · exact ⟨rfl, rfl⟩

end Answers

variable (fronts : peer.Fronts view False)
include fronts

theorem answerPoll_alike {reg : UInt8} {h : CommandHeader}
    (punctual : Punctual peer.clock h.limits (peer.readRegister reg)) (t : τ) :
    (answerPoll peer reg h t).1 = (answerPoll Device.channel reg h (view t)).1 ∧
      view (answerPoll peer reg h t).2 = (answerPoll Device.channel reg h (view t)).2 := by
  have follows : Follows (view · = ·) (peer.link.pollRegister reg h.data.toUInt8 h.limits)
      (Device.channel.link.pollRegister reg h.data.toUInt8 h.limits) :=
    fronts.pollRegister_follows punctual (Nat.succ_pos _) rfl _
  obtain ⟨outcome, t', d', ran, ran', after⟩ := follows t (view t) rfl
  rw [answerPoll, ran, answerPoll, ran']
  cases outcome with
  | ok outcome => exact ⟨rfl, after⟩
  | error e => exact ⟨rfl, after⟩

/-- A bridge answers a command as the device that it fronts, and does the same to it. -/
theorem perform_alike {h : CommandHeader}
    (punctual : h.op = .pollRegister →
      Punctual peer.clock h.limits (peer.readRegister h.addr.toUInt8)) (payload : Bytes) (t : τ) :
    (perform peer h payload t).1 = (perform Device.channel h payload (view t)).1 ∧
      view (perform peer h payload t).2 = (perform Device.channel h payload (view t)).2 := by
  unfold perform
  cases op : h.op with
  | writeRegister =>
    exact answerAt_alike (fun reg => (fronts.writeRegister reg _).follows.bind fun _ => .pure 0) _ t
  | readRegister =>
    exact answerAt_alike (fun reg => (fronts.readRegister reg).follows.bind fun _ => .pure _) _ t
  | readPair =>
    exact answerAt_alike (fun reg => (fronts.readPair_follows reg).bind fun _ => .pure _) _ t
  | writePair =>
    exact answerAt_alike (fun reg => (fronts.writePair_follows reg _).bind fun _ => .pure 0) _ t
  | pollRegister =>
    dsimp only
    split
    · exact answerPoll_alike fronts (punctual op) t
    · exact ⟨rfl, rfl⟩
  | idleClock => exact answer_alike ((fronts.idleClock _).follows.bind fun _ => .pure 0) t
  | bulkWrite => exact answer_alike ((fronts.writeBulk _).follows.bind fun _ => .pure 0) t
  | packedWrite =>
    exact answer_alike ((fronts.packedWrite_follows _ _ _).bind fun _ => .pure 0) t
  | bulkRead =>
    obtain ⟨outcome, t', d', ran, ran', after⟩ :=
      (fronts.readBulk h.count.toNat).follows t (view t) rfl
    have ran : (peer.link.readBulk h.count.toNat).run t = (outcome, t') := ran
    have ran' : (Device.channel.link.readBulk h.count.toNat).run (view t) = (outcome, d') := ran'
    dsimp only
    rw [ran, ran']
    cases outcome with
    | ok data => exact ⟨rfl, after⟩
    | error e => exact ⟨rfl, after⟩

end Remote

namespace ByteStream.Lossless

variable {stream : ByteStream σ} {peer : Channel τ} {connected : σ → τ → Bytes → Prop}
  (lossless : stream.Lossless peer connected) {view : τ → Device}
include lossless

theorem delivers (t : τ) : stream.Delivers (connected · t ·) where
  read count := lossless.read count t

theorem receive_ends (d : Device) (bytes rest : Bytes) :
    Ends (Seen view connected · d (bytes ++ rest)) (stream.receive bytes.length)
      (fun got s => got = bytes ∧ Seen view connected s d rest) (fun _ _ => False) := by
  rintro s ⟨t, facing, rfl⟩
  refine ((lossless.delivers t).receive_ends bytes rest).onValue ?_ s facing
  rintro got s' ⟨same, after⟩
  exact ⟨same, t, after, rfl⟩

variable (fronts : peer.Fronts view False) {f : Remote.Frame}
include fronts

/-- A command is performed, and its reply read up to the bytes that were asked for. -/
theorem exchange_ends (punctual : f.header.op = .pollRegister →
      Punctual peer.clock f.header.limits (peer.readRegister f.header.addr.toUInt8))
    (d : Device) :
    Ends (Seen view connected · d []) (Remote.exchange stream f.header f.payload)
      (fun reply s => reply = (Remote.perform Device.channel f.header f.payload d).1.header ∧
        Seen view connected s (Remote.perform Device.channel f.header f.payload d).2
          (Remote.perform Device.channel f.header f.payload d).1.payload)
      (fun _ _ => False) := by
  rintro s ⟨t, facing, rfl⟩
  have sent := lossless.send f t
  rw [Remote.serve_frame] at sent
  have exchanged := sent.bind fun _ => (lossless.delivers _).nextReply_ends _ _
  refine exchanged.onValue ?_ s facing
  rintro reply s' ⟨rfl, after⟩
  obtain ⟨same, seen⟩ := Remote.perform_alike fronts punctual f.payload t
  rw [← same, ← seen]
  exact ⟨rfl, _, after, rfl⟩

section Requests

variable (plain : f.header.op ≠ .pollRegister)
include plain

/-- A command that is performed delivers its value. -/
theorem request_ends {d d' : Device} {data : UInt64} {rest : Bytes}
    (performed : Remote.perform Device.channel f.header f.payload d = (⟨.ok data, rest⟩, d')) :
    Ends (Seen view connected · d []) (Remote.request stream f.header f.payload)
      (fun got s => got = data ∧ Seen view connected s d' rest) (fun _ _ => False) := by
  have exchanged := lossless.exchange_ends fronts (fun poll => absurd poll plain) d
  rw [performed] at exchanged
  apply Ends.bind exchanged
  rintro reply s ⟨rfl, after⟩
  exact ⟨rfl, after⟩

/-- A command for an access that cannot fail does what the access does. Its value comes back in
the reply, packed by `p` and unpacked by `u`. -/
theorem request_follows {access : Action Device β} {p : β → UInt64} {u : UInt64 → β}
    (packed : ∀ b, u (p b) = b)
    (performs : ∀ d, Remote.perform Device.channel f.header f.payload d =
      Remote.answer (access >>= fun b => Pure.pure (p b)) d)
    (sure : ∀ d, Ends (· = d) access (fun _ _ => True) (fun _ _ => False)) :
    Follows (Quiet view connected)
      (Remote.request stream f.header f.payload >>= fun data => Pure.pure (u data)) access := by
  apply Agree.of_ends
  intro s d quiet
  have ending := sure d d rfl
  cases run : access.run d with
  | mk outcome d' =>
    rw [run] at ending
    cases outcome with
    | error e => exact ending.elim
    | ok b =>
      have performed : Remote.perform Device.channel f.header f.payload d =
          (⟨.ok (p b), []⟩, d') := by
        rw [performs, Remote.answer, Action.run_bind_ok run]
        rfl
      refine (Ends.bind (lossless.request_ends fronts plain performed) ?_).weaken
        (fun _ same => same ▸ quiet) (fun _ _ after => after) (fun _ _ no => no.elim)
      intro data
      refine Ends.pure fun s' after => ⟨d', ?_, after.2⟩
      rw [after.1, packed]

end Requests

end ByteStream.Lossless

end LineBridge

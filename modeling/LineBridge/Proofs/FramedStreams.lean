import Mathlib
import LineBridge.Bench.Tape
import LineBridge.Proofs.Agreement
import LineBridge.Proofs.Codec
import LineBridge.Proofs.Deliveries

/-! Frames written to a stream and read from one. A frame is a header with any bytes behind it.
Reads that know how many bytes these are take whole frames, just as they were written, however the
stream cuts them; after the last frame the stream is at its end. -/

namespace LineBridge

open LineBridge.Action (Ends)

variable {σ τ α κ : Type}

/-- Calls that each turn what is to be done into what is still to be done go through, in any
number. -/
theorem Action.runEach_through {P : List κ → σ → Prop} {act : κ → Action σ α} {result : κ → α}
    (step : ∀ item rest, Ends (P (item :: rest)) (act item)
      (fun a s => a = result item ∧ P rest s) (fun _ _ => False))
    (front back : List κ) {s : σ} (start : P (front ++ back) s) :
    (runEach act front s).1 = front.map (fun item => .ok (result item)) ∧
      P back (runEach act front s).2 := by
  induction front generalizing s with
  | nil => exact ⟨rfl, start⟩
  | cons item front ih =>
    obtain ⟨_, s', ran, rfl, after⟩ := (step item (front ++ back)).exists_ok start
    obtain ⟨outcomes, left⟩ := ih after
    simp only [runEach, ran, List.map_cons]
    exact ⟨congrArg (_ :: ·) outcomes, left⟩

namespace ByteStream

/-- A stream that takes all it is given; what it has been given stands in `given`. -/
structure Records (stream : ByteStream σ) (given : σ → Bytes → Prop) : Prop where
  write : ∀ bytes before, Ends (given · before) (stream.write bytes)
    (fun _ s => given s (before ++ bytes)) (fun _ _ => False)
  flush : ∀ before, Ends (given · before) stream.flush (fun _ s => given s before)
    (fun _ _ => False)

theorem Records.send_ends {stream : ByteStream σ} {given : σ → Bytes → Prop}
    (records : stream.Records given) (bytes before : Bytes) :
    Ends (given · before) (stream.send bytes) (fun _ s => given s (before ++ bytes))
      (fun _ _ => False) := by
  rw [send]
  split
  · next none =>
    rw [List.isEmpty_iff.mp none, List.append_nil]
    exact records.flush before
  · exact (records.write bytes before).bind fun _ => records.flush _

/-- A stream that delivers what it holds, and then shows its end. -/
structure Plays (stream : ByteStream σ) (leaves : σ → Bytes → Prop) : Prop
    extends Delivers stream leaves where
  ended : ∀ count, 0 < count → Ends (leaves · []) (stream.read count)
    (fun got s => got = [] ∧ leaves s []) (fun _ _ => False)

namespace Plays

variable {stream : ByteStream σ} {leaves : σ → Bytes → Prop} (plays : stream.Plays leaves)
include plays

theorem collect_ended (count : Nat) :
    Ends (leaves · []) (stream.collect count) (fun got s => got = [] ∧ leaves s [])
      (fun _ _ => False) := by
  rw [collect, collectFrom]
  split
  · next some =>
    apply (plays.ended _ some).bind
    rintro _ s ⟨rfl, left⟩
    exact ⟨rfl, left⟩
  · exact Ends.pure fun s left => ⟨rfl, left⟩

end Plays

end ByteStream

namespace Bench.Tape

/-- No write fails. -/
structure Given (t : Tape) (bytes : Bytes) : Prop where
  sent : t.meter.sentBytes = bytes
  sound : t.failWrite = none

/-- No read fails, and none is held to nothing. -/
structure Leaves (t : Tape) (bytes : Bytes) : Prop where
  incoming : t.incoming = bytes
  sound : t.failRead = none
  moving : t.readLimit ≠ some 0

theorem run_write {t : Tape} (sound : t.failWrite = none) (bytes : Bytes) :
    (stream.write bytes).run t =
      (.ok (), { t with writes := t.writes + 1, meter := t.meter.addSent bytes }) := by
  show write bytes t = _
  simp [write, sound]

theorem records : stream.Records Given where
  write := by
    rintro bytes _ t ⟨rfl, sound⟩
    rw [run_write sound]
    exact ⟨by simp [Meter.sentBytes, Meter.addSent], sound⟩
  flush _ _ given := ⟨given.sent, given.sound⟩

/-- The most that one read takes. -/
def portion (t : Tape) (count : Nat) : Nat :=
  match t.readLimit with
  | none => count
  | some limit => min count limit

theorem portion_le (t : Tape) (count : Nat) : t.portion count ≤ count := by
  unfold portion
  split
  · exact Nat.le_refl _
  · exact Nat.min_le_left ..

theorem portion_pos {t : Tape} (moving : t.readLimit ≠ some 0) {count : Nat} (some : 0 < count) :
    0 < t.portion count := by
  unfold portion
  split
  · exact some
  · next limit limited =>
    have positive : limit ≠ 0 := by
      rintro rfl
      exact moving limited
    omega

theorem run_read {t : Tape} (sound : t.failRead = none) (count : Nat) :
    (stream.read count).run t = (.ok (t.incoming.take (t.portion count)), { t with
      reads := t.reads + 1
      incoming := t.incoming.drop (t.portion count)
      meter := t.meter.addTaken (t.incoming.take (t.portion count)) }) := by
  show read count t = _
  simp only [read, sound, reduceCtorEq, if_false]
  rfl

theorem plays : stream.Plays Leaves where
  read := by
    rintro count _ positive some t ⟨rfl, sound, moving⟩
    rw [run_read sound]
    refine ⟨?_, ?_, t.incoming.drop (t.portion count), ?_, rfl, sound, moving⟩
    · rw [Ne, List.take_eq_nil_iff]
      exact not_or.mpr ⟨(portion_pos moving positive).ne', some⟩
    · exact (List.length_take_le ..).trans (t.portion_le count)
    · exact (List.take_append_drop ..).symm
  ended := by
    rintro count positive t ⟨none, sound, moving⟩
    rw [run_read sound, none, List.take_nil, List.drop_nil]
    exact ⟨rfl, rfl, sound, moving⟩

end Bench.Tape

namespace Remote

/-- The next frame, of which `size` bytes stand behind the header. -/
def takeFrame {β : Type} (stream : ByteStream σ) (next : Action σ β) (size : Nat) :
    Action σ (β × Bytes) := do
  let header ← next
  let payload ← stream.receive size
  pure (header, payload)

section Frames

variable {η β : Type} (encode : η → Bytes)

/-- Frames on the wire. -/
def wire (frames : List (η × Bytes)) : Bytes := frames.flatMap fun f => encode f.1 ++ f.2

variable (given : τ → Bytes → Prop) (put : η → Bytes → Action τ Unit)
  (stream : ByteStream σ) (leaves : σ → Bytes → Prop) (next : Action σ β) (seen : η → β)
  (ending : Except Fault β)

/-- All frames go out in order. As many as are taken come back in order, each of them whole and
with nothing of what follows it; and once all of them have been taken, `ending` is what the search
for another header yields. -/
def ReadsBack : Prop :=
  ∀ (frames : List (η × Bytes)) (w : τ), given w [] →
    let (sent, w') := Action.runEach (fun f => put f.1 f.2) frames w
    sent = frames.map (fun _ => .ok ()) ∧ given w' (wire encode frames) ∧
    ∀ s, leaves s (wire encode frames) → ∀ front back, frames = front ++ back →
      let (taken, s') := Action.runEach (fun f => takeFrame stream next f.2.length) front s
      taken = front.map (fun f => .ok (seen f.1, f.2)) ∧ leaves s' (wire encode back) ∧
        (back = [] → ∃ last, next.run s' = (ending, last) ∧ leaves last [])

variable {encode given put stream leaves next seen ending}

theorem wire_cons (f : η × Bytes) (frames : List (η × Bytes)) :
    wire encode (f :: frames) = encode f.1 ++ (f.2 ++ wire encode frames) := by
  rw [wire, List.flatMap_cons, List.append_assoc]
  rfl

theorem takeFrame_ends (delivers : stream.Delivers leaves)
    (header : ∀ h rest, Ends (leaves · (encode h ++ rest)) next
      (fun got s => got = seen h ∧ leaves s rest) (fun _ _ => False))
    (f : η × Bytes) (rest : List (η × Bytes)) :
    Ends (leaves · (wire encode (f :: rest))) (takeFrame stream next f.2.length)
      (fun got s => got = (seen f.1, f.2) ∧ leaves s (wire encode rest)) (fun _ _ => False) := by
  rw [wire_cons]
  apply (header f.1 (f.2 ++ wire encode rest)).bind
  rintro _ s ⟨rfl, left⟩
  apply Ends.bind (delivers.receive_ends f.2 (wire encode rest)) _ s left
  rintro _ s' ⟨rfl, left⟩
  exact ⟨rfl, left⟩

theorem readsBack (delivers : stream.Delivers leaves)
    (puts : ∀ h payload before, Ends (given · before) (put h payload)
      (fun _ w => given w (before ++ (encode h ++ payload))) (fun _ _ => False))
    (header : ∀ h rest, Ends (leaves · (encode h ++ rest)) next
      (fun got s => got = seen h ∧ leaves s rest) (fun _ _ => False))
    (ended : ∀ s, leaves s [] → ∃ last, next.run s = (ending, last) ∧ leaves last []) :
    ReadsBack encode given put stream leaves next seen ending := by
  intro frames w fresh
  -- what is still to go out completes what has gone out
  let Sending (rest : List (η × Bytes)) (w : τ) : Prop :=
    ∃ before, given w before ∧ before ++ wire encode rest = wire encode frames
  have send : ∀ f rest, Ends (Sending (f :: rest)) (put f.1 f.2)
      (fun a w => a = () ∧ Sending rest w) (fun _ _ => False) := by
    rintro f rest w ⟨before, holds, all⟩
    obtain ⟨a, w', ran, holds'⟩ := (puts f.1 f.2 before).exists_ok holds
    rw [wire_cons, ← List.append_assoc (encode f.1), ← List.append_assoc before] at all
    rw [ran]
    exact ⟨rfl, _, holds', all⟩
  have unsent : Sending (frames ++ []) w := ⟨[], fresh, by rw [List.append_nil]; rfl⟩
  obtain ⟨sent, before, holds, all⟩ := Action.runEach_through send frames [] unsent
  have whole : before = wire encode frames := (List.append_nil _).symm.trans all
  refine ⟨sent, whole ▸ holds, ?_⟩
  rintro s full front back rfl
  obtain ⟨taken, left⟩ := Action.runEach_through (P := fun rest s => leaves s (wire encode rest))
    (takeFrame_ends delivers header) front back full
  refine ⟨taken, left, ?_⟩
  rintro rfl
  exact ended _ left

end Frames

section Headers

theorem Operation.ofCode?_isSome (raw : UInt8) :
    (ofCode? raw).isSome ↔ 1 ≤ raw.toNat ∧ raw.toNat ≤ 9 := by
  refine ⟨fun known => ?_, fun ⟨low, high⟩ => ?_⟩
  · obtain ⟨op, known⟩ := Option.isSome_iff_exists.mp known
    rw [← code_of_ofCode? known]
    cases op <;> decide
  · unfold ofCode?
    interval_cases raw.toNat <;> rfl

theorem CommandHeader.decodes_iff (bytes : Bytes) :
    (∃ h, decode bytes = .ok h) ↔ 1 ≤ (bytes.headD 0).toNat ∧ (bytes.headD 0).toNat ≤ 9 := by
  rw [← Operation.ofCode?_isSome, decode]
  cases Operation.ofCode? (bytes.headD 0) with
  | none => simp
  | some op => simp

variable {stream : ByteStream σ} {leaves : σ → Bytes → Prop}

/-- At the end of the stream there is no further command. -/
theorem run_nextCommand_ended (plays : stream.Plays leaves) {s : σ} (left : leaves s []) :
    ∃ last, (nextCommand stream).run s = (.ok none, last) ∧ leaves last [] := by
  obtain ⟨got, last, ran, rfl, left⟩ := (plays.collect_ended commandBytes).exists_ok left
  refine ⟨last, ?_, left⟩
  rw [nextCommand, Action.run_bind_ok ran]
  rfl

/-- At the end of the stream a reply is missing. -/
theorem run_nextReply_ended (plays : stream.Plays leaves) {s : σ} (left : leaves s []) :
    ∃ last, (nextReply stream).run s = (.error (.link .endOfStream), last) ∧ leaves last [] := by
  obtain ⟨got, last, ran, rfl, left⟩ := (plays.collect_ended replyBytes).exists_ok left
  have missing : (stream.receive replyBytes).run s = (.error (.link .endOfStream), last) := by
    rw [ByteStream.receive, Action.run_bind_ok ran]
    rfl
  refine ⟨last, ?_, left⟩
  rw [nextReply, Action.run_bind_error missing]

end Headers

/-- Headers read back as they were written; of 17 bytes only the first can be wrong, and a header
is written back as it was read. Whole commands and replies, with any bytes behind their headers,
come back one by one as they were sent, and after the last one the stream is at its end. -/
theorem wire_reads_back {out : ByteStream τ} {given : τ → Bytes → Prop} {stream : ByteStream σ}
    {leaves : σ → Bytes → Prop} (records : out.Records given) (plays : stream.Plays leaves) :
    (∀ h : CommandHeader, CommandHeader.decode h.encode = .ok h) ∧
    (∀ bytes : Bytes, bytes.length = commandBytes →
      ((∃ h, CommandHeader.decode bytes = .ok h) ↔
        1 ≤ (bytes.headD 0).toNat ∧ (bytes.headD 0).toNat ≤ 9) ∧
      ∀ h, CommandHeader.decode bytes = .ok h → h.encode = bytes) ∧
    (∀ h : ReplyHeader, ReplyHeader.decode h.encode = h) ∧
    ReadsBack CommandHeader.encode given (sendCommand out) stream leaves (nextCommand stream) some
      (.ok none) ∧
    ReadsBack ReplyHeader.encode given (sendReply out) stream leaves (nextReply stream) id
      (.error (.link .endOfStream)) := by
  refine ⟨CommandHeader.decode_encode_self, fun bytes whole => ⟨CommandHeader.decodes_iff bytes,
    fun h => CommandHeader.encode_of_decode whole⟩, ReplyHeader.decode_encode_self, ?_, ?_⟩
  · exact readsBack plays.toDelivers (fun h payload => records.send_ends (h.encode ++ payload))
      plays.nextCommand_ends fun _ => run_nextCommand_ended plays
  · exact readsBack plays.toDelivers (fun h payload => records.send_ends (h.encode ++ payload))
      plays.nextReply_ends fun _ => run_nextReply_ended plays

theorem wire_reads_back_tape :
    let frames : List (CommandHeader × Bytes) :=
      [(⟨.bulkWrite, 0, 0, 3⟩, [7, 8, 9]), (⟨.readRegister, 7, 0, 0⟩, [])]
    let tape : Bench.Tape := { incoming := wire CommandHeader.encode frames, readLimit := some 4 }
    Bench.Tape.stream.Records Bench.Tape.Given ∧ Bench.Tape.stream.Plays Bench.Tape.Leaves ∧
      Bench.Tape.Given {} [] ∧ tape.Leaves (wire CommandHeader.encode frames) ∧
      (let (taken, last) := Action.runEach (fun f => takeFrame Bench.Tape.stream
        (nextCommand Bench.Tape.stream) f.2.length) frames tape
      taken = frames.map (fun f => .ok (some f.1, f.2)) ∧ last.Leaves []) := by
  intro frames tape
  have fresh : Bench.Tape.Given {} [] := ⟨rfl, rfl⟩
  have full : tape.Leaves (wire CommandHeader.encode frames) := ⟨rfl, rfl, by decide⟩
  obtain ⟨-, -, -, commands, -⟩ := wire_reads_back Bench.Tape.records Bench.Tape.plays
  obtain ⟨-, -, taking⟩ := commands frames {} fresh
  obtain ⟨taken, left, -⟩ := taking tape full frames [] (List.append_nil _).symm
  exact ⟨Bench.Tape.records, Bench.Tape.plays, fresh, full, taken, left⟩

end Remote

end LineBridge

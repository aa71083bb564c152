import Mathlib
import LineBridge.Proofs.Performed

/-! What a service makes of any input. It performs the whole commands at the start of the input,
as many as there are, in order, with one answer each; and what stands behind them decides how it
ends. No command is a proper first part of another, so there is only one way to cut the input. -/

namespace LineBridge.Remote

variable {τ : Type}

/-- How a service ends when it has answered some commands and no whole one is left: its ending,
and what it sends last. -/
inductive Closes (answered : Nat) : Bytes → Except Fault Nat → Bytes → Prop
  | ended {rest : Bytes} (short : rest.length < commandBytes) :
    Closes answered rest (.ok answered) []
  | unknown {code : UInt8} {tail : Bytes} (long : commandBytes ≤ (code :: tail).length)
    (unknown : Operation.ofCode? code = none) :
    Closes answered (code :: tail) (.error (.link (.unknownOperation code))) []
  | oversized {h : CommandHeader} {tail : Bytes} (large : maxBulkBytes < payloadBytes h) :
    Closes answered (h.encode ++ tail) (.error (.tooLarge h.count.toNat maxBulkBytes))
      (ReplyHeader.failed 0).encode
  | cutShort {h : CommandHeader} {tail : Bytes} (bounded : payloadBytes h ≤ maxBulkBytes)
    (short : tail.length < payloadBytes h) :
    Closes answered (h.encode ++ tail) (.error (.link .endOfStream)) []

namespace Closes

variable {answered : Nat} {rest last : Bytes} {ending : Except Fault Nat}

/-- What a service ends on does not start with a whole command. -/
theorem final (closes : Closes answered rest ending last) (f : Frame) (tail : Bytes) :
    rest ≠ f.bytes ++ tail := by
  intro same
  have size := congrArg List.length same
  rw [Frame.bytes, List.append_assoc] at same
  simp only [Frame.bytes, List.length_append, CommandHeader.length_encode, f.announced] at size
  cases closes with
  | ended short => omega
  | @unknown code rest long unknown =>
    have known : code = f.header.op.code := (List.cons.inj same).1
    rw [known, Operation.ofCode?_code] at unknown
    cases unknown
  | @oversized h rest large =>
    have decoded := congrArg CommandHeader.decode same
    rw [CommandHeader.decode_encode, CommandHeader.decode_encode] at decoded
    cases decoded
    exact absurd f.bounded (Nat.not_le.mpr large)
  | @cutShort h rest bounded short =>
    have decoded := congrArg CommandHeader.decode same
    rw [CommandHeader.decode_encode, CommandHeader.decode_encode] at decoded
    cases decoded
    simp only [List.length_append, CommandHeader.length_encode] at size
    omega

theorem ok_iff (closes : Closes answered rest ending last) :
    (∃ count, ending = .ok count) ↔ rest.length < commandBytes := by
  cases closes with
  | ended short => exact ⟨fun _ => short, fun _ => ⟨_, rfl⟩⟩
  | unknown long _ =>
    refine ⟨?_, fun short => absurd long (Nat.not_le.mpr short)⟩
    rintro ⟨_, ⟨⟩⟩
  | oversized _ =>
    refine ⟨?_, fun short => ?_⟩
    · rintro ⟨_, ⟨⟩⟩
    · rw [List.length_append, CommandHeader.length_encode] at short
      omega
  | cutShort _ _ =>
    refine ⟨?_, fun short => ?_⟩
    · rintro ⟨_, ⟨⟩⟩
    · rw [List.length_append, CommandHeader.length_encode] at short
      omega

end Closes

/-- The header at the start of an input that is long enough for one. -/
theorem split_header {input : Bytes} {h : CommandHeader} (long : ¬input.length < commandBytes)
    (decoded : CommandHeader.decode (input.take commandBytes) = .ok h) :
    input = h.encode ++ input.drop commandBytes := by
  have whole : (input.take commandBytes).length = commandBytes :=
    List.length_take_of_le (Nat.not_lt.mp long)
  rw [CommandHeader.encode_of_decode whole decoded, List.take_append_drop]

/-- The whole commands at the start of an input, their answers, and what stands behind them. -/
structure Cut (channel : Channel τ) (view : τ → Device) (input : Bytes) (t : τ)
    (frames : List Frame) (replies : List Reply) (rest last : Bytes) : Prop where
  split : input = frames.flatMap Frame.bytes ++ rest
  /-- No other row of whole commands is longer. -/
  whole : ∀ others behind, input = others.flatMap Frame.bytes ++ behind → others <+: frames
  closes : Closes frames.length rest (serve channel input t).ending last
  well : (∃ count, (serve channel input t).ending = .ok count) ↔ rest.length < commandBytes
  output : (serve channel input t).output = (replies.map Reply.encode).flatten ++ last
  runs : Runs channel t frames replies (serve channel input t).bridge
  answered : List.Forall₂ Frame.AnsweredBy frames replies
  /-- A command for a register that is not there changes nothing. -/
  outside : ∀ f ∈ frames, f.header.op.NamesRegister → Register.count ≤ f.header.addr.toNat →
    ∀ t' answer, Performs channel f t' answer → answer.1 = ⟨.failed 0, []⟩ ∧ view answer.2 = view t'
  idled : (view (serve channel input t).bridge).idleCycles ≤
    (view t).idleCycles + frames.length * (UInt32.size - 1)

section Serving

variable {channel : Channel τ} {view : τ → Device} (fronts : channel.Fronts view False)
include fronts

/-- A service in the middle of its input: the frames that are left are performed and answered
after the others. -/
theorem serveFrom_cut (input : Bytes) (t : τ) (answered : Nat) (before : List Bytes) :
    let service := serveFrom channel input t answered before
    ∃ frames replies rest last, input = frames.flatMap Frame.bytes ++ rest ∧
      Closes (answered + frames.length) rest service.ending last ∧
      service.output = before.reverse.flatten ++ ((replies.map Reply.encode).flatten ++ last) ∧
      Runs channel t frames replies service.bridge := by
  fun_induction serveFrom channel input t answered before with
  | case1 input t answered before short =>
    exact ⟨[], [], input, [], rfl, .ended short, by simp, .done⟩
  | case2 input t answered before long cause undecoded =>
    have whole : commandBytes ≤ input.length := Nat.not_lt.mp long
    cases input with
    | nil => exact absurd whole (by decide)
    | cons code tail =>
      obtain ⟨unknown, rfl⟩ := CommandHeader.unknown_of_decode undecoded
      exact ⟨[], [], _, [], rfl, .unknown whole unknown, by simp, .done⟩
  | case3 input t answered before long h decoded large =>
    refine ⟨[], [], _, (ReplyHeader.failed 0).encode, rfl, ?_, by simp, .done⟩
    rw [split_header long decoded]
    exact .oversized large
  | case4 input t answered before long h decoded rest bounded short =>
    refine ⟨[], [], _, [], rfl, ?_, by simp, .done⟩
    rw [split_header long decoded]
    exact .cutShort (Nat.not_lt.mp bounded) short
  | case5 input t answered before long h decoded rest bounded long' reply t' performed ih =>
    obtain ⟨frames, replies, behind, last, split, closes, output, runs⟩ := ih
    have size : (rest.take (payloadBytes h)).length = payloadBytes h :=
      List.length_take_of_le (Nat.not_lt.mp long')
    let f : Frame := ⟨h, rest.take (payloadBytes h), size, Nat.not_lt.mp bounded⟩
    have performs : Performs channel f t (reply, t') := performed ▸ perform_performs fronts f t
    refine ⟨f :: frames, reply :: replies, behind, last, ?_, ?_, ?_, .next performs runs⟩
    · rw [split_header long decoded, List.flatMap_cons, Frame.bytes, List.append_assoc,
        List.append_assoc, ← split, List.take_append_drop]
    · rw [List.length_cons, Nat.add_comm frames.length, ← Nat.add_assoc]
      exact closes
    · rw [output]
      simp

/-- Every input is a run of whole commands and something that is none, cut in the only possible
way. The commands are performed in order with one answer each, and the rest decides the ending. -/
theorem serve_exact (input : Bytes) (t : τ) :
    ∃ frames replies rest last, Cut channel view input t frames replies rest last := by
  obtain ⟨frames, replies, rest, last, split, closes, output, runs⟩ :=
    serveFrom_cut fronts input t 0 []
  rw [Nat.zero_add] at closes
  refine ⟨frames, replies, rest, last, ⟨split, ?_, closes, closes.ok_iff, output, runs,
    runs.answeredBy fronts, ?_, runs.idleCycles_le fronts⟩⟩
  · intro others behind same
    exact Frame.selfDelimiting.prefix_of_flatMap (fun _ _ => trivial) (fun _ _ => trivial)
      (same.symm.trans split) fun f _ => closes.final f
  · exact fun f _ names outside t' answer performs => performs.outside fronts names outside

end Serving

theorem serve_exact_cut_short :
    let command := Frame.bare ⟨.writeRegister, 6, 1, 0⟩ rfl
    let input := command.bytes ++ [6, 0, 0]
    Device.channel.Fronts id False ∧ ∃ frames replies rest last,
      Cut Device.channel id input { latency := 2 } frames replies rest last :=
  ⟨Channel.fronts_device, serve_exact Channel.fronts_device _ _⟩

end LineBridge.Remote

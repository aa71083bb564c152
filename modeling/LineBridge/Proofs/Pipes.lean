import Mathlib
import LineBridge.Bench.Pipe
import LineBridge.Proofs.RemoteAccesses

/-! A pipe loses nothing, and its clock bounds what a command takes: as long as the bytes of the
command and of its reply take on their way. -/

namespace LineBridge.Bench.Pipe

open LineBridge.Action (Ends)

variable {τ : Type} {channel : Channel τ}

/-- What was sent are whole commands, and their replies have been read up to `left`. -/
structure Connected (channel : Channel τ) (p : Pipe τ) (t : τ) (left : Bytes) : Prop where
  whole : ∃ frames : List Remote.Frame, p.sent = frames.flatMap Remote.Frame.bytes
  bridge : (p.service channel).bridge = t
  taken : p.taken ≤ (p.service channel).output.length
  incoming : p.incoming channel = left

theorem connected_new (t : τ) : Connected channel { first := t } t [] where
  whole := ⟨[], rfl⟩
  bridge := by rw [service, Remote.serve, Remote.serveFrom_nil]
  taken := Nat.zero_le _
  incoming := by rw [incoming, service, Remote.serve, Remote.serveFrom_nil]; rfl

/-- One more command goes to the bridge as the others left it, and its reply behind theirs. -/
theorem serve_append (channel : Channel τ) (frames : List Remote.Frame) (f : Remote.Frame) (t : τ) :
    let before := Remote.serve channel (frames.flatMap Remote.Frame.bytes) t
    let after := Remote.serve channel (frames.flatMap Remote.Frame.bytes ++ f.bytes) t
    let alone := Remote.serve channel f.bytes before.bridge
    after.output = before.output ++ alone.output ∧ after.bridge = alone.bridge := by
  have joined : frames.flatMap Remote.Frame.bytes ++ f.bytes =
      (frames ++ [f]).flatMap Remote.Frame.bytes := by
    rw [List.flatMap_append, List.flatMap_singleton]
  dsimp only
  rw [joined, Remote.serve_frames, Remote.serve_frames, Remote.performEach_append,
    Remote.serve_frame]
  simp

theorem lossless : (stream channel).Lossless channel (Connected channel) where
  send := by
    rintro f t p ⟨⟨frames, sent⟩, rfl, taken, read⟩
    have taken : p.taken ≤ (Remote.serve channel p.sent p.first).output.length := taken
    obtain ⟨output, bridge⟩ := serve_append channel frames f p.first
    rw [← sent] at output bridge
    have ran : ((stream channel).send f.bytes).run p =
        (.ok (), { p with sent := p.sent ++ f.bytes }) := rfl
    rw [ran]
    refine ⟨⟨frames ++ [f], ?_⟩, bridge, ?_, ?_⟩
    · rw [List.flatMap_append, List.flatMap_singleton, ← sent]
    · show p.taken ≤ (Remote.serve channel (p.sent ++ f.bytes) p.first).output.length
      rw [output, List.length_append]
      exact taken.trans (Nat.le_add_right _ _)
    · show (Remote.serve channel (p.sent ++ f.bytes) p.first).output.drop p.taken = _
      have none : (Remote.serve channel p.sent p.first).output.drop p.taken = [] := read
      rw [output, List.drop_append_of_le_length taken, none, List.nil_append]
      rfl
  read := by
    rintro count t left positive some p ⟨whole, rfl, taken, rfl⟩
    have fits : ((p.incoming channel).take count).length ≤ (p.incoming channel).length :=
      List.length_take_le' _ _
    have size : (p.incoming channel).length =
        (p.service channel).output.length - p.taken := List.length_drop
    refine ⟨?_, List.length_take_le .., (p.incoming channel).drop count, ?_, whole, rfl, ?_, ?_⟩
    · intro none
      rcases List.take_eq_nil_iff.mp none with zero | empty
      · omega
      · exact some empty
    · exact (List.take_append_drop count (p.incoming channel)).symm
    · show p.taken + ((p.incoming channel).take count).length ≤ (p.service channel).output.length
      omega
    · show (p.service channel).output.drop (p.taken + ((p.incoming channel).take count).length) = _
      rw [← List.drop_drop]
      show (p.incoming channel).drop _ = _
      rw [List.length_take]
      rcases Nat.le_total count (p.incoming channel).length with less | more
      · rw [Nat.min_eq_left less]
      · rw [Nat.min_eq_right more, List.drop_length, List.drop_eq_nil_of_le more]

theorem connected_paused (length : Nat) (p : Pipe τ) (t : τ) (connected : Connected channel p t []) :
    Connected channel (clock.pause length p) t [] :=
  ⟨connected.whole, connected.bridge, connected.taken, connected.incoming⟩

section Time

/-- The clock has gone on by no more than `spent` since it showed `start`. -/
def Within (start spent : Nat) (p : Pipe τ) : Prop := clock.now p ≤ start + spent

variable {start spent : Nat}

theorem send_spent (bytes : Bytes) :
    Ends (Within start spent) ((stream channel).send bytes)
      (fun _ => Within start (spent + bytes.length)) (fun _ _ => True) := by
  intro p before
  cases bytes with
  | nil => exact before
  | cons byte rest =>
    have ran : ((stream channel).send (byte :: rest)).run p =
        (.ok (), { p with sent := p.sent ++ byte :: rest }) := rfl
    simp only [Within, clock] at before
    rw [ran]
    simp only [Within, clock, List.length_append]
    omega

theorem collectFrom_spent (count : Nat) (got : Array UInt8) :
    Ends (Within start spent) ((stream channel).collectFrom count got)
      (fun _ => Within start (spent + (count - got.size))) (fun _ _ => True) := by
  -- each read takes time for what it delivers, and no more is delivered than is missing
  fun_induction ByteStream.collectFrom (stream channel) count got generalizing spent with
  | case1 got short ih =>
    apply Ends.bind (Q := fun more p =>
      Within start (spent + more.length) p ∧ more.length ≤ count - got.size)
    · intro p before
      have size := List.length_take_le (count - got.size) (p.incoming channel)
      simp only [Within, clock] at before
      refine ⟨?_, size⟩
      show p.sent.length + (p.taken + _) + p.paused ≤ _
      omega
    · intro more
      split
      · next none =>
        refine Ends.pure fun p before => ?_
        have now : clock.now p ≤ start + (spent + more.length) := before.1
        show clock.now p ≤ _
        omega
      · next some =>
        rintro p ⟨before, fits⟩
        have size : (got ++ more).size = got.size + more.length := by
          rw [← Array.length_toList, Array.toList_appendList, List.length_append,
            Array.length_toList]
        have later := ih more some p before
        rw [size] at later
        have total : spent + more.length + (count - (got.size + more.length)) =
            spent + (count - got.size) := by omega
        rwa [total] at later
  | case2 got whole =>
    refine Ends.pure fun p before => ?_
    have now : clock.now p ≤ start + spent := before
    show clock.now p ≤ _
    omega

theorem request_spent (h : Remote.CommandHeader) :
    Ends (Within start spent) (Remote.request (stream channel) h [])
      (fun _ => Within start (spent + 26)) (fun _ _ => True) := by
  have sent : Ends (Within start spent) ((stream channel).send (h.encode ++ [])) _ _ :=
    send_spent _
  rw [List.append_nil, h.length_encode] at sent
  have replied : Ends (Within start (spent + 17)) (Remote.nextReply (stream channel))
      (fun _ => Within start (spent + 26)) (fun _ _ => True) := by
    apply Ends.bind (Q := fun _ => Within start (spent + 26))
    · apply Ends.bind (collectFrom_spent Remote.replyBytes #[])
      intro got
      split
      · exact Ends.fail fun _ _ => trivial
      · exact Ends.pure fun _ after => after
    · exact fun _ => Ends.pure fun _ after => after
  apply Ends.bind (sent.bind fun _ => replied)
  intro reply
  split
  · exact Ends.pure fun _ after => after
  · exact Ends.fail fun _ _ => trivial

/-- Waits over a pipe are in time if they have 26 nanoseconds and a pause for each of their reads,
and the bridge behind the pipe keeps the time as well. -/
theorem inTime {limits : PollLimits} (room : limits.reads * (26 + limits.delay) ≤ limits.timeout)
    (status : Remote.StatusInTime channel limits) (frame : Nat) :
    Remote.InTime (stream channel) clock frame channel limits where
  status := status
  count _ := by
    refine punctual_of_cost ?_ (fun p => ?_) room (by decide)
    · intro p value p' ran
      have read : Ends (Within (clock.now p) 0)
          ((Remote.link (stream channel) clock frame).readPair Register.countLo)
          (fun _ => Within (clock.now p) (0 + 26)) (fun _ _ => True) :=
        (request_spent _).bind fun _ => Ends.pure fun _ after => after
      have after := read.ok (Nat.le_refl _) ran
      rwa [Nat.zero_add] at after
    · show p.sent.length + p.taken + (p.paused + limits.delay) ≤ _
      exact Nat.le_of_eq (Nat.add_assoc _ _ _).symm

end Time

end LineBridge.Bench.Pipe

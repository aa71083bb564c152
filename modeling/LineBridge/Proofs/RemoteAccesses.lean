import Mathlib
import LineBridge.Proofs.Exchange

/-! The accesses of a link over a stream without loss, each of them one command or a few, do
what they would do at the device that is served. Waits for a status are left to the bridge and
timed by its clock, and those for a byte count are the host's own. -/

namespace LineBridge

open LineBridge.Action (Agree Ends Follows)

variable {σ τ α : Type}

/-- The limits of a wait that is left to the bridge: as many reads, and a minute for them. -/
def PollLimits.served (limits : PollLimits) : PollLimits := .immediate (max limits.attempts 1)

namespace Remote

section Outcomes

/-- The two halves of the word do not overlap. -/
theorem toNat_outcomeWord {outcome : PollOutcome UInt8} (fits : outcome.attempts < UInt32.size) :
    (outcomeWord outcome).toNat = outcome.attempts * 2 ^ 32 + outcome.value.toNat := by
  have small : outcome.value.toUInt64.toNat < 2 ^ 32 := by
    rw [UInt8.toNat_toUInt64]
    exact Nat.lt_trans outcome.value.toNat_lt (by decide)
  have exact : (UInt64.ofNat outcome.attempts).toNat = outcome.attempts :=
    UInt64.toNat_ofNat_of_lt' (Nat.lt_trans fits (by decide))
  have high : (UInt64.ofNat outcome.attempts <<< 32).toNat = outcome.attempts <<< 32 := by
    have places : (32 : UInt64).toNat % 64 = 32 := by decide
    simp only [UInt32.size] at fits
    rw [UInt64.toNat_shiftLeft, exact, places, Nat.shiftLeft_eq]
    omega
  rw [outcomeWord, UInt64.toNat_or, high, Nat.or_comm, ← Nat.shiftLeft_add_eq_or_of_lt small,
    Nat.shiftLeft_eq, UInt8.toNat_toUInt64]

variable {outcome : PollOutcome UInt8} (fits : outcome.attempts < UInt32.size)
include fits

theorem value_outcomeWord : (outcomeWord outcome).toUInt8 = outcome.value := by
  have byte := outcome.value.toNat_lt
  apply UInt8.toNat_inj.mp
  rw [UInt64.toNat_toUInt8, toNat_outcomeWord fits]
  omega

theorem attempts_outcomeWord : (outcomeWord outcome >>> 32).toNat = outcome.attempts := by
  have byte := outcome.value.toNat_lt
  have places : (32 : UInt64).toNat % 64 = 32 := by decide
  rw [UInt64.toNat_shiftRight, places, toNat_outcomeWord fits, Nat.shiftRight_eq_div_pow]
  omega

end Outcomes

theorem toNat_max (a b : UInt32) : (max a b).toNat = max a.toNat b.toNat := by
  show (if a ≤ b then b else a).toNat = _
  split
  · next below => exact (Nat.max_eq_right below).symm
  · next above => exact (Nat.max_eq_left (Nat.le_of_not_le above)).symm

/-- The bridge makes as many reads as the host would. -/
theorem reads_served (limits : PollLimits) : limits.served.reads = limits.reads := by
  have one : (1 : UInt32).toNat = 1 := rfl
  simp only [PollLimits.reads, PollLimits.served, PollLimits.immediate, toNat_max, one]
  omega

/-- The command for a wait. -/
def pollHeader (reg expected : UInt8) (limits : PollLimits) : CommandHeader :=
  ⟨.pollRegister, reg.toUInt32, expected.toUInt64, max limits.attempts 1⟩

theorem limits_pollHeader (reg expected : UInt8) (limits : PollLimits) :
    (pollHeader reg expected limits).limits = limits.served := by
  have one : (1 : UInt32).toNat = 1 := rfl
  have twice : max (max limits.attempts 1) 1 = max limits.attempts 1 := by
    apply UInt32.toNat_inj.mp
    rw [toNat_max, toNat_max, one]
    omega
  exact congrArg PollLimits.immediate twice

theorem reads_lt (limits : PollLimits) : limits.reads < UInt32.size :=
  Nat.max_lt.mpr ⟨by decide, limits.attempts.toNat_lt⟩

theorem register_lt (reg : UInt8) : reg.toUInt32 < 256 := by
  rw [UInt32.lt_iff_toNat_lt, UInt8.toNat_toUInt32]
  exact reg.toNat_lt

/-- The bridge has the time for a wait for a status that is left to it. -/
def StatusInTime (peer : Channel τ) (limits : PollLimits) : Prop :=
  ∀ reg, Device.IsStatus reg → Punctual peer.clock limits.served (peer.readRegister reg)

/-- Waits over a stream are in time, those of the bridge behind it and those of the host, unless
they have no time at all. -/
structure InTime (stream : ByteStream σ) (clock : Clock σ) (frame : Nat) (peer : Channel τ)
    (limits : PollLimits) : Prop where
  status : StatusInTime peer limits
  count : 0 < limits.timeout →
    Punctual clock limits ((link stream clock frame).readPair Register.countLo)

theorem answerAt_register (reg : UInt8) (access : UInt8 → Action Device UInt64) (d : Device) :
    answerAt reg.toUInt32 access d = answer (access reg) d := by
  rw [answerAt, if_pos (register_lt reg), UInt8.toUInt8_toUInt32]

end Remote

/-- An access to the device itself that cannot fail. -/
def Sure (access : Action Device α) : Prop :=
  ∀ d, Ends (· = d) access (fun _ _ => True) (fun _ _ => False)

namespace Sure

theorem bind {β : Type} {x : Action Device α} {f : α → Action Device β} (first : Sure x)
    (next : ∀ a, Sure (f a)) : Sure (x >>= f) :=
  fun d => Ends.bind (first d) fun a s _ => next a s s rfl

theorem pure (a : α) : Sure (Pure.pure a) := fun _ => Ends.pure fun _ _ => True.intro

theorem writeBulk (data : Bytes) : Sure (Device.link.writeBulk data) :=
  fun _ => Ends.modify fun _ _ => True.intro

theorem idleClock (cycles : UInt32) : Sure (Device.link.idleClock cycles) :=
  fun _ => Ends.modify fun _ _ => True.intro

section Registers

variable {reg : UInt8} (answers : Device.Answers reg)
include answers

theorem writeRegister (value : UInt8) : Sure (Device.link.writeRegister reg value) := by
  intro d
  show Ends _ (Device.writeRegister reg value) _ _
  rw [Device.writeRegister, if_pos answers]
  exact Ends.modify fun _ _ => True.intro

theorem readRegister : Sure (Device.link.readRegister reg) := by
  intro d
  show Ends _ (Device.readRegister reg) _ _
  rw [Device.readRegister, if_pos answers]
  exact fun _ _ => True.intro

theorem writePair (high : Device.Answers (reg + 1)) (value : UInt16) :
    Sure (Device.link.writePair reg value) := by
  show Sure (Device.channel.writePair reg value)
  rw [Channel.writePair_eq _ answers.ne_last]
  exact (writeRegister answers _).bind fun _ => writeRegister high _

theorem readPair (high : Device.Answers (reg + 1)) : Sure (Device.link.readPair reg) := by
  show Sure (Device.channel.readPair reg)
  rw [Channel.readPair_eq _ answers.ne_last]
  exact (readRegister answers).bind fun _ => (readRegister high).bind fun _ => pure _

theorem pollRegister (expected : UInt8) (limits : PollLimits) :
    Sure (Device.link.pollRegister reg expected limits) := by
  intro d
  have polled : Ends (fun _ => True) (Device.link.pollRegister reg expected limits)
      (fun _ _ => True) (fun _ _ => False) := by
    refine poll_ends (I := fun _ _ => True) ?_ (fun _ _ _ _ => trivial)
    intro made room
    apply Ends.of_eq
    intro d' _
    refine (readRegister answers d').onValue fun value _ _ => ?_
    split
    · trivial
    · exact ⟨trivial, fun _ => trivial⟩
  exact polled.weaken (fun _ _ => trivial) (fun _ _ _ => trivial) (fun _ _ no => no)

end Registers

theorem writeEach {writes : List (UInt8 × UInt8)}
    (answer : ∀ write ∈ writes, Device.Answers write.1) :
    Sure (Device.channel.writeEach writes) := by
  induction writes with
  | nil => exact pure ()
  | cons write rest ih =>
    apply bind (writeRegister (answer write (List.mem_cons_self ..)) write.2)
    exact fun _ => ih fun w member => answer w (List.mem_cons_of_mem _ member)

theorem packedWrite (addr : Addr) (field : UInt16) (payload : Bytes) :
    Sure (Device.link.packedWrite addr field payload) := by
  have length : Device.Answers Register.lenLo ∧ Device.Answers (Register.lenLo + 1) := by decide
  have bulk : Device.Answers Register.bulkLenLo ∧ Device.Answers (Register.bulkLenLo + 1) := by
    decide
  have command : Device.Answers Register.cmd := by decide
  apply (writeEach fun _ member => (Device.plain_of_mem_addressWrites member).answers).bind
  intro _
  apply (writePair length.1 length.2 field).bind
  intro _
  apply (writePair bulk.1 bulk.2 _).bind
  intro _
  apply (writeBulk payload).bind
  intro _
  exact writeRegister command _

end Sure

theorem Device.readBulk_run {d : Device} {count : Nat} (buffered : count ≤ d.readFifo.length) :
    (Device.link.readBulk count).run d =
      (.ok (d.readFifo.take count), { d with readFifo := d.readFifo.drop count }) := by
  have taken : (d.readFifo.take count).length = count := List.length_take_of_le buffered
  exact if_neg (Nat.not_lt.mpr (Nat.le_of_eq taken.symm))

namespace ByteStream.Lossless

variable {stream : ByteStream σ} {peer : Channel τ} {connected : σ → τ → Bytes → Prop}
  (lossless : stream.Lossless peer connected) {view : τ → Device}
  (fronts : peer.Fronts view False) {clock : Clock σ} {frame : Nat}
include lossless fronts

section Registers

variable {reg : UInt8} (answers : Device.Answers reg)
include answers

theorem writeRegister_follows (value : UInt8) :
    Follows (Quiet view connected) ((Remote.link stream clock frame).writeRegister reg value)
      (Device.link.writeRegister reg value) := by
  refine lossless.request_follows fronts
    (f := .bare ⟨.writeRegister, reg.toUInt32, value.toUInt64, 0⟩ rfl) nofun
    (p := fun _ => 0) (u := fun _ => ()) (fun _ => rfl) ?_ (Sure.writeRegister answers value)
  intro d
  simp only [Remote.Frame.bare, Remote.perform, Remote.answerAt_register, UInt8.toUInt8_toUInt64]
  rfl

theorem writePair_follows (high : Device.Answers (reg + 1)) (value : UInt16) :
    Follows (Quiet view connected) ((Remote.link stream clock frame).writePair reg value)
      (Device.link.writePair reg value) := by
  refine lossless.request_follows fronts
    (f := .bare ⟨.writePair, reg.toUInt32, value.toUInt64, 0⟩ rfl) nofun
    (p := fun _ => 0) (u := fun _ => ()) (fun _ => rfl) ?_ (Sure.writePair answers high value)
  intro d
  simp only [Remote.Frame.bare, Remote.perform, Remote.answerAt_register,
    UInt16.toUInt16_toUInt64]
  rfl

theorem readPair_follows (high : Device.Answers (reg + 1)) :
    Follows (Quiet view connected) ((Remote.link stream clock frame).readPair reg)
      (Device.link.readPair reg) := by
  refine lossless.request_follows fronts (f := .bare ⟨.readPair, reg.toUInt32, 0, 0⟩ rfl) nofun
    (p := UInt16.toUInt64) UInt16.toUInt16_toUInt64 ?_ (Sure.readPair answers high)
  intro d
  simp only [Remote.Frame.bare, Remote.perform, Remote.answerAt_register]
  rfl

end Registers

theorem idleClock_follows (cycles : UInt32) :
    Follows (Quiet view connected) ((Remote.link stream clock frame).idleClock cycles)
      (Device.link.idleClock cycles) := by
  refine lossless.request_follows fronts (f := .bare ⟨.idleClock, 0, cycles.toUInt64, 0⟩ rfl) nofun
    (p := fun _ => 0) (u := fun _ => ()) (fun _ => rfl) ?_ (Sure.idleClock cycles)
  intro d
  simp only [Remote.Frame.bare, Remote.perform, UInt32.toUInt32_toUInt64]
  rfl

theorem packedWrite_follows (addr : Addr) (field : UInt16) {payload : Bytes}
    (fits : payload.length ≤ maxBulkBytes) :
    Follows (Quiet view connected)
      ((Remote.link stream clock frame).packedWrite addr field payload)
      (Device.link.packedWrite addr field payload) := by
  refine lossless.request_follows fronts
    (f := .carrying .packedWrite rfl addr.val field.toUInt64 payload fits) nofun
    (p := fun _ => 0) (u := fun _ => ()) (fun _ => rfl) ?_ (Sure.packedWrite addr field payload)
  intro d
  simp only [Remote.Frame.carrying, Remote.perform, UInt16.toUInt16_toUInt64]
  rfl

/-- Frames of a bulk write arrive one behind the other. -/
theorem writeBulkFrames_follows {frames : List Bytes}
    (fits : ∀ frame ∈ frames, frame.length ≤ maxBulkBytes) :
    Follows (Quiet view connected) (Remote.writeBulkFrames stream frames)
      (Device.link.writeBulk frames.flatten) := by
  induction frames with
  | nil =>
    have nothing : Device.link.writeBulk ([] : List Bytes).flatten = pure () := by
      funext d
      show (_, { d with writeFifo := d.writeFifo ++ ([] : Bytes) }) = _
      rw [Array.appendList_nil]
      rfl
    rw [nothing]
    exact Follows.pure ()
  | cons frame rest ih =>
    have short := fits frame (List.mem_cons_self ..)
    have both : Device.link.writeBulk (frame :: rest).flatten =
        Device.link.writeBulk frame >>= fun _ => Device.link.writeBulk rest.flatten := by
      funext d
      have joined : d.writeFifo ++ (frame ++ rest.flatten) =
          d.writeFifo ++ frame ++ rest.flatten := Array.ext' (by simp)
      show (_, { d with writeFifo := d.writeFifo ++ (frame ++ rest.flatten) }) = _
      rw [joined]
      rfl
    have sent : Follows (Quiet view connected)
        (Remote.request stream ⟨.bulkWrite, 0, 0, UInt32.ofNat frame.length⟩ frame >>=
          fun _ => pure ()) (Device.link.writeBulk frame) :=
      lossless.request_follows fronts (f := .carrying .bulkWrite rfl 0 0 frame short) nofun
        (p := fun _ => 0) (fun _ => rfl) (fun _ => rfl) (Sure.writeBulk frame)
    have frames : Remote.writeBulkFrames stream (frame :: rest) =
        (Remote.request stream ⟨.bulkWrite, 0, 0, UInt32.ofNat frame.length⟩ frame >>=
          fun _ => pure ()) >>= fun _ => Remote.writeBulkFrames stream rest := by
      rw [bind_assoc]
      rfl
    rw [both, frames]
    exact sent.bind fun _ => ih fun f member => fits f (List.mem_cons_of_mem _ member)

theorem writeBulk_follows {data : Bytes} (fits : data.length ≤ maxBulkBytes) :
    Follows (Quiet view connected) ((Remote.link stream clock frame).writeBulk data)
      (Device.link.writeBulk data) := by
  have positive : 0 < max 1 frame := Nat.le_max_left ..
  have joined := Bytes.flatten_chunks (max 1 frame) positive data
  have short : ∀ piece ∈ Bytes.chunks (max 1 frame) data, piece.length ≤ maxBulkBytes :=
    fun piece member => (Bytes.length_le_of_mem_chunks positive member).trans fits
  have sent := lossless.writeBulkFrames_follows fronts short
  rw [joined] at sent
  exact sent

/-- What is buffered is read frame by frame, and put together again. -/
theorem readBulkFrames_ends {size : Nat} (positive : 0 < size) {left : Nat} (done : List Bytes)
    (d : Device) (buffered : left ≤ d.readFifo.length) (fits : left ≤ maxBulkBytes) :
    Ends (Quiet view connected · d) (Remote.readBulkFrames stream size positive left done)
      (fun data s => data = done.reverse.flatten ++ d.readFifo.take left ∧
        Quiet view connected s { d with readFifo := d.readFifo.drop left })
      (fun _ _ => False) := by
  induction left using Nat.strongRecOn generalizing done d with
  | ind left ih =>
    rw [Remote.readBulkFrames]
    by_cases none : left = 0
    · subst none
      rw [if_pos rfl]
      refine Ends.pure fun s quiet => ⟨?_, quiet⟩
      rw [List.take_zero, List.append_nil]
    · rw [if_neg none]
      have short : min left size ≤ left := Nat.min_le_left ..
      have some : 0 < min left size := by omega
      dsimp only
      generalize min left size = want at short some ⊢
      have exact : (UInt32.ofNat want).toNat = want := Remote.toNat_count (short.trans fits)
      have counted : (UInt64.ofNat want).toNat = want :=
        UInt64.toNat_ofNat_of_lt' (Nat.lt_of_le_of_lt (short.trans fits) (by decide))
      have taken : (d.readFifo.take want).length = want :=
        List.length_take_of_le (short.trans buffered)
      let f := Remote.Frame.bare ⟨.bulkRead, 0, 0, UInt32.ofNat want⟩ rfl
      have delivered : (Device.channel.link.readBulk want).run d =
          (.ok (d.readFifo.take want), { d with readFifo := d.readFifo.drop want }) :=
        Device.readBulk_run (short.trans buffered)
      have performed : Remote.perform Device.channel f.header f.payload d =
          (⟨.ok (UInt64.ofNat want), d.readFifo.take want⟩,
            { d with readFifo := d.readFifo.drop want }) := by
        simp only [f, Remote.Frame.bare, Remote.perform, exact, delivered, taken]
      apply Ends.bind (lossless.request_ends fronts (f := f) nofun performed)
      rintro data s ⟨rfl, quiet⟩
      rw [if_neg (not_not.mpr counted)]
      have received : Ends (Seen view connected · _ _) _ _ _ :=
        lossless.receive_ends { d with readFifo := d.readFifo.drop want } (d.readFifo.take want) []
      rw [taken, List.append_nil] at received
      have rest := ih (left - want) (by omega) (d.readFifo.take want :: done)
        { d with readFifo := d.readFifo.drop want }
        (by show _ ≤ (d.readFifo.drop want).length; rw [List.length_drop]; omega) (by omega)
      have all : (d.readFifo.take want :: done).reverse.flatten ++
          (d.readFifo.drop want).take (left - want) =
            done.reverse.flatten ++ d.readFifo.take left := by
        rw [List.reverse_cons, List.flatten_append, List.append_assoc, List.flatten_singleton,
          ← List.take_add, Nat.add_sub_cancel' short]
      have behind : (d.readFifo.drop want).drop (left - want) = d.readFifo.drop left := by
        rw [List.drop_drop, Nat.add_sub_cancel' short]
      -- the frames behind, and those to come, make up what one access would read
      refine Ends.bind received ?_ s quiet
      rintro data s ⟨rfl, quiet⟩
      have ending := rest s quiet
      rw [all] at ending
      simp only [behind] at ending
      exact ending

/-- What is read back from the frames is what one access would have read. -/
theorem readBulk_agree {count : Nat} (fits : count ≤ maxBulkBytes) :
    Agree (fun s d => Quiet view connected s d ∧ count ≤ d.readFifo.length)
      ((Remote.link stream clock frame).readBulk count) (Device.link.readBulk count)
      (fun _ => Quiet view connected) (Quiet view connected) := by
  apply Agree.of_ends
  rintro s d ⟨quiet, buffered⟩
  refine (lossless.readBulkFrames_ends fronts _ [] d buffered fits).weaken
    (fun _ same => same ▸ quiet) ?_ (fun _ _ no => no.elim)
  rintro data s' ⟨rfl, quiet⟩
  exact ⟨_, Device.readBulk_run buffered, quiet⟩

section Polls

variable {reg : UInt8} {limits : PollLimits}
  (punctual : Punctual peer.clock limits.served (peer.readRegister reg)) (expected : UInt8)
include punctual

/-- Whatever a wait that is left to the bridge comes to, the device has been read as in a wait of
its own. -/
theorem pollRegister_ends (d : Device) :
    Ends (Quiet view connected · d)
      ((Remote.link stream clock frame).pollRegister reg expected limits)
      (fun outcome s =>
        let direct := (Device.link.pollRegister reg expected limits.served).run d
        (∀ same, direct.1 = .ok same → same.attempts < UInt32.size → outcome = same) ∧
          Quiet view connected s direct.2) (fun _ _ => False) := by
  let f := Remote.Frame.bare (Remote.pollHeader reg expected limits) rfl
  have limited : f.header.limits = limits.served := Remote.limits_pollHeader reg expected limits
  have named : f.header.addr.toUInt8 = reg := UInt8.toUInt8_toUInt32 reg
  have exchanged := lossless.exchange_ends fronts (f := f)
    (fun _ => limited.symm ▸ named.symm ▸ punctual) d
  have performed : Remote.perform Device.channel f.header f.payload d =
      Remote.answerPoll Device.channel reg f.header d := by
    show (if reg.toUInt32 < 256 then
      Remote.answerPoll Device.channel reg.toUInt32.toUInt8 f.header d else _) = _
    rw [if_pos (Remote.register_lt reg), UInt8.toUInt8_toUInt32]
  have wanted : f.header.data.toUInt8 = expected := UInt8.toUInt8_toUInt64 expected
  rw [performed, Remote.answerPoll, wanted, limited] at exchanged
  cases ran : (Device.link.pollRegister reg expected limits.served).run d with
  | mk ended d' =>
    have ran : (Device.channel.link.pollRegister reg expected limits.served).run d =
        (ended, d') := ran
    rw [ran] at exchanged
    apply Ends.bind exchanged
    intro reply
    cases ended with
    | error e =>
      refine Ends.pure fun s after => ⟨fun _ same => ?_, after.2⟩
      cases same
    | ok outcome =>
      refine Ends.pure fun s after => ⟨?_, after.2⟩
      rintro _ ⟨⟩ fits
      rw [after.1]
      simp only [Remote.value_outcomeWord fits, Remote.attempts_outcomeWord fits]
      cases outcome <;> rfl

/-- A wait that is left to the bridge, and is in time there, ends as it would on the device. -/
theorem pollRegister_follows (answers : Device.Answers reg) :
    Follows (Quiet view connected)
      ((Remote.link stream clock frame).pollRegister reg expected limits)
      (Device.link.pollRegister reg expected limits.served) := by
  apply Agree.of_ends
  intro s d quiet
  -- run at the device, the poll yields an outcome; the reply carries it whole
  have ending := Sure.pollRegister answers expected limits.served d d rfl
  have counted : Ends (fun _ => True) (Device.link.pollRegister reg expected limits.served)
      (fun outcome _ => outcome.attempts ≤ limits.served.reads) (fun _ _ => True) :=
    poll_attempts_le _ _ _ _
  have few := counted d trivial
  have polled : Ends (Quiet view connected · d)
      ((Remote.link stream clock frame).pollRegister reg expected limits) _ _ :=
    lossless.pollRegister_ends fronts punctual expected d
  cases run : (Device.link.pollRegister reg expected limits.served).run d with
  | mk ended d' =>
    rw [run] at ending few polled
    cases ended with
    | error e => exact ending.elim
    | ok outcome =>
      have fits : outcome.attempts < UInt32.size := by
        rw [Remote.reads_served] at few
        exact Nat.lt_of_le_of_lt few (Remote.reads_lt limits)
      refine polled.weaken (fun _ same => same ▸ quiet) ?_ (fun _ _ no => no.elim)
      rintro got s' ⟨same, after⟩
      exact ⟨d', by rw [same outcome rfl fits], after⟩

end Polls

variable {fits : PollLimits → Prop}

/-- Writes of lines over a stream go as on the device at the far end, as long as the bridge has
the time for their waits. The limits of the host do not matter to them. -/
theorem copiesWrites (minute : ∀ {limits}, fits limits → Remote.StatusInTime peer limits) :
    (Remote.link stream clock frame).CopiesWrites .none PollLimits.served fits
      (Quiet view connected) (Quiet view connected) where
  now _ := trivial
  forget quiet := quiet
  program addr field := by
    apply (Channel.writeEach_follows
      (fun value answers => lossless.writeRegister_follows fronts answers value)
      fun _ member => (Device.plain_of_mem_addressWrites member).answers).bind
    intro _
    exact lossless.writePair_follows fronts (by decide) (by decide) field
  packedWrite addr field _ small := lossless.packedWrite_follows fronts addr field small
  command c := lossless.writeRegister_follows fronts (by decide) c.code
  announce field := lossless.writePair_follows fronts (by decide) (by decide) field
  writeBulk small := lossless.writeBulk_follows fronts small
  pollStatus {reg} expected _ status inTime :=
    lossless.pollRegister_follows fronts (minute inTime reg status) expected status.answers
  idleClock := lossless.idleClock_follows fronts

/-- A link over a stream copies the device at the far end as long as its waits are in time. -/
theorem copies (paused : ∀ length s t, connected s t [] → connected (clock.pause length s) t []) :
    (Remote.link stream clock frame).Copies .none PollLimits.served
      (Remote.InTime stream clock frame peer) (Quiet view connected) (Quiet view connected) where
  toCopiesWrites := lossless.copiesWrites fronts fun inTime => inTime.status
  readBulk small := lossless.readBulk_agree fronts small
  pollCount {limits} accept inTime := by
    have reads : Follows (Quiet view connected)
        ((Remote.link stream clock frame).readPair Register.countLo)
        (Device.link.readPair Register.countLo) :=
      lossless.readPair_follows fronts (by decide) (by decide)
    rcases Nat.eq_zero_or_pos limits.timeout with none | positive
    · rw [poll_once (.inr none), poll_once (.inr none)]
      exact reads.bind fun _ => Follows.pure _
    · refine poll_punctual_follows (inTime.count positive) (punctual_still positive) rfl reads ?_
      rintro s d ⟨t, facing, rfl⟩
      rw [Clock.paused_still]
      exact ⟨t, Clock.paused_keeps (P := (connected · t [])) (fun length s => paused length s t)
        facing, rfl⟩

end ByteStream.Lossless

end LineBridge

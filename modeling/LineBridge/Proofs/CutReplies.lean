import Mathlib
import LineBridge.Proofs.AdapterTraffic
import LineBridge.Proofs.FramedStreams
import LineBridge.Proofs.Metering
import LineBridge.Proofs.MirroredCalls

/-! Replies in pieces. An adapter has its replies one byte after another; a stream in front of it may
hand them over in pieces of any size. What is received does not depend on the pieces: it is the next
bytes in order, as many as were asked for, unless the replies end or fail before that. So two streams
that cut the replies of one adapter in different ways are in step, whatever is asked of them. -/

namespace LineBridge

open LineBridge.Action (Agree Ends Follows)

variable {σ τ υ α : Type}

/-- A computation whose faults are those of a link. -/
def Action.ofLink (step : σ → Except LinkFault α × σ) : Action σ α := fun s =>
  ((step s).1.mapError .link, (step s).2)

/-- Something that takes bytes and has replies, one byte after another. -/
structure ReplySource (υ : Type) where
  write : Bytes → υ → Except LinkFault Unit × υ
  flush : υ → Except LinkFault Unit × υ
  /-- The next byte, or none where the replies end. -/
  next : υ → Except LinkFault (Option UInt8) × υ

namespace ReplySource

variable (source : ReplySource υ)

/-- From `u` on the next replies are these bytes, and they leave the source in `u'`. -/
inductive Gives : υ → Bytes → υ → Prop
  | none (u : υ) : Gives u [] u
  | next {u u' u'' : υ} {byte : UInt8} {rest : Bytes} (ran : source.next u = (.ok (some byte), u'))
    (later : Gives u' rest u'') : Gives u (byte :: rest) u''

/-- The replies end or fail before there are `len` bytes. -/
def StopsBefore (len : Nat) (u : υ) : Prop :=
  ∃ bytes u', source.Gives u bytes u' ∧ bytes.length < len ∧
    ∀ byte, (source.next u').1 ≠ .ok (some byte)

/-- How a receipt of `len` bytes ends, and where it leaves the source. -/
inductive Receipt (u : υ) (len : Nat) : Except Fault Bytes → υ → Prop
  | whole {bytes : Bytes} {u' : υ} (gives : source.Gives u bytes u') (all : bytes.length = len) :
    Receipt u len (.ok bytes) u'
  | ended {bytes : Bytes} {u' u'' : υ} (gives : source.Gives u bytes u')
    (short : bytes.length < len) (stops : source.next u' = (.ok none, u'')) :
    Receipt u len (.error (.link (.shortReceive bytes.length len))) u''
  | failed {bytes : Bytes} {u' u'' : υ} {cause : LinkFault} (gives : source.Gives u bytes u')
    (short : bytes.length < len) (stops : source.next u' = (.error cause, u'')) :
    Receipt u len (.error (.link cause)) u''

/-- Takes replies byte by byte until there are `len` of them or they end. -/
def collect : Nat → Action υ Bytes
  | 0 => pure []
  | len + 1 => do
    match ← Action.ofLink source.next with
    | none => pure []
    | some byte => do
      let rest ← collect len
      pure (byte :: rest)

/-- Gives bytes to the source and has it pass them on. -/
def send (bytes : Bytes) : Action υ Unit := do
  Action.ofLink (source.write bytes)
  Action.ofLink source.flush

variable {source}

theorem run_next {u u' : υ} {reply : Option UInt8} (ran : source.next u = (.ok reply, u')) :
    (Action.ofLink source.next).run u = (.ok reply, u') := by
  show ((source.next u).1.mapError _, (source.next u).2) = _
  rw [ran]
  rfl

theorem run_next_error {u u' : υ} {cause : LinkFault} (ran : source.next u = (.error cause, u')) :
    (Action.ofLink source.next).run u = (.error (.link cause), u') := by
  show ((source.next u).1.mapError _, (source.next u).2) = _
  rw [ran]
  rfl

theorem run_collect_ended {u u' : υ} (ran : source.next u = (.ok none, u')) (len : Nat) :
    (source.collect (len + 1)).run u = (.ok [], u') := by
  rw [collect, Action.run_bind_ok (run_next ran)]
  rfl

theorem run_collect_failed {u u' : υ} {cause : LinkFault}
    (ran : source.next u = (.error cause, u')) (len : Nat) :
    (source.collect (len + 1)).run u = (.error (.link cause), u') := by
  rw [collect, Action.run_bind_error (run_next_error ran)]

/-- What the source is known to give comes first. -/
theorem Gives.run_collect {u u' : υ} {bytes : Bytes} (gives : source.Gives u bytes u')
    (len : Nat) :
    (source.collect (bytes.length + len)).run u =
      ((bytes ++ ·) <$> source.collect len).run u' := by
  induction gives with
  | none u =>
    rw [List.length_nil, Nat.zero_add]
    exact congrArg (Action.run · u) (id_map (source.collect len)).symm
  | @next u u' u'' byte rest ran later ih =>
    rw [List.length_cons, Nat.add_right_comm, collect, Action.run_bind_ok (run_next ran)]
    dsimp only
    rw [Action.run_bind, ih, map_eq_pure_bind, map_eq_pure_bind, Action.run_bind, Action.run_bind]
    rcases (source.collect len).run u'' with ⟨_ | _, _⟩ <;> rfl

theorem Gives.run_collect_whole {u u' : υ} {bytes : Bytes} (gives : source.Gives u bytes u') :
    (source.collect bytes.length).run u = (.ok bytes, u') := by
  have run := gives.run_collect 0
  rw [Nat.add_zero] at run
  rw [run, map_eq_pure_bind, collect, pure_bind, List.append_nil]
  rfl

/-- The replies give out somewhere, or there are enough of them. -/
theorem exists_gives (len : Nat) (u : υ) :
    ∃ bytes u', source.Gives u bytes u' ∧ bytes.length ≤ len ∧
      (bytes.length < len → ∀ byte, (source.next u').1 ≠ .ok (some byte)) := by
  induction len generalizing u with
  | zero => exact ⟨[], u, .none u, le_rfl, fun no => absurd no (Nat.not_lt_zero _)⟩
  | succ len ih =>
    by_cases more : ∃ byte, (source.next u).1 = .ok (some byte)
    · obtain ⟨byte, shown⟩ := more
      obtain ⟨bytes, u', gives, fits, stops⟩ := ih (source.next u).2
      refine ⟨byte :: bytes, u', .next (Prod.ext shown rfl) gives, Nat.succ_le_succ fits, ?_⟩
      exact fun short => stops (Nat.lt_of_succ_lt_succ short)
    · exact ⟨[], u, .none u, Nat.zero_le _, fun _ byte shown => more ⟨byte, shown⟩⟩

/-- What is put together is a receipt, short or whole. -/
theorem receipt_collect (len : Nat) (u : υ) :
    ∃ outcome u', source.Receipt u len outcome u' ∧
      (do
        let got ← source.collect len
        if got.length < len then Action.fail (.link (.shortReceive got.length len))
        else pure got).run u = (outcome, u') := by
  obtain ⟨bytes, u', gives, fits, stops⟩ := source.exists_gives len u
  by_cases short : bytes.length < len
  · obtain ⟨more, left⟩ : ∃ more, len = bytes.length + (more + 1) :=
      ⟨len - bytes.length - 1, by omega⟩
    have run := gives.run_collect (more + 1)
    rw [← left, map_eq_pure_bind] at run
    cases next : source.next u' with
    | mk reply u'' =>
      rcases reply with cause | _ | byte
      · rw [Action.run_bind_error (run_collect_failed next more)] at run
        exact ⟨_, u'', .failed gives short next, Action.run_bind_error run⟩
      · rw [Action.run_bind_ok (run_collect_ended next more), List.append_nil] at run
        refine ⟨_, u'', .ended gives short next, ?_⟩
        rw [Action.run_bind_ok run, if_pos short]
        rfl
      · exact absurd (congrArg Prod.fst next) (stops short byte)
  · have whole : bytes.length = len := by omega
    subst whole
    refine ⟨_, u', .whole gives rfl, ?_⟩
    rw [Action.run_bind_ok gives.run_collect_whole, if_neg short]
    rfl

/-- What a source gives is settled, and so is whether it goes on. -/
theorem Gives.not_stopsBefore {u u' : υ} {bytes : Bytes} (gives : source.Gives u bytes u') :
    ¬ source.StopsBefore bytes.length u := by
  rintro ⟨part, v, given, short, stops⟩
  induction given generalizing bytes with
  | none u =>
    cases gives with
    | none => exact absurd short (Nat.lt_irrefl _)
    | next ran later => exact stops _ (congrArg Prod.fst ran)
  | next ran _ ih =>
    cases gives with
    | none => exact absurd short (Nat.not_lt_zero _)
    | next ran' later =>
      obtain ⟨-, rfl⟩ := Prod.mk.inj (ran.symm.trans ran')
      exact ih later (Nat.lt_of_succ_lt_succ short) stops

/-- A receipt ends in a fault just where the replies stop too early. -/
theorem Receipt.isOk_iff {u u' : υ} {len : Nat} {outcome : Except Fault Bytes}
    (receipt : source.Receipt u len outcome u') :
    outcome.isOk = false ↔ source.StopsBefore len u := by
  cases receipt with
  | whole gives all =>
    subst all
    exact iff_of_false nofun gives.not_stopsBefore
  | ended gives short stops =>
    refine iff_of_true rfl ⟨_, _, gives, short, fun byte more => ?_⟩
    rw [stops] at more
    cases more
  | failed gives short stops =>
    refine iff_of_true rfl ⟨_, _, gives, short, fun byte more => ?_⟩
    rw [stops] at more
    cases more

/-- The same source, with a record of what it has taken, the newest first. -/
def recorded (source : ReplySource υ) : ReplySource (υ × List Bytes) where
  write bytes v := match source.write bytes v.1 with
    | (.ok (), u) => (.ok (), u, bytes :: v.2)
    | (.error cause, u) => (.error cause, u, v.2)
  flush v := ((source.flush v.1).1, (source.flush v.1).2, v.2)
  next v := ((source.next v.1).1, (source.next v.1).2, v.2)

theorem Gives.recorded {u u' : υ} {bytes : Bytes} (gives : source.Gives u bytes u')
    (taken : List Bytes) : source.recorded.Gives (u, taken) bytes (u', taken) := by
  induction gives with
  | none u => exact .none _
  | next ran _ ih => exact .next (by simp only [ReplySource.recorded, ran]) ih

end ReplySource

/-- A stream in front of a source: it takes what the source takes, and hands over what the source
gives, some of it at a time. -/
structure ByteStream.Cuts (stream : ByteStream σ) (source : ReplySource υ) (R : σ → υ → Prop) :
    Prop where
  write : ∀ bytes, Follows R (stream.write bytes) (.ofLink (source.write bytes))
  flush : Follows R stream.flush (.ofLink source.flush)
  read : ∀ count u, 0 < count → Ends (R · u) (stream.read count)
    (fun got s => got.length ≤ count ∧ ∃ u', R s u' ∧
      ((got ≠ [] ∧ source.Gives u got u') ∨ (got = [] ∧ source.next u = (.ok none, u'))))
    (fun e s => ∃ cause u', e = .link cause ∧ R s u' ∧ source.next u = (.error cause, u'))

namespace ByteStream

section Cuts

variable {stream : ByteStream σ} {source : ReplySource υ} {R : σ → υ → Prop}
  (cuts : stream.Cuts source R)
include cuts

/-- However the stream cuts the replies, they are put together as the source has them. -/
theorem Cuts.collectFrom_follows {count : Nat} {got : Array UInt8} (part : got.size ≤ count) :
    Follows R (stream.collectFrom count got)
      ((got.toList ++ ·) <$> source.collect (count - got.size)) := by
  -- on what is still missing: every piece but the last has some of it
  induction missing : count - got.size using Nat.strongRecOn generalizing got with
  | ind missing ih =>
    subst missing
    rw [collectFrom]
    split
    · next short =>
      obtain ⟨more, left⟩ : ∃ more, count - got.size = more + 1 := ⟨count - got.size - 1, by omega⟩
      intro s u related
      have ending := cuts.read (count - got.size) u (by omega) s related
      cases ran : (stream.read (count - got.size)).run s with
      | mk outcome s' =>
        rw [ran] at ending
        cases outcome with
        | error e =>
          obtain ⟨cause, u', rfl, after, stops⟩ := ending
          refine ⟨.error (.link cause), s', u', Action.run_bind_error ran, ?_, after⟩
          rw [left, map_eq_pure_bind, Action.run_bind_error (ReplySource.run_collect_failed stops _)]
        | ok piece =>
          obtain ⟨fits, u', after, ⟨some, gives⟩ | ⟨rfl, stops⟩⟩ := ending
          · have positive : piece.length ≠ 0 := fun none => some (List.length_eq_zero_iff.mp none)
            have grown := Bytes.size_append got piece
            have rest : count - got.size = piece.length + (count - (got ++ piece).size) := by omega
            have later := ih (count - (got ++ piece).size) (by omega) (by omega) rfl s' u' after
            rw [Action.run_bind_ok ran, if_neg positive, rest, map_eq_pure_bind, Action.run_bind,
              gives.run_collect, ← Action.run_bind, ← map_eq_pure_bind, Functor.map_map]
            simpa only [Array.toList_appendList, List.append_assoc] using later
          · refine ⟨.ok got.toList, s', u', Action.run_bind_ok ran, ?_, after⟩
            rw [left, map_eq_pure_bind, Action.run_bind_ok (ReplySource.run_collect_ended stops _),
              List.append_nil]
            rfl
    · next whole =>
      have none : count - got.size = 0 := by omega
      rw [none, ReplySource.collect, map_pure, List.append_nil]
      exact Follows.pure _

theorem Cuts.collect_follows (len : Nat) : Follows R (stream.collect len) (source.collect len) := by
  have part : (#[] : Array UInt8).size ≤ len := Nat.zero_le len
  have follows := cuts.collectFrom_follows part
  exact (congrArg (Follows R (stream.collect len)) (id_map (source.collect len))).mp follows

theorem Cuts.send_follows {bytes : Bytes} (some : bytes ≠ []) :
    Follows R (stream.send bytes) (source.send bytes) := by
  have nonempty : ¬bytes.isEmpty := fun none => some (List.isEmpty_iff.mp none)
  rw [ByteStream.send, if_neg nonempty]
  exact (cuts.write bytes).bind fun _ => cuts.flush

end Cuts

/-- Two streams that take the same and hand over the same, however they cut it. -/
structure InStep (stream : ByteStream σ) (stream' : ByteStream τ) (T : σ → τ → Prop) : Prop where
  write : ∀ bytes, Follows T (stream.write bytes) (stream'.write bytes)
  flush : Follows T stream.flush stream'.flush
  collect : ∀ len, Follows T (stream.collect len) (stream'.collect len)

/-- Streams that cut the replies of the same source are in step. -/
theorem Cuts.inStep {stream : ByteStream σ} {stream' : ByteStream τ} {source : ReplySource υ}
    {R : σ → υ → Prop} {R' : τ → υ → Prop} (cuts : stream.Cuts source R)
    (cuts' : stream'.Cuts source R') :
    InStep stream stream' fun s t => ∃ u, R s u ∧ R' t u where
  write bytes := (cuts.write bytes).meet (cuts'.write bytes)
  flush := cuts.flush.meet cuts'.flush
  collect len := (cuts.collect_follows len).meet (cuts'.collect_follows len)

/-- The meter shows what the source records. -/
def Recording (R : σ → υ → Prop) (m : Metered σ) (v : υ × List Bytes) : Prop :=
  R m.inner v.1 ∧ m.meter.sent = v.2

/-- What goes on behind a meter is not recorded. -/
theorem onInner_follows {R : σ → υ → Prop} {x : Action σ α} {y : Action υ α}
    (follows : Follows R x y) :
    Follows (Recording R) (Metered.onInner x) (Action.on Prod.fst (fun u v => (u, v.2)) y) :=
  Agree.on follows (fun _ _ related => related.1) (fun _ _ _ _ _ before after => ⟨after, before.2⟩)
    fun _ _ _ _ before after => ⟨after, before.2⟩

theorem run_metered_read (stream : ByteStream σ) (count : Nat) (m : Metered σ) :
    (stream.metered.read count).run m = match (stream.read count).run m.inner with
      | (.ok got, s) => (.ok got, ⟨s, m.meter.addTaken got⟩)
      | (.error e, s) => (.error e, ⟨s, m.meter⟩) := by
  change ((Metered.onInner (stream.read count)) >>= _).run m = _
  rw [Action.run_bind, Metered.onInner, Action.run_on]
  rcases (stream.read count).run m.inner with ⟨_ | _, _⟩ <;> rfl

theorem Cuts.metered {stream : ByteStream σ} {source : ReplySource υ} {R : σ → υ → Prop}
    (cuts : stream.Cuts source R) : stream.metered.Cuts source.recorded (Recording R) where
  write bytes := by
    have recorded : Action.ofLink (source.recorded.write bytes) = (do
        Action.on Prod.fst (fun u v => (u, v.2)) (Action.ofLink (source.write bytes))
        Action.modify fun v => (v.1, bytes :: v.2)) := by
      funext v
      change _ = (Action.run (_ >>= _) v)
      rw [Action.run_bind, Action.run_on]
      simp only [Action.ofLink, ReplySource.recorded, Action.run]
      rcases source.write bytes v.1 with ⟨_ | _, u⟩ <;> rfl
    rw [recorded]
    apply (onInner_follows (cuts.write bytes)).bind
    intro _
    exact Agree.modify fun m v related => ⟨related.1, congrArg (bytes :: ·) related.2⟩
  flush := by
    have recorded : Action.ofLink source.recorded.flush = (do
        Action.on Prod.fst (fun u v => (u, v.2)) (Action.ofLink source.flush)
        Action.modify id) := by
      funext v
      change _ = (Action.run (_ >>= _) v)
      rw [Action.run_bind, Action.run_on]
      simp only [Action.ofLink, ReplySource.recorded, Action.run]
      rcases source.flush v.1 with ⟨_ | _, u⟩ <;> rfl
    rw [recorded]
    apply (onInner_follows cuts.flush).bind
    intro _
    exact Agree.modify fun m v related => related
  read count v some := by
    rintro m ⟨related, same⟩
    have ending := cuts.read count v.1 some m.inner related
    rw [run_metered_read]
    cases ran : (stream.read count).run m.inner with
    | mk outcome s =>
      rw [ran] at ending
      cases outcome with
      | error e =>
        obtain ⟨cause, u', rfl, after, stops⟩ := ending
        exact ⟨cause, (u', v.2), rfl, ⟨after, same⟩, by simp only [ReplySource.recorded, stops]⟩
      | ok got =>
        obtain ⟨fits, u', after, ⟨nonempty, gives⟩ | ⟨rfl, stops⟩⟩ := ending
        · exact ⟨fits, (u', v.2), ⟨after, same⟩, .inl ⟨nonempty, gives.recorded v.2⟩⟩
        · refine ⟨fits, (u', v.2), ⟨after, same⟩, .inr ⟨rfl, ?_⟩⟩
          simp only [ReplySource.recorded, stops]

theorem metered_read_pieces (stream : ByteStream σ) (count missing pieces : Nat) :
    Ends (fun m : Metered σ => m.meter.taken.length + missing ≤ pieces) (stream.metered.read count)
      (fun _ m => m.meter.taken.length + missing ≤ pieces + 1)
      (fun _ m => m.meter.taken.length + missing ≤ pieces) := by
  intro m room
  rw [run_metered_read]
  rcases (stream.read count).run m.inner with ⟨_ | got, s⟩
  · exact room
  · show m.meter.taken.length + 1 + missing ≤ pieces + 1
    omega

/-- No more pieces are taken than bytes are missing. -/
theorem collectFrom_pieces (stream : ByteStream σ) (count pieces : Nat) (got : Array UInt8) :
    Ends (fun m : Metered σ => m.meter.taken.length + (count - got.size) ≤ pieces)
      (stream.metered.collectFrom count got) (fun _ m => m.meter.taken.length ≤ pieces)
      (fun _ m => m.meter.taken.length ≤ pieces) := by
  -- on what is still missing: a piece with nothing in it is the last one
  induction missing : count - got.size using Nat.strongRecOn generalizing got with
  | ind missing ih =>
    subst missing
    rw [collectFrom]
    split
    · next short =>
      have taken := metered_read_pieces stream (count - got.size) (count - got.size) pieces
      refine (taken.onFault fun e m room => by omega).bind fun piece => ?_
      have grown := Bytes.size_append got piece
      split
      · exact Ends.pure fun m room => by omega
      · next some =>
        have later := ih (count - (got ++ piece).size) (by omega) (got ++ piece) rfl
        exact later.weaken (fun m room => by omega) (fun _ _ after => after) fun _ _ after => after
    · exact Ends.pure fun m room => by omega

/-- What is sent does not count as taken. -/
theorem metered_send_pieces (stream : ByteStream σ) (bytes : Bytes) (pieces : Nat) :
    Ends (fun m : Metered σ => m.meter.taken.length = pieces) (stream.metered.send bytes)
      (fun _ m => m.meter.taken.length = pieces) (fun _ m => m.meter.taken.length = pieces) := by
  have behind (x : Action σ Unit) : Ends (fun m : Metered σ => m.meter.taken.length = pieces)
      (Metered.onInner x) (fun _ m => m.meter.taken.length = pieces)
      (fun _ m => m.meter.taken.length = pieces) := by
    intro m same
    rw [Metered.onInner, Action.run_on]
    rcases x.run m.inner with ⟨_ | _, s⟩ <;> exact same
  have flushed : Ends (fun m : Metered σ => m.meter.taken.length = pieces) stream.metered.flush
      (fun _ m => m.meter.taken.length = pieces) (fun _ m => m.meter.taken.length = pieces) :=
    (behind stream.flush).bind fun _ => Ends.modify fun _ same => same
  rw [send]
  split
  · exact flushed
  · have written := (behind (stream.write bytes)).bind (f := fun _ => Metered.count (·.addSent bytes))
      (R := fun _ m => m.meter.taken.length = pieces) fun _ => Ends.modify fun _ same => same
    exact written.bind fun _ => flushed

theorem InStep.send {stream : ByteStream σ} {stream' : ByteStream τ} {T : σ → τ → Prop}
    (step : stream.InStep stream' T) (bytes : Bytes) :
    Follows T (stream.send bytes) (stream'.send bytes) := by
  rw [ByteStream.send, ByteStream.send]
  by_cases none : bytes.isEmpty
  · simpa only [if_pos none] using step.flush
  · simpa only [if_neg none] using (step.write bytes).bind fun _ => step.flush

end ByteStream

/-- It does not look at the clock. -/
def LinkCall.Untimed : LinkCall → Prop
  | pollRegister .. => False
  | _ => True

namespace Spi

open ByteStream (InStep Cuts)

variable {stream : ByteStream σ} {stream' : ByteStream τ} {T : σ → τ → Prop}

section InStep

variable (step : stream.InStep stream' T)
include step

theorem sendAndReceive_follows (commands : Bytes) (len : Nat) :
    Follows T (sendAndReceive stream commands len) (sendAndReceive stream' commands len) := by
  apply (step.send _).bind
  intro _
  apply (step.collect len).bind
  intro got
  by_cases short : got.length < len
  · simpa only [if_pos short] using Follows.fail _
  · simpa only [if_neg short] using Follows.pure _

theorem sendEach_follows (frames : List Bytes) :
    Follows T (sendEach stream frames) (sendEach stream' frames) := by
  induction frames with
  | nil => exact Follows.pure ()
  | cons commands rest ih => exact (step.send commands).bind fun _ => ih

theorem readChunks_follows {chunk : Nat} (positive : 0 < chunk) (left : Nat) (done : List Bytes) :
    Follows T (readChunks stream chunk positive left done)
      (readChunks stream' chunk positive left done) := by
  induction left using Nat.strongRecOn generalizing done with
  | ind left ih =>
    rw [readChunks, readChunks]
    split
    · exact Follows.pure _
    · next some =>
      apply (sendAndReceive_follows step _ _).bind
      intro data
      exact ih (left - min left chunk) (by omega) (data :: done)

/-- Every use of a link goes alike over streams in step. -/
theorem perform_follows (clock : Clock σ) (clock' : Clock τ) (s : Settings) {call : LinkCall}
    (untimed : call.Untimed) :
    Follows T (call.perform (link stream clock s)) (call.perform (link stream' clock' s)) := by
  cases call with
  | writeRegister reg value => exact (step.send (writeRegisterFrame reg value)).map _
  | readRegister reg =>
    exact ((sendAndReceive_follows step _ 1).bind fun got => Follows.pure (got.headD 0)).map _
  | writeBulk data => exact (sendEach_follows step _).map _
  | readBulk count => exact (readChunks_follows step _ count []).map _
  | idleClock cycles =>
    refine Follows.map _ ?_
    by_cases none : cycles = 0
    · simpa only [link, channel, Channel.link, if_pos none] using Follows.pure ()
    · simpa only [link, channel, Channel.link, if_neg none] using step.send _
  | writePair lo value =>
    refine Follows.map _ ((step.send (writeRegisterFrame lo (lowByte value))).bind fun _ => ?_)
    refine Agree.ofExcept_then (fun hi _ => ?_) fun _ _ related => related
    exact step.send (writeRegisterFrame hi (highByte value))
  | readPair lo =>
    refine Follows.map _ (Agree.ofExcept_then (fun hi _ => ?_) fun _ _ related => related)
    exact (sendAndReceive_follows step _ 2).bind fun got =>
      Follows.pure (joinBytes (got.headD 0) (got.tail.headD 0))
  | pollRegister reg expected limits => exact untimed.elim
  | packedWrite addr field payload =>
    exact (step.send (packedFrames s.clamped.maxChunk addr field payload)).map _

end InStep

/-- A receipt over a stream is a receipt of what the source has once it was asked. -/
theorem sendAndReceive_receipt {source : ReplySource υ} {R : σ → υ → Prop}
    (cuts : stream.Cuts source R) (commands : Bytes) (len : Nat) {state : σ} {u u₁ : υ}
    (related : R state u)
    (asked : (source.send (commands ++ [Opcode.sendImmediate])).run u = (.ok (), u₁)) :
    ∃ outcome state' u₂, (sendAndReceive stream commands len).run state = (outcome, state') ∧
      R state' u₂ ∧ source.Receipt u₁ len outcome u₂ := by
  have received : Follows R (sendAndReceive stream commands len) (do
      source.send (commands ++ [Opcode.sendImmediate])
      let got ← source.collect len
      if got.length < len then Action.fail (.link (.shortReceive got.length len))
      else pure got) := by
    apply (cuts.send_follows (List.append_ne_nil_of_right_ne_nil _ (List.cons_ne_nil _ _))).bind
    intro _
    apply (cuts.collect_follows len).bind
    intro got
    split
    · exact Follows.fail _
    · exact Follows.pure _
  obtain ⟨outcome, u₂, receipt, ran⟩ := source.receipt_collect len u₁
  obtain ⟨same, after⟩ := received.alike related
  rw [Action.run_bind_ok asked, ran] at same after
  exact ⟨outcome, _, u₂, Prod.ext same rfl, after, receipt⟩

theorem sendAndReceive_pieces (stream : ByteStream σ) (commands : Bytes) (len pieces : Nat) :
    Ends (fun m : Metered σ => m.meter.taken.length = pieces)
      (sendAndReceive stream.metered commands len)
      (fun _ m => m.meter.taken.length ≤ pieces + len)
      (fun _ m => m.meter.taken.length ≤ pieces + len) := by
  have sent := stream.metered_send_pieces (commands ++ [Opcode.sendImmediate]) pieces
  refine (sent.onFault fun e m same => by omega).bind fun _ => ?_
  have collected := stream.collectFrom_pieces len (pieces + len) #[]
  have room (m : Metered σ) (same : m.meter.taken.length = pieces) :
      m.meter.taken.length + (len - (#[] : Array UInt8).size) ≤ pieces + len := by
    rw [same, Array.size_empty, Nat.sub_zero]
  refine (collected.weaken room (fun _ _ after => after) fun _ _ after => after).bind fun got => ?_
  split
  · exact Ends.fail fun _ after => after
  · exact Ends.pure fun _ after => after

/-- Whatever an adapter's replies are, and however two streams cut them into pieces, every use of
a link has the same outcome over both and sends the same bytes. What is received is the next bytes
of the replies, in order; it falls short just where they end or fail too early, and there it says
how far it came; and it is there after at most as many reads as it has bytes. -/
theorem receipts_of_cuts {stream : ByteStream σ} {stream' : ByteStream τ}
    {source : ReplySource υ} {R : σ → υ → Prop} {R' : τ → υ → Prop} (cuts : stream.Cuts source R)
    (cuts' : stream'.Cuts source R') (clock : Clock (Metered σ)) (clock' : Clock (Metered τ))
    (s : Settings) :
    (∀ (calls : List LinkCall) (m : Metered σ) (n : Metered τ) (u : υ),
      (∀ call ∈ calls, call.Untimed) → R m.inner u → R' n.inner u → m.meter.sent = n.meter.sent →
      let run := Action.runEach (LinkCall.perform (link stream.metered clock s)) calls m
      let run' := Action.runEach (LinkCall.perform (link stream'.metered clock' s)) calls n
      run.1 = run'.1 ∧ run.2.meter.sent = run'.2.meter.sent ∧
        ∃ u', R run.2.inner u' ∧ R' run'.2.inner u') ∧
    (∀ (commands : Bytes) (len : Nat) (state : σ) (u u₁ : υ), R state u →
      (source.send (commands ++ [Opcode.sendImmediate])).run u = (.ok (), u₁) →
      ∃ outcome state' u₂, (sendAndReceive stream commands len).run state = (outcome, state') ∧
        R state' u₂ ∧ source.Receipt u₁ len outcome u₂ ∧
        (outcome.isOk = false ↔ source.StopsBefore len u₁)) ∧
    ∀ (commands : Bytes) (len : Nat) (m : Metered σ),
      ((sendAndReceive stream.metered commands len).run m).2.meter.taken.length ≤
        m.meter.taken.length + len := by
  refine ⟨?_, ?_, ?_⟩
  · intro calls m n u untimed related related' same
    have step := cuts.metered.inStep cuts'.metered
    obtain ⟨outcomes, v, ⟨after, recorded⟩, after', recorded'⟩ :=
      Agree.runEach (fun call member => perform_follows step clock clock' s (untimed call member))
        ⟨(u, m.meter.sent), ⟨related, rfl⟩, related', same.symm⟩
    exact ⟨outcomes, recorded.trans recorded'.symm, v.1, after, after'⟩
  · intro commands len state u u₁ related asked
    obtain ⟨outcome, state', u₂, ran, after, receipt⟩ :=
      sendAndReceive_receipt cuts commands len related asked
    exact ⟨outcome, state', u₂, ran, after, receipt, receipt.isOk_iff⟩
  · intro commands len m
    exact (sendAndReceive_pieces stream commands len m.meter.taken.length).state rfl

end Spi

/-- Prepared replies, and anything is taken. -/
def ReplySource.prepared : ReplySource Bytes where
  write _ left := (.ok (), left)
  flush left := (.ok (), left)
  next
    | [] => (.ok none, [])
    | byte :: left => (.ok (some byte), left)

theorem ReplySource.gives_prepared (bytes left : Bytes) :
    prepared.Gives (bytes ++ left) bytes left := by
  induction bytes with
  | nil => exact .none left
  | cons byte rest ih => exact .next rfl ih

namespace Bench.Tape

/-- A tape on which nothing fails cuts what is on it. -/
theorem cuts : stream.Cuts .prepared fun t left => t.Leaves left ∧ t.failWrite = none where
  write := by
    rintro bytes t left ⟨leaves, sound⟩
    exact ⟨.ok (), _, left, run_write sound bytes, rfl, ⟨leaves.incoming, leaves.sound, leaves.moving⟩, sound⟩
  flush := by
    rintro t left ⟨leaves, sound⟩
    exact ⟨.ok (), _, left, rfl, rfl, ⟨leaves.incoming, leaves.sound, leaves.moving⟩, sound⟩
  read := by
    rintro count _ positive t ⟨⟨rfl, unfailing, moving⟩, sound⟩
    rw [run_read unfailing]
    have some := portion_pos moving positive
    refine ⟨?_, t.incoming.drop (t.portion count), ⟨⟨rfl, unfailing, moving⟩, sound⟩, ?_⟩
    · exact (List.length_take_le _ _).trans (t.portion_le count)
    · by_cases none : t.incoming = []
      · refine .inr ⟨by rw [none, List.take_nil], ?_⟩
        rw [none, List.drop_nil]
        rfl
      · refine .inl ⟨fun empty => ?_, ?_⟩
        · exact (List.take_eq_nil_iff.mp empty).elim (Nat.ne_of_gt some) none
        · conv => 
            arg 2
            rw [← List.take_append_drop (t.portion count) t.incoming]
          exact ReplySource.gives_prepared _ _

end Bench.Tape

namespace Spi

/-- Five replies, whole and byte by byte, and a last read that asks for more than there is. -/
theorem receipts_of_cuts_tapes :
    let calls : List LinkCall := [.readPair 9, .writeBulk [1, 2], .readBulk 2, .readBulk 4]
    let whole : Bench.Tape := { incoming := [7, 8, 9, 10, 11] }
    let single : Bench.Tape := { incoming := [7, 8, 9, 10, 11], readLimit := some 1 }
    let perform := LinkCall.perform (link Bench.Tape.stream.metered .still {})
    let run := Action.runEach perform calls ⟨whole, {}⟩
    let run' := Action.runEach perform calls ⟨single, {}⟩
    (∀ call ∈ calls, call.Untimed) ∧ run.1 = run'.1 ∧
      run.1 = [.ok (.word 0x0807), .ok .done, .ok (.bytes [9, 10]),
        .error (.link (.shortReceive 1 4))] ∧
      run.2.meter.sent = run'.2.meter.sent ∧
      (run.2.meter.taken.length, run'.2.meter.taken.length) = (4, 6) ∧
      ∃ outcome tape left,
        (sendAndReceive Bench.Tape.stream [] 6).run single = (outcome, tape) ∧
        tape.Leaves left ∧ ReplySource.prepared.Receipt single.incoming 6 outcome left ∧
        (outcome.isOk = false ↔ ReplySource.prepared.StopsBefore 6 single.incoming) := by
  intro calls whole single perform run run'
  have untimed : ∀ call ∈ calls, call.Untimed := by
    simp only [calls, List.forall_mem_cons, LinkCall.Untimed]
    exact ⟨trivial, trivial, trivial, trivial, List.forall_mem_nil _⟩
  obtain ⟨runs, receipts, -⟩ :=
    receipts_of_cuts Bench.Tape.cuts Bench.Tape.cuts .still .still {}
  obtain ⟨outcomes, sent, -⟩ := runs calls ⟨whole, {}⟩ ⟨single, {}⟩ whole.incoming untimed
    ⟨⟨rfl, rfl, nofun⟩, rfl⟩ ⟨⟨rfl, rfl, by decide⟩, rfl⟩ rfl
  obtain ⟨outcome, tape, left, ran, ⟨leaves, -⟩, receipt, short⟩ :=
    receipts [] 6 single single.incoming single.incoming ⟨⟨rfl, rfl, by decide⟩, rfl⟩ rfl
  refine ⟨untimed, outcomes, ?_, sent, ?_, outcome, tape, left, ran, leaves, receipt, short⟩
  · cbv
  · cbv

end Spi

end LineBridge

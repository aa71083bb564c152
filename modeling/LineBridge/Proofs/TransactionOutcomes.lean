import Mathlib
import LineBridge.Proofs.Courses
import LineBridge.Proofs.Sequences
import LineBridge.Proofs.Transactions

/-! How a transaction ends, as a function of what its channel replies. A channel that takes
whatever it is given and never fails can answer each register, and each request for bulk data, from
a sequence without end. The stages of a transaction that only write ask for nothing, and the others
take the courses of the replies that are left. -/

namespace LineBridge

open LineBridge.Action (Ends Preserves)

variable {σ α β : Type}

/-- A channel that answers what it is asked from given replies, one after another, and accepts
whatever else is done with it; `asked` shows what it has been asked for. -/
structure Channel.Recites (channel : Channel σ) (replies : Replies) (asked : σ → List Ask) :
    Prop where
  writeRegister : ∀ reg value l, Preserves (asked · = l) (fun _ _ => False)
    (channel.writeRegister reg value)
  readRegister : ∀ reg l, Ends (asked · = l) (channel.readRegister reg)
    (fun value s => value = replies.value reg (l.count (.register reg)) ∧
      asked s = l ++ [.register reg]) (fun _ _ => False)
  writeBulk : ∀ data l, Preserves (asked · = l) (fun _ _ => False) (channel.writeBulk data)
  readBulk : ∀ count l, Ends (asked · = l) (channel.readBulk count)
    (fun data s => data = replies.delivery (l.count .bulk) ∧ asked s = l ++ [.bulk])
    (fun _ _ => False)
  idleClock : ∀ cycles l, Preserves (asked · = l) (fun _ _ => False) (channel.idleClock cycles)
  pause : ∀ length s, asked (channel.clock.pause length s) = asked s

namespace Host

/-- A host whose channel has been asked for so much. -/
def Asking (asked : σ → List Ask) (limits : PollLimits) (flight : Option Addr) (l : List Ask)
    (h : Host σ) : Prop := (h.limits = limits ∧ h.inFlight = flight) ∧ asked h.state = l

/-- From where so much has been asked for, a computation takes a course. -/
def Takes (asked : σ → List Ask) (limits : PollLimits) (flight flight' : Option Addr)
    (l : List Ask) (x : Action (Host σ) α) (c : Course α) : Prop :=
  Ends (Asking asked limits flight l) x
    (fun a h => c.outcome = .ok a ∧ Asking asked limits flight' (l ++ c.asks) h)
    (fun e h => c.outcome = .error e ∧ asked h.state = l ++ c.asks)

/-- A computation that asks for nothing and does not fail. -/
def Silent (asked : σ → List Ask) (limits : PollLimits) (flight flight' : Option Addr)
    (x : Action (Host σ) α) : Prop :=
  ∀ l, Ends (Asking asked limits flight l) x (fun _ => Asking asked limits flight' l)
    (fun _ _ => False)

section Rules

variable {asked : σ → List Ask} {limits : PollLimits} {flight flight' flight'' : Option Addr}
  {l : List Ask}

theorem Takes.bind {x : Action (Host σ) α} {f : α → Action (Host σ) β} {c : Course α}
    {next : α → Course β} (first : Takes asked limits flight flight' l x c)
    (rest : ∀ a, c.outcome = .ok a →
      Takes asked limits flight' flight'' (l ++ c.asks) (f a) (next a)) :
    Takes asked limits flight flight'' l (x >>= f) (c.andThen next) := by
  refine Ends.bind (Ends.onFault first ?_) ?_
  · intro e h ⟨fault, place⟩
    rw [Course.andThen_of_error fault]
    exact ⟨rfl, place⟩
  · intro a h ⟨ok, place⟩
    rw [Course.andThen_of_ok ok, ← List.append_assoc]
    exact rest a ok h place

theorem Silent.then {x : Action (Host σ) α} {f : α → Action (Host σ) β} {c : Course β}
    (first : Silent asked limits flight flight' x)
    (rest : ∀ a, Takes asked limits flight' flight'' l (f a) c) :
    Takes asked limits flight flight'' l (x >>= f) c :=
  Ends.bind ((first l).onFault fun _ _ no => no.elim) rest

theorem Silent.bind {x : Action (Host σ) α} {f : α → Action (Host σ) β}
    (first : Silent asked limits flight flight' x)
    (rest : ∀ a, Silent asked limits flight' flight'' (f a)) :
    Silent asked limits flight flight'' (x >>= f) := fun l =>
  Ends.bind (first l) fun a => rest a l

theorem Silent.takes {x : Action (Host σ) Unit} (silent : Silent asked limits flight flight' x) :
    Takes asked limits flight flight' l x (Course.done ()) :=
  ((silent l).onFault fun _ _ no => no.elim).onValue fun _ _ place =>
    ⟨rfl, by simpa [Course.done] using place⟩

theorem takes_done (a : α) :
    Takes asked limits flight flight l (pure a) (Course.done a) :=
  Ends.pure fun _ before => ⟨rfl, by simpa [Course.done] using before⟩

theorem asking_onLink {x : Action σ α} {P : σ → Prop} {Q : α → σ → Prop} {E : Fault → σ → Prop}
    (own : Ends P x Q E) :
    Ends (fun h => (h.limits = limits ∧ h.inFlight = flight) ∧ P h.state) (onLink x)
      (fun a h => (h.limits = limits ∧ h.inFlight = flight) ∧ Q a h.state)
      (fun e h => (h.limits = limits ∧ h.inFlight = flight) ∧ E e h.state) :=
  Ends.on own (fun _ _ => rfl) fun _ _ same => same

theorem silent_onLink {x : Action σ α}
    (own : ∀ l, Preserves (asked · = l) (fun _ _ => False) x) :
    Silent asked limits flight flight (onLink x) := fun l =>
  (asking_onLink (own l)).onFault fun _ _ no => no.2

theorem silent_setInFlight (addr : Option Addr) :
    Silent asked limits flight addr (setInFlight addr) := fun _ =>
  Ends.modify fun _ before => ⟨⟨before.1.1, rfl⟩, before.2⟩

theorem silent_now (link : Link σ) : Silent asked limits flight flight (now link) :=
  fun _ _ before => before

theorem silent_endPhase (link : Link σ) (phase : Phase) (started : Nat) :
    Silent asked limits flight flight (endPhase link phase started) := by
  apply (silent_now link).bind
  intro t l
  refine Ends.modify fun h before => ?_
  split <;> exact before

end Rules

section Stages

variable {channel : Channel σ} {replies : Replies} {asked : σ → List Ask}
  (recites : channel.Recites replies asked) {limits : PollLimits} {flight : Option Addr}
include recites

theorem silent_writePair {lo : UInt8} (inside : lo ≠ 0xFF) (value : UInt16) :
    Silent asked limits flight flight (onLink (channel.link.writePair lo value)) :=
  silent_onLink fun l =>
    Channel.writePair_preserves (recites.writeRegister · · l) (absurd · inside) value

theorem silent_program (addr : Addr) (field : UInt16) :
    Silent asked limits flight (some addr) (program channel.link addr field) := by
  apply (silent_setInFlight (some addr)).bind
  intro _
  have writes := fun l => Channel.writeEach_preserves (recites.writeRegister · · l)
    (Channel.addressWrites addr)
  apply (silent_onLink writes).bind
  intro _
  exact silent_writePair recites (by decide) field

theorem silent_command (c : Command) :
    Silent asked limits flight flight (command channel.link c) :=
  silent_onLink (recites.writeRegister Register.cmd c.code)

theorem silent_finish : Silent asked limits flight none (finish channel.link) := by
  apply (silent_command recites .null).bind
  intro _ l
  apply Ends.get_then
  intro h _
  by_cases idles : 0 < h.idleCycles
  · rw [if_pos idles]
    exact ((silent_onLink (recites.idleClock h.idleCycles)).bind fun _ =>
      silent_setInFlight none) l
  · rw [if_neg idles]
    exact silent_setInFlight none l

theorem silent_bulkWrite {data : Bytes} (fits : data.length ≤ maxBulkBytes) :
    Silent asked limits flight flight (bulkWrite channel.link data) := by
  unfold bulkWrite
  rw [checkBulk_eq_ok_iff.mpr ⟨fits, rfl⟩]
  intro l
  apply Ends.ofExcept_ok
  split
  · exact Ends.pure fun _ before => before
  · exact ((silent_writePair recites (by decide) _).bind fun _ =>
      silent_onLink (recites.writeBulk data)) l

/-- The reads of a status answer in turn. -/
theorem pollStatus_ends {reg : UInt8}
    (punctual : Punctual channel.clock limits (channel.readRegister reg)) (l : List Ask) :
    Ends (asked · = l) (channel.pollRegister reg Status.done.code limits)
      (fun outcome s =>
        outcome = waitOn (· == Status.done.code) ((replies.after l).value reg) limits.reads ∧
        asked s = l ++ .replicate outcome.attempts (.register reg))
      fun _ _ => False := by
  let P (made : Nat) (s : σ) : Prop := asked s = l ++ .replicate made (.register reg)
  have step (made : Nat) : Ends (P made) (channel.readRegister reg)
      (fun value s => value = (replies.after l).value reg made ∧ P (made + 1) s)
      fun _ _ => False := by
    refine (recites.readRegister reg _).onValue ?_
    rintro value s ⟨rfl, place⟩
    refine ⟨?_, ?_⟩
    · simp only [Replies.after, List.count_append, List.count_replicate_self]
    · simpa [P, List.replicate_succ'] using place
  have polled : Ends (P 0) (channel.pollRegister reg Status.done.code limits) _ _ :=
    poll_waitOn punctual step fun made length s place => (recites.pause length s).trans place
  simpa [P] using polled

theorem waitDone_takes {reg : UInt8} (addr : Addr)
    (punctual : Punctual channel.clock limits (channel.readRegister reg)) (l : List Ask) :
    Takes asked limits flight flight l (waitDone channel.link reg addr)
      (Course.status reg addr ((replies.after l).value reg) limits.reads) := by
  apply Ends.get_then
  intro h before
  rw [before.1.1]
  apply Ends.bind ((asking_onLink (pollStatus_ends recites punctual l)).onFault
    fun _ _ no => no.2.elim)
  intro outcome
  cases outcome with
  | ready value attempts =>
    refine Ends.pure fun h' ⟨same, shown, place⟩ => ?_
    rw [Course.status_of_ready shown.symm]
    exact ⟨rfl, same, place⟩
  | exhausted last attempts =>
    dsimp only
    split
    · next broken =>
      refine Ends.fail fun h' ⟨same, shown, place⟩ => ?_
      rw [Course.status_of_exhausted shown.symm, if_pos broken]
      exact ⟨rfl, place⟩
    · next vain =>
      refine Ends.fail fun h' ⟨same, shown, place⟩ => ?_
      rw [Course.status_of_exhausted shown.symm, if_neg vain]
      exact ⟨rfl, place⟩

/-- The reads of a byte count answer in turn, each with one answer for either half. -/
theorem pollCount_ends
    (punctual : Punctual channel.clock limits (channel.readPair Register.countLo))
    (accept : UInt16 → Bool) (l : List Ask) :
    Ends (asked · = l) (poll channel.clock limits (channel.readPair Register.countLo) accept)
      (fun outcome s => outcome = waitOn accept (replies.after l).counts limits.reads ∧
        asked s = l ++ Course.countAsks outcome.attempts)
      fun _ _ => False := by
  let P (made : Nat) (s : σ) : Prop := asked s = l ++ Course.countAsks made
  have step (made : Nat) : Ends (P made) (channel.readPair Register.countLo)
      (fun value s => value = (replies.after l).counts made ∧ P (made + 1) s)
      fun _ _ => False := by
    rw [channel.readPair_eq (by decide)]
    apply Ends.bind (recites.readRegister Register.countLo _)
    intro low
    apply Ends.of_eq
    rintro s₁ ⟨rfl, place₁⟩
    refine Ends.bind ((recites.readRegister (Register.countLo + 1) _).weaken
      (fun s same => same ▸ place₁) (fun _ _ after => after) fun _ _ no => no) ?_
    intro high
    refine Ends.pure fun s ⟨same, place⟩ => ?_
    subst same
    refine ⟨?_, ?_⟩
    · simp [Replies.counts, Replies.after, List.count_append, Course.count_countAsks]
    · simpa [P, Course.countAsks_succ] using place
  have polled : Ends (P 0) (poll channel.clock limits (channel.readPair Register.countLo) accept)
      _ _ :=
    poll_waitOn punctual step fun made length s place => (recites.pause length s).trans place
  simpa [P, Course.countAsks] using polled

theorem waitCount_takes (addr : Addr) {bytes : Nat} (asks : 0 < bytes) (fits : bytes < UInt16.size)
    (punctual : Punctual channel.clock limits (channel.readPair Register.countLo)) {l : List Ask}
    {counts : Nat → UInt16} (left : (replies.after l).counts = counts) :
    Takes asked limits flight flight l (waitCount channel.link addr bytes)
      (Course.count addr bytes counts limits.reads) := by
  -- the host compares in 16 bits, where all that was asked for fits
  have accepts (n : UInt16) : decide (UInt16.ofNat bytes ≤ n) = decide (bytes ≤ n.toNat) := by
    refine decide_eq_decide.mpr ?_
    rw [UInt16.le_iff_toNat_le, UInt16.toNat_ofNat', Nat.mod_eq_of_lt fits]
  have reads : 0 < limits.reads := Nat.lt_of_lt_of_le Nat.one_pos (Nat.le_max_left _ _)
  apply Ends.get_then
  intro h before
  rw [before.1.1]
  apply Ends.bind ((asking_onLink (pollCount_ends recites punctual _ l)).onFault
    fun _ _ no => no.2.elim)
  intro outcome
  apply Ends.of_eq
  intro h₁ ⟨same, shown, place⟩
  have course : Course.count addr bytes (replies.after l).counts limits.reads = _ :=
    Course.count_of_value accepts asks reads shown
  rw [← left, course]
  dsimp only
  split
  · exact Ends.pure fun h' last => last ▸ ⟨rfl, same, place⟩
  split
  · exact Ends.fail fun h' last => last ▸ ⟨rfl, place⟩
  · exact Ends.fail fun h' last => last ▸ ⟨rfl, place⟩

theorem bulkRead_takes {addr : Addr} {bytes : Nat} (asks : 0 < bytes) (fits : bytes ≤ maxBulkBytes)
    {l : List Ask} {next : Bytes} (left : (replies.after l).delivery 0 = next) :
    Takes asked limits (some addr) (some addr) l (bulkRead channel.link bytes)
      (Course.delivery addr bytes next) := by
  unfold bulkRead
  rw [checkBulk_eq_ok_iff.mpr ⟨fits, rfl⟩]
  apply Ends.ofExcept_ok
  rw [if_neg asks.ne']
  apply (silent_writePair recites (by decide) _).then
  intro _
  apply Ends.bind ((asking_onLink (recites.readBulk bytes l)).onFault fun _ _ no => no.2.elim)
  intro data
  apply Ends.of_eq
  intro h ⟨same, answer, place⟩
  obtain rfl : next = data := left.symm.trans answer.symm
  by_cases whole : next.length = bytes
  · rw [if_pos whole]
    refine Ends.pure fun h' last => ?_
    subst last
    exact ⟨if_pos whole, same, place⟩
  · rw [if_neg whole]
    apply Ends.get_bind
    intro h₁ last
    subst last
    refine Ends.fail fun h' last => ?_
    subst last
    rw [same.2]
    exact ⟨if_neg whole, place⟩

/-- What follows the delivery of a read asks for nothing more. -/
theorem concludeRead_takes (addr : Addr) (started : Nat) (data : Bytes) (l : List Ask) :
    Takes asked limits (some addr) none l (do
      endPhase channel.link .read started
      let drained ← now channel.link
      finish channel.link
      endPhase channel.link .ack drained
      pure data) (Course.done data) := by
  apply (silent_endPhase _ .read started).then
  intro _
  apply (silent_now _).then
  intro drained
  apply (silent_finish recites).then
  intro _
  exact (silent_endPhase _ .ack drained).then fun _ => takes_done data

theorem readLines_takes {addr : Addr} {lines : Nat} (valid : Addressable addr lines)
    (inTime : channel.InTime limits) (l : List Ask) :
    Takes asked limits flight none l (readLines channel.link addr lines)
      (Course.read (replies.after l) addr (lines * lineBytes) limits.reads) := by
  have bytes : lines * lineBytes < UInt16.size := valid.lt_bulk.trans (by decide)
  unfold readLines
  rw [valid.checked]
  apply Ends.ofExcept_ok
  apply (silent_now _).then
  intro started
  apply (silent_program recites addr _).then
  intro _
  apply (silent_command recites .readStart).then
  intro _
  -- what a wait asks for takes nothing from the sequences of the stages behind it
  refine (waitDone_takes recites addr (inTime.status _ (.inl rfl)) l).bind fun _ _ => ?_
  refine Takes.bind (waitCount_takes recites addr valid.bytes_pos bytes inTime.count
    (Replies.counts_after_append replies l (Course.count_status_asks _ (by decide))
      (Course.count_status_asks _ (by decide)))) fun _ _ => ?_
  have deliveries {asks asks' : List Ask} (none : asks.count .bulk = 0)
      (none' : asks'.count .bulk = 0) :
      (replies.after (l ++ asks ++ asks')).delivery 0 = (replies.after l).delivery 0 := by
    rw [Replies.delivery_after_append replies _ none', Replies.delivery_after_append replies l none]
  rw [← Course.andThen_done (Course.delivery ..)]
  refine Takes.bind (bulkRead_takes recites valid.bytes_pos valid.fits_bulk
    (deliveries (Course.count_status_asks _ (by decide)) (Course.count_count_asks _ (by decide))))
    fun data _ => concludeRead_takes recites addr started data _

theorem writeLines_takes {addr : Addr} {lines : Nat} {payload : Bytes}
    (valid : Writable addr lines payload) (inTime : channel.InTime limits) (l : List Ask) :
    Takes asked limits flight none l (writeLines channel.link addr lines payload)
      (Course.write (replies.after l) addr limits.reads) := by
  have declared : checkPayload addr lines payload = .ok () :=
    checkPayload_eq_ok_iff.mpr valid.size.symm
  unfold writeLines
  rw [valid.checked, declared]
  apply Ends.ofExcept_ok
  apply Ends.ofExcept_ok
  apply (silent_now _).then
  intro started
  apply (silent_program recites addr _).then
  intro _
  apply (silent_bulkWrite recites (valid.size ▸ valid.fits_bulk)).then
  intro _
  apply (silent_command recites .writeStart).then
  intro _
  apply (silent_endPhase _ .write started).then
  intro _
  apply (silent_now _).then
  intro issued
  unfold Course.write
  rw [← Course.andThen_done (Course.status ..)]
  apply (waitDone_takes recites addr (inTime.status _ (.inr rfl)) l).bind
  intro _ _
  apply (silent_finish recites).then
  intro _
  exact (silent_endPhase _ .ack issued).takes

end Stages

theorem Takes.run {asked : σ → List Ask} {flight : Option Addr} {h : Host σ}
    {x : Action (Host σ) α} {c : Course α}
    (takes : Takes asked h.limits h.inFlight flight (asked h.state) x c) :
    (x.run h).1 = c.outcome ∧ asked (x.run h).2.state = asked h.state ++ c.asks := by
  have ending := takes h ⟨⟨rfl, rfl⟩, rfl⟩
  cases run : x.run h with
  | mk outcome h' =>
    rw [run] at ending
    cases outcome with
    | ok a => exact ⟨ending.1.symm, ending.2.2⟩
    | error e => exact ⟨ending.1.symm, ending.2⟩

/-- Whatever replies a channel has left and whatever the policy of its waits, a transfer that the
registers can describe ends as the course of these replies says, and has asked for what it says,
as long as the waits are in time. -/
theorem transactions_classified {channel : Channel σ} {replies : Replies} {asked : σ → List Ask}
    (recites : channel.Recites replies asked) (h : Host σ) (inTime : channel.InTime h.limits)
    {addr : Addr} {lines : Nat} (valid : Addressable addr lines) :
    let left := replies.after (asked h.state)
    let bytes := lines * lineBytes
    let limit := h.limits.reads
    (let (outcome, h') := (readLines channel.link addr lines).run h
      let course := Course.read left addr bytes limit
      outcome = course.outcome ∧ asked h'.state = asked h.state ++ course.asks) ∧
    ∀ write ∈ [writeLines channel.link, writeLinesPacked channel.link],
      ∀ payload : Bytes, payload.length = bytes →
        let (outcome, h') := (write addr lines payload).run h
        let course := Course.write left addr limit
        outcome = course.outcome ∧ asked h'.state = asked h.state ++ course.asks := by
  refine ⟨(readLines_takes recites valid inTime _).run, fun write member payload size => ?_⟩
  -- on a channel both writes make the same accesses
  have stepwise := (writeLines_takes recites ⟨valid, size⟩ inTime (asked h.state)).run
  rcases List.mem_pair.mp member with rfl | rfl
  · exact stepwise
  · rw [writeLinesPacked_eq_writeLines]
    exact stepwise

end Host

namespace Replies

/-- A channel that does nothing but reply. -/
def channel (r : Replies) : Channel (List Ask) where
  name := "replies"
  clock := .still
  writeRegister _ _ := pure ()
  readRegister reg := Action.modifyGet fun asked =>
    (r.value reg (asked.count (.register reg)), asked ++ [.register reg])
  writeBulk _ := pure ()
  readBulk _ := Action.modifyGet fun asked =>
    (r.delivery (asked.count .bulk), asked ++ [.bulk])
  idleClock _ := pure ()

theorem recites_channel (r : Replies) : r.channel.Recites r id where
  writeRegister _ _ _ := .pure ()
  readRegister reg l := by
    rintro asked rfl
    exact ⟨rfl, rfl⟩
  writeBulk _ _ := .pure ()
  readBulk count l := by
    rintro asked rfl
    exact ⟨rfl, rfl⟩
  idleClock _ _ := .pure ()
  pause _ _ := rfl

theorem inTime_channel (r : Replies) {limits : PollLimits} (positive : 0 < limits.timeout) :
    r.channel.InTime limits where
  positive := positive
  status _ _ := punctual_still positive
  count := punctual_still positive

/-- An error that passes, then a byte count that is reported too large. -/
def overfull : Replies where
  value reg j :=
    if reg = Register.status then [1, 3, 2].getD j 2
    else if reg = Register.countLo then [0, 32].getD j 0
    else 0
  delivery _ := []

end Replies

/-- Of three reads each, the last finds the status done and the second finds too many bytes. -/
theorem Host.transactions_classified_overfull :
    let h : Host (List Ask) := { state := [], limits := ⟨3, 0, 1⟩ }
    let (outcome, h') := (readLines Replies.overfull.channel.link ⟨0x40⟩ 1).run h
    outcome = .error (.size ⟨0x40⟩ 16 32) ∧ h'.state =
      [.register 7, .register 7, .register 7, .register 9, .register 10, .register 9,
        .register 10] := by
  intro h
  have inside : Addressable ⟨0x40⟩ 1 := ⟨by decide, by decide, by decide, by decide⟩
  have ends := (transactions_classified Replies.overfull.recites_channel h
    (Replies.overfull.inTime_channel Nat.one_pos) inside).1
  have course : Course.read (Replies.overfull.after []) ⟨0x40⟩ (1 * lineBytes) h.limits.reads =
      ⟨.error (.size ⟨0x40⟩ 16 32), [.register 7, .register 7, .register 7, .register 9,
        .register 10, .register 9, .register 10]⟩ := rfl
  generalize (readLines Replies.overfull.channel.link ⟨0x40⟩ 1).run h = ended at ends ⊢
  obtain ⟨outcome, h'⟩ := ended
  exact ⟨ends.1.trans (congrArg Course.outcome course),
    ends.2.trans (congrArg Course.asks course)⟩

end LineBridge

import Mathlib
import LineBridge.Device.Channel
import LineBridge.Image.Loader
import LineBridge.Proofs.Agreement
import LineBridge.Proofs.Timing
import LineBridge.Proofs.Transactions

/-! Links that do to a device what the device's own link does to it. They need to do so only
where a driver goes: with bulk transfers that a length register can announce, with reads of what is
buffered, and with waits under the limits that a driver has. Between transactions the two sides may
even differ in what the next transaction sets up before it uses it, and their clocks may have
nothing to do with each other. -/

namespace LineBridge

open LineBridge.Action (Agree Ends Follows)

variable {σ τ α : Type} {timing : Timing} {waits : PollLimits → PollLimits}
  {fits : PollLimits → Prop}

/-- The device's own link, on which waits for a status have other limits than are asked for. -/
def Device.linkWithin (waits : PollLimits → PollLimits) : Link Device :=
  { link with
    pollRegister := fun reg expected limits => link.pollRegister reg expected (waits limits) }

/-- A link on which every write of lines goes as on the device's own. `R₀` relates the states
between transactions, and `R` those in the middle of one, when address and length are set. -/
structure Link.CopiesWrites (link : Link σ) (timing : Timing) (waits : PollLimits → PollLimits)
    (fits : PollLimits → Prop) (R₀ R : σ → Device → Prop) : Prop where
  now : ∀ {s d}, R₀ s d → timing.Same (link.clock.now s) 0
  forget : ∀ {s d}, R s d → R₀ s d
  program : ∀ addr field, Agree R₀
    (link.toChannel.writeEach (Channel.addressWrites addr) >>= fun _ =>
      link.writePair Register.lenLo field)
    (Device.link.toChannel.writeEach (Channel.addressWrites addr) >>= fun _ =>
      Device.link.writePair Register.lenLo field) (fun _ => R) R₀
  packedWrite : ∀ addr field {payload}, payload.length ≤ maxBulkBytes → Agree R₀
    (link.packedWrite addr field payload) (Device.link.packedWrite addr field payload)
    (fun _ => R) R₀
  command : ∀ (c : Command), Follows R (link.writeRegister Register.cmd c.code)
    (Device.link.writeRegister Register.cmd c.code)
  announce : ∀ field, Follows R (link.writePair Register.bulkLenLo field)
    (Device.link.writePair Register.bulkLenLo field)
  writeBulk : ∀ {data}, data.length ≤ maxBulkBytes →
    Follows R (link.writeBulk data) (Device.link.writeBulk data)
  pollStatus : ∀ {reg} expected {limits}, Device.IsStatus reg → fits limits →
    Follows R (link.pollRegister reg expected limits)
      (Device.link.pollRegister reg expected (waits limits))
  idleClock : ∀ cycles, Follows R (link.idleClock cycles) (Device.link.idleClock cycles)

/-- A link on which every transaction does. -/
structure Link.Copies (link : Link σ) (timing : Timing) (waits : PollLimits → PollLimits)
    (fits : PollLimits → Prop) (R₀ R : σ → Device → Prop) : Prop
    extends link.CopiesWrites timing waits fits R₀ R where
  readBulk : ∀ {count}, count ≤ maxBulkBytes →
    Agree (fun s d => R s d ∧ count ≤ d.readFifo.length) (link.readBulk count)
      (Device.link.readBulk count) (fun _ => R) R
  pollCount : ∀ {limits} accept, fits limits →
    Follows R (poll link.clock limits (link.readPair Register.countLo) accept)
      (poll .still limits (Device.link.readPair Register.countLo) accept)

/-- A channel that copies the writes to all registers that answer copies a list of them. -/
theorem Channel.writeEach_follows {channel : Channel σ} {R : σ → Device → Prop}
    (copies : ∀ {reg} value, Device.Answers reg →
      Follows R (channel.writeRegister reg value) (Device.channel.writeRegister reg value))
    {writes : List (UInt8 × UInt8)} (answer : ∀ write ∈ writes, Device.Answers write.1) :
    Follows R (channel.writeEach writes) (Device.channel.writeEach writes) := by
  induction writes with
  | nil => exact Follows.pure ()
  | cons write rest ih =>
    apply (copies write.2 (answer write (List.mem_cons_self ..))).bind
    intro _
    exact ih fun w member => answer w (List.mem_cons_of_mem _ member)

/-- The same host, facing a link in another state. -/
def Host.facing (h : Host σ) (t : τ) : Host τ := { h with state := t }

/-- Two hosts that are alike but for their links, which `R` relates, and for the times in what they
have reported. -/
structure Host.Alongside (timing : Timing) (fits : PollLimits → Prop) (R : σ → τ → Prop)
    (h : Host σ) (k : Host τ) : Prop where
  link : R h.state k.state
  alike : (h.facing k.state).retimed timing.shown = k.retimed timing.shown
  fits : fits k.limits

namespace Host

section Rules

variable {P E : σ → τ → Prop}

section Fields

variable {h : Host σ} {k : Host τ} (beside : Alongside timing fits P h k)
include beside

theorem Alongside.limits : h.limits = k.limits := congrArg Host.limits beside.alike

theorem Alongside.idleCycles : h.idleCycles = k.idleCycles :=
  congrArg Host.idleCycles beside.alike

theorem Alongside.inFlight : h.inFlight = k.inFlight := congrArg Host.inFlight beside.alike

theorem Alongside.onto {Q : σ → τ → Prop} {s : σ} {t : τ} (related : Q s t) :
    Alongside timing fits Q { h with state := s } { k with state := t } :=
  ⟨related, congrArg (fun k : Host τ => { k with state := t }) beside.alike, beside.fits⟩

end Fields

theorem onLink_agree {x : Action σ α} {y : Action τ α} {Q : α → σ → τ → Prop}
    (h : Agree P x y Q E) :
    Agree (Alongside timing fits P) (onLink x) (onLink y) (fun a => Alongside timing fits (Q a))
      (Alongside timing fits E) :=
  h.on (fun _ _ beside => beside.link) (fun _ _ _ _ _ beside after => beside.onto after)
    (fun _ _ _ _ beside after => beside.onto after)

theorem setInFlight_follows (addr : Option Addr) :
    Follows (Alongside timing fits P) (setInFlight addr) (setInFlight addr) := by
  refine Agree.modify fun h k beside => ?_
  exact ⟨beside.link, congrArg (fun k : Host τ => { k with inFlight := addr }) beside.alike,
    beside.fits⟩

/-- Events may differ in the time that something took. -/
theorem report_follows {event event' : Event}
    (same : event.retimed timing.shown = event'.retimed timing.shown) :
    Follows (Alongside timing fits P) (report event) (report event') := by
  refine Agree.modify fun h k beside => ?_
  have observed : h.observed = k.observed := congrArg Host.observed beside.alike
  by_cases kept : k.observed = true
  · rw [if_pos (observed.trans kept), if_pos kept]
    refine ⟨beside.link, ?_, beside.fits⟩
    have added : (⟨k.state, h.limits, h.idleCycles, h.observed, h.inFlight,
        event.retimed timing.shown :: h.events.map (Event.retimed timing.shown)⟩ : Host τ) =
        ⟨k.state, k.limits, k.idleCycles, k.observed, k.inFlight,
          event'.retimed timing.shown :: k.events.map (Event.retimed timing.shown)⟩ := by
      rw [same]
      exact congrArg (fun k : Host τ =>
        { k with events := event'.retimed timing.shown :: k.events }) beside.alike
    exact added
  · rw [if_neg fun seen => kept (observed.symm.trans seen), if_neg kept]
    exact beside

end Rules

section Buffers

variable {len : Nat}

/-- The device has that many bytes ready to be read. -/
def Buffers (len : Nat) (k : Host Device) : Prop := k.state.readFifo.length = len

/-- What a stage does to one device it does to every device. -/
theorem stage_ends {P : Device → Prop} {Q : α → Device → Prop} {x : Action (Host Device) α}
    (stage : ∀ o d, P d → Ends (At o (id · = d)) x (fun a => At o (Q a)) (fun _ _ => True)) :
    Ends (fun k => P k.state) x (fun a k => Q a k.state) (fun _ _ => True) := by
  intro k before
  refine (stage k.outline k.state before).weaken ?_ (fun _ _ after => after.2)
    (fun _ _ after => after) k rfl
  intro h same
  subst same
  exact ⟨rfl, rfl⟩

theorem writePair_buffers (field : UInt16) :
    Ends (Buffers len) (onLink (Device.link.writePair Register.bulkLenLo field))
      (fun _ => Buffers len) (fun _ _ => True) := by
  refine stage_ends (P := fun d => d.readFifo.length = len)
    (Q := fun _ d => d.readFifo.length = len) ?_
  intro o d buffered
  have written := Channel.fronts_device.writePair_ends Register.bulkLenLo (by decide) (by decide)
    field d
  refine (onLink_ends written).weaken (fun _ before => before)
    (fun _ k after => ⟨after.1, ?_⟩) (fun _ _ _ => trivial)
  have rewritten : d.Rewritten k.state := by
    rw [show k.state = _ from after.2]
    exact d.rewritten_stored _
  show k.state.readFifo.length = len
  rw [rewritten.readFifo, buffered]

/-- A wait for a status leaves the buffers alone, whatever its limits are. -/
theorem waitDone_buffers {reg : UInt8} (status : Device.IsStatus reg) (addr : Addr) :
    Ends (Buffers len) (waitDone (Device.linkWithin waits) reg addr) (fun _ => Buffers len)
      (fun _ _ => True) := by
  have polled (limits : PollLimits) : Ends (Buffers len)
      (onLink (Device.link.pollRegister reg Status.done.code limits)) (fun _ => Buffers len)
      (fun _ _ => True) := by
    refine stage_ends (P := fun d => d.readFifo.length = len)
      (Q := fun _ d => d.readFifo.length = len) ?_
    intro o d buffered
    refine (onLink_ends (Channel.fronts_device.pollDone_ends status limits d)).weaken
      (fun _ before => before) (fun _ k after => ⟨after.1, ?_⟩) (fun _ _ _ => trivial)
    have watched : d.Watched k.state := after.2.1
    show k.state.readFifo.length = len
    rw [watched.readFifo, buffered]
  apply Ends.get_then
  intro k _
  apply (polled (waits k.limits)).bind
  intro outcome
  cases outcome with
  | ready value attempts => exact Ends.pure fun _ buffered => buffered
  | exhausted last attempts =>
    dsimp only
    split
    · exact Ends.fail fun _ _ => trivial
    · exact Ends.fail fun _ _ => trivial

variable {addr : Addr} {lines : Nat} (valid : Addressable addr lines)
include valid

/-- Whatever the device held before, a read that is started fills its buffer. -/
theorem startRead_buffers :
    Ends (fun _ => True) (startRead Device.link addr (UInt16.ofNat (lines - 1)))
      (fun _ => Buffers (lines * lineBytes)) (fun _ _ => True) := by
  refine stage_ends (P := fun _ => True) (Q := fun _ d => d.readFifo.length = lines * lineBytes) ?_
  intro o d _
  refine (startRead_ends Channel.fronts_device valid d).weaken (fun _ before => before)
    (fun _ k after => ⟨after.1, ?_⟩) (fun _ _ _ => trivial)
  have begun : d.ReadStarted addr (lines * lineBytes) k.state := after.2
  show k.state.readFifo.length = lines * lineBytes
  rw [begun.readFifo, LineStore.length_peek]

theorem waitCount_buffers :
    Ends (Buffers len) (waitCount Device.link addr (lines * lineBytes)) (fun _ => Buffers len)
      (fun _ _ => True) := by
  refine stage_ends (P := fun d => d.readFifo.length = len)
    (Q := fun _ d => d.readFifo.length = len) ?_
  intro o d buffered
  refine (waitCount_ends Channel.fronts_device addr valid.bytes_pos
    (Nat.lt_succ_of_le valid.fits_bulk) d).weaken (fun _ before => before)
    (fun _ k after => ⟨after.1, ?_⟩) (fun _ _ _ => trivial)
  obtain ⟨⟨reads, counted⟩, -⟩ : (∃ reads, d.Counted reads k.state) ∧ _ := after.2
  show k.state.readFifo.length = len
  rw [counted.readFifo, buffered]

theorem awaitRead_buffers :
    Ends (Buffers len) (awaitRead (Device.linkWithin waits) addr (lines * lineBytes))
      (fun _ => Buffers len) (fun _ _ => True) :=
  (waitDone_buffers (.inl rfl) addr).bind fun _ => waitCount_buffers valid

end Buffers

section Writes

variable {link : Link σ} {R₀ R : σ → Device → Prop}
  (copies : link.CopiesWrites timing waits fits R₀ R)
include copies

theorem forget {h : Host σ} {k : Host Device} (beside : Alongside timing fits R h k) :
    Alongside timing fits R₀ h k := ⟨copies.forget beside.link, beside.alike, beside.fits⟩

/-- The end of a transaction. -/
theorem ended {P : Host σ → Host Device → Prop} {x : Action (Host σ) α}
    {y : Action (Host Device) α}
    (h : Agree P x y (fun _ => Alongside timing fits R) (Alongside timing fits R)) :
    Agree P x y (fun _ => Alongside timing fits R₀) (Alongside timing fits R₀) :=
  h.weaken (fun _ _ before => before) (fun _ _ _ => forget copies) fun _ _ => forget copies

/-- The readings of the two clocks, with what is made of them. -/
theorem now_then {P : σ → Device → Prop} {f : Nat → Action (Host σ) α}
    {g : Nat → Action (Host Device) α} {Q : α → Host σ → Host Device → Prop}
    {E : Host σ → Host Device → Prop} (between : ∀ s d, P s d → R₀ s d)
    (next : ∀ a b, timing.Same a b → Agree (Alongside timing fits P) (f a) (g b) Q E) :
    Agree (Alongside timing fits P) (now link >>= f) (now (Device.linkWithin waits) >>= g) Q E := by
  intro h k beside
  exact next _ _ (copies.now (between _ _ beside.link)) h k beside

theorem endPhase_follows (phase : Phase) {started started' : Nat}
    (same : timing.Same started started') {P : σ → Device → Prop}
    (between : ∀ s d, P s d → R₀ s d) :
    Follows (Alongside timing fits P) (endPhase link phase started)
      (endPhase (Device.linkWithin waits) phase started') :=
  now_then copies between fun _ _ ended =>
    report_follows (timing.phase_eq phase same ended)

theorem command_follows (c : Command) :
    Follows (Alongside timing fits R) (command link c) (command (Device.linkWithin waits) c) :=
  onLink_agree (copies.command c)

theorem program_agree (addr : Addr) (field : UInt16) :
    Agree (Alongside timing fits R₀) (program link addr field)
      (program (Device.linkWithin waits) addr field) (fun _ => Alongside timing fits R)
      (Alongside timing fits R₀) := by
  apply Agree.bind (setInFlight_follows (some addr))
  intro _
  rw [← onLink_bind, ← onLink_bind]
  exact onLink_agree (copies.program addr field)

theorem finish_follows :
    Follows (Alongside timing fits R) (finish link) (finish (Device.linkWithin waits)) := by
  apply (command_follows copies .null).bind
  intro _
  apply Agree.get_then
  intro h k beside
  rw [beside.idleCycles]
  split
  · exact Follows.bind (onLink_agree (copies.idleClock _)) fun _ => setInFlight_follows none
  · exact setInFlight_follows none

theorem waitDone_follows {reg : UInt8} (status : Device.IsStatus reg) (addr : Addr) :
    Follows (Alongside timing fits R) (waitDone link reg addr)
      (waitDone (Device.linkWithin waits) reg addr) := by
  apply Agree.get_then
  intro h k beside
  rw [beside.limits]
  apply Follows.bind (onLink_agree (copies.pollStatus _ status beside.fits))
  intro outcome
  cases outcome with
  | ready value attempts => exact Follows.pure ()
  | exhausted last attempts =>
    dsimp only
    split
    · exact Follows.fail _
    · exact Follows.fail _

theorem bulkWrite_follows (data : Bytes) :
    Follows (Alongside timing fits R) (bulkWrite link data)
      (bulkWrite (Device.linkWithin waits) data) := by
  refine Agree.ofExcept_then ?_ (fun _ _ beside => beside)
  intro field checked
  have small : data.length ≤ maxBulkBytes := (checkBulk_eq_ok_iff.mp checked).1
  split
  · exact Follows.pure ()
  · apply Follows.bind (onLink_agree (copies.announce field))
    intro _
    exact onLink_agree (copies.writeBulk small)

theorem completeWrite_follows (addr : Addr) :
    Follows (Alongside timing fits R) (completeWrite link addr)
      (completeWrite (Device.linkWithin waits) addr) := by
  apply now_then copies fun _ _ => copies.forget
  intro issued issued' same
  apply Follows.bind (waitDone_follows copies (.inr rfl) addr)
  intro _
  apply Follows.bind (finish_follows copies)
  intro _
  exact endPhase_follows copies .ack same fun _ _ => copies.forget

theorem writeLines_follows (addr : Addr) (lines : Nat) (payload : Bytes) :
    Follows (Alongside timing fits R₀) (writeLines link addr lines payload)
      (writeLines (Device.linkWithin waits) addr lines payload) := by
  refine Agree.ofExcept_then ?_ (fun _ _ beside => beside)
  intro field _
  refine Agree.ofExcept_then ?_ (fun _ _ beside => beside)
  intro _ _
  apply now_then copies fun _ _ related => related
  intro started started' same
  apply Agree.bind (program_agree copies addr field)
  intro _
  apply ended copies
  apply Follows.bind (bulkWrite_follows copies payload)
  intro _
  apply Follows.bind (command_follows copies .writeStart)
  intro _
  apply Follows.bind (endPhase_follows copies .write same fun _ _ => copies.forget)
  intro _
  exact completeWrite_follows copies addr

theorem writeLinesPacked_follows (addr : Addr) (lines : Nat) (payload : Bytes) :
    Follows (Alongside timing fits R₀) (writeLinesPacked link addr lines payload)
      (writeLinesPacked (Device.linkWithin waits) addr lines payload) := by
  refine Agree.ofExcept_then ?_ (fun _ _ beside => beside)
  intro field checked
  obtain ⟨valid, rfl⟩ := checkLines_eq_ok_iff.mp checked
  refine Agree.ofExcept_then ?_ (fun _ _ beside => beside)
  intro _ declared
  have small : payload.length ≤ maxBulkBytes :=
    checkPayload_eq_ok_iff.mp declared ▸ valid.fits_bulk
  apply now_then copies fun _ _ related => related
  intro started started' same
  apply Follows.bind (setInFlight_follows (some addr))
  intro _
  apply Agree.bind (onLink_agree (copies.packedWrite addr _ small))
  intro _
  apply ended copies
  apply Follows.bind (endPhase_follows copies .write same fun _ _ => copies.forget)
  intro _
  exact completeWrite_follows copies addr

end Writes

section Reads

variable {link : Link σ} {R₀ R : σ → Device → Prop} (copies : link.Copies timing waits fits R₀ R)
include copies

theorem waitCount_follows (addr : Addr) (expected : Nat) :
    Follows (Alongside timing fits R) (waitCount link addr expected)
      (waitCount (Device.linkWithin waits) addr expected) := by
  apply Agree.get_then
  intro h k beside
  rw [beside.limits]
  apply Follows.bind (onLink_agree (copies.pollCount _ beside.fits))
  intro outcome
  dsimp only
  split
  · exact Follows.pure ()
  · split
    · exact Follows.fail _
    · exact Follows.fail _

/-- All that is buffered can be drained. -/
theorem bulkRead_agree (len : Nat) :
    Agree (fun h k => Alongside timing fits R h k ∧ Buffers len k) (bulkRead link len)
      (bulkRead (Device.linkWithin waits) len) (fun _ => Alongside timing fits R)
      (Alongside timing fits R) := by
  refine Agree.ofExcept_then ?_ (fun _ _ before => before.1)
  intro field checked
  have small : len ≤ maxBulkBytes := (checkBulk_eq_ok_iff.mp checked).1
  split
  · exact Agree.pure fun _ _ before => before.1
  · apply Agree.bind (Agree.knowing (onLink_agree (copies.announce field))
      (writePair_buffers field))
    intro _
    apply Agree.bind
    · refine (onLink_agree (copies.readBulk small)).weaken ?_ (fun _ _ _ after => after)
        (fun _ _ after => after)
      intro h k before
      exact ⟨⟨before.1.link, Nat.le_of_eq before.2.symm⟩, before.1.alike, before.1.fits⟩
    · intro data
      split
      · exact Follows.pure data
      · apply Agree.get_then
        intro h k beside
        rw [beside.inFlight]
        exact Follows.fail _

theorem startRead_agree (addr : Addr) (field : UInt16) :
    Agree (Alongside timing fits R₀) (startRead link addr field)
      (startRead (Device.linkWithin waits) addr field) (fun _ => Alongside timing fits R)
      (Alongside timing fits R₀) :=
  (program_agree copies.toCopiesWrites addr field).bind fun _ =>
    (command_follows copies.toCopiesWrites .readStart).within fun _ _ =>
      forget copies.toCopiesWrites

theorem awaitRead_follows (addr : Addr) (expected : Nat) :
    Follows (Alongside timing fits R) (awaitRead link addr expected)
      (awaitRead (Device.linkWithin waits) addr expected) :=
  (waitDone_follows copies.toCopiesWrites (.inl rfl) addr).bind fun _ =>
    waitCount_follows copies addr expected

/-- The device's own link is asked for more than is buffered only by a host that did not wait. -/
theorem readLines_follows (addr : Addr) (lines : Nat) :
    Follows (Alongside timing fits R₀) (readLines link addr lines)
      (readLines (Device.linkWithin waits) addr lines) := by
  have writes : link.CopiesWrites timing waits fits R₀ R := copies.toCopiesWrites
  rw [readLines_eq, readLines_eq]
  refine Agree.ofExcept_then ?_ (fun _ _ beside => beside)
  intro field checked
  obtain ⟨valid, rfl⟩ := checkLines_eq_ok_iff.mp checked
  apply now_then writes fun _ _ related => related
  intro begun begun' same
  apply Agree.bind (Agree.weaken
    (Agree.knowing (startRead_agree copies addr _) (startRead_buffers valid))
    (fun _ _ beside => ⟨beside, trivial⟩) (fun _ _ _ after => after) (fun _ _ after => after))
  intro _
  apply ended writes
  apply Agree.bind (Agree.knowing (awaitRead_follows copies addr _) (awaitRead_buffers valid))
  intro _
  apply Agree.bind (bulkRead_agree copies _)
  intro data
  apply Follows.bind (endPhase_follows writes .read same fun _ _ => copies.forget)
  intro _
  apply now_then writes fun _ _ => copies.forget
  intro drained drained' same'
  apply Follows.bind (finish_follows writes)
  intro _
  apply Follows.bind (endPhase_follows writes .ack same' fun _ _ => copies.forget)
  intro _
  exact Follows.pure data

end Reads

end Host

end LineBridge

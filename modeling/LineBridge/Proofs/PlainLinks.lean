import Mathlib
import LineBridge.Proofs.Mirroring
import LineBridge.Proofs.Polls
import LineBridge.Proofs.Waiting

/-! Channels on which nothing is lost. What such a channel does access by access, the device that
it fronts does as well, and so for every sequence of accesses; a wait is only to be in time, since
the device itself knows of none. -/

namespace LineBridge

open LineBridge.Action (Agree Ends Follows)

variable {σ α : Type} {view : σ → Device}

/-- Where nothing is lost, both end alike. -/
theorem Passes.follows {x : Action σ α} {y : Action Device α} (passes : Passes view False x y) :
    Follows (view · = ·) x y := by
  rintro s _ rfl
  rcases passes s with ⟨value, state⟩ | ⟨lost, _⟩
  · refine ⟨(x.run s).1, (x.run s).2, (y.run (view s)).2, rfl, Prod.ext value.symm rfl, ?_⟩
    cases (x.run s).1 with
    | ok a => exact state
    | error e => exact state
  · exact lost.elim

namespace Channel.Fronts

variable {channel : Channel σ} (fronts : channel.Fronts view False)
include fronts

theorem writePair_follows (lo : UInt8) (value : UInt16) :
    Follows (view · = ·) (channel.writePair lo value) (Device.channel.writePair lo value) := by
  apply (fronts.writeRegister lo _).follows.bind
  intro _
  refine Agree.ofExcept_then (fun hi _ => ?_) fun _ _ same => same
  exact (fronts.writeRegister hi _).follows

theorem readPair_follows (lo : UInt8) :
    Follows (view · = ·) (channel.readPair lo) (Device.channel.readPair lo) := by
  apply (fronts.readRegister lo).follows.bind
  intro low
  refine Agree.ofExcept_then (fun hi _ => ?_) fun _ _ same => same
  exact (fronts.readRegister hi).follows.bind fun _ => Follows.pure _

theorem address_follows (addr : Addr) :
    Follows (view · = ·) (channel.writeEach (addressWrites addr))
      (Device.channel.writeEach (addressWrites addr)) :=
  writeEach_follows (fun value _ => (fronts.writeRegister _ value).follows) fun _ member =>
    (Device.plain_of_mem_addressWrites member).answers

theorem packedWrite_follows (addr : Addr) (field : UInt16) (payload : Bytes) :
    Follows (view · = ·) (channel.packedWrite addr field payload)
      (Device.channel.packedWrite addr field payload) := by
  apply (fronts.address_follows addr).bind
  intro _
  apply (fronts.writePair_follows _ field).bind
  intro _
  apply (fronts.writePair_follows _ _).bind
  intro _
  exact (fronts.writeBulk payload).follows.bind fun _ => (fronts.writeRegister _ _).follows

/-- A wait that is in time ends as a wait of as many reads ends where no time passes. -/
theorem poll_follows {read : Action σ α} {read' : Action Device α} {limits limits' : PollLimits}
    (reads : Follows (view · = ·) read read') (punctual : Punctual channel.clock limits read)
    (positive : 0 < limits'.timeout) (same : limits.reads = limits'.reads) (accept : α → Bool) :
    Follows (view · = ·) (poll channel.clock limits read accept)
      (poll .still limits' read' accept) := by
  refine poll_punctual_follows punctual (punctual_still positive) same reads ?_
  rintro s _ rfl
  have still : view (channel.clock.paused limits s) = view s :=
    Clock.paused_keeps (P := (view · = view s))
      (fun length s' same => (fronts.pause length s').trans same) rfl
  rw [still, Clock.paused_still]

theorem pollRegister_follows {reg : UInt8} {limits limits' : PollLimits}
    (punctual : Punctual channel.clock limits (channel.readRegister reg))
    (positive : 0 < limits'.timeout) (same : limits.reads = limits'.reads) (expected : UInt8) :
    Follows (view · = ·) (channel.pollRegister reg expected limits)
      (Device.channel.pollRegister reg expected limits') :=
  fronts.poll_follows (fronts.readRegister reg).follows punctual positive same _

/-- The link of such a channel. What its clock shows is not compared, and its waits may be compared
with those that a bridge makes for others. -/
theorem copies {waits : PollLimits → PollLimits}
    (positive : ∀ limits, 0 < (waits limits).timeout)
    (same : ∀ limits, limits.reads = (waits limits).reads) :
    channel.link.Copies .none waits channel.InTime (view · = ·) (view · = ·) where
  now _ := trivial
  forget related := related
  program addr field := (fronts.address_follows addr).bind fun _ => fronts.writePair_follows _ field
  packedWrite addr field _ _ := fronts.packedWrite_follows addr field _
  command _ := (fronts.writeRegister _ _).follows
  announce := fronts.writePair_follows _
  writeBulk _ := (fronts.writeBulk _).follows
  pollStatus expected _ status inTime :=
    fronts.pollRegister_follows (inTime.status _ status) (positive _) (same _) expected
  idleClock cycles := (fronts.idleClock cycles).follows
  readBulk _ := (fronts.readBulk _).follows.weaken (fun _ _ before => before.1)
    (fun _ _ _ after => after) fun _ _ after => after
  pollCount accept inTime :=
    fronts.poll_follows (fronts.readPair_follows _) inTime.count inTime.positive rfl accept

end Channel.Fronts

end LineBridge

import Mathlib
import LineBridge.Proofs.Pipes
import LineBridge.Proofs.ReplySequences

/-! Waits that are left to the service. It makes as many reads as the host may make, and it knows
nothing of the time that the host has for them. So it ends a wait as the host would whose time is
never up; a host without any time gives up after one read, and sees the same only where one read
decides. -/

namespace LineBridge

open LineBridge.Action (Agree Ends Follows)

variable {σ τ υ α : Type}

section Waits

variable {clock : Clock σ} {limits : PollLimits} {read : Action σ α} {accept : α → Bool}

theorem pollFrom_attempts_gt (started more made : Nat) :
    Ends (fun _ => True) (pollFrom clock limits read accept started more made)
      (fun outcome _ => made < outcome.attempts) (fun _ _ => True) := by
  induction more generalizing made with
  | zero =>
    apply Ends.bind (Ends.trivial read)
    intro value
    split
    · exact Ends.pure fun _ _ => Nat.lt_succ_self made
    · exact Ends.pure fun _ _ => Nat.lt_succ_self made
  | succ more ih =>
    have later := (ih (made + 1)).onValue fun _ _ => Nat.lt_of_succ_lt
    apply Ends.bind (Ends.trivial read)
    intro value
    split
    · exact Ends.pure fun _ _ => Nat.lt_succ_self made
    · apply Ends.get_then
      intro s _
      split
      · exact Ends.pure fun _ _ => Nat.lt_succ_self made
      · split
        · exact Ends.bind (Q := fun _ _ => True) (Ends.modify fun _ _ => trivial) fun _ => later
        · exact later

/-- A wait that is in time goes on after a first read that is refused. -/
theorem poll_again (punctual : Punctual clock limits read) (several : limits.reads ≠ 1)
    {s s' : σ} {value : α} (ran : read.run s = (.ok value, s')) (refused : accept value = false)
    {outcome : PollOutcome α} {last : σ}
    (ended : (poll clock limits read accept).run s = (.ok outcome, last)) :
    1 < outcome.attempts := by
  have some := limits.reads_pos
  obtain ⟨more, reads⟩ : ∃ more, limits.reads - 1 = more + 1 := ⟨limits.reads - 2, by omega⟩
  have early : clock.now s' - clock.now s < limits.timeout :=
    punctual s 0 s value s' .start (by omega) ran
  rw [run_poll, reads, run_pollFrom_refused ran _ _ refused early] at ended
  exact (pollFrom_attempts_gt (clock.now s) more 1).ok trivial ended

end Waits

namespace Device

/-- Where no register answers, a wait fails and leaves everything as it is. -/
theorem run_pollRegister_silent {reg : UInt8} (silent : ¬Answers reg) (expected : UInt8)
    (limits : PollLimits) (d : Device) :
    (link.pollRegister reg expected limits).run d = (.error (.link (.noRegister reg)), d) := by
  have failed : (readRegister reg).run d = (.error (.link (.noRegister reg)), d) := by
    rw [readRegister, if_neg silent]
    rfl
  exact run_pollFrom_failed failed _ _

theorem run_readRegister {reg : UInt8} (answers : Answers reg) (d : Device) :
    (readRegister reg).run d = (.ok (d.afterRead reg).1, (d.afterRead reg).2) := by
  rw [readRegister, if_pos answers]
  rfl

/-- A wait that may make as many reads as `limits` allow is decided by the first of them. -/
def DecidedAtOnce (d : Device) (reg expected : UInt8) (limits : PollLimits) : Prop :=
  limits.reads = 1 ∨ (d.afterRead reg).1 = expected

variable {limits : PollLimits} (positive : 0 < limits.timeout) {reg : UInt8} (expected : UInt8)
  (d : Device)
include positive

theorem run_pollRegister_single
    (decided : ¬Answers reg ∨ d.DecidedAtOnce reg expected limits) :
    (link.pollRegister reg expected (.immediate 1)).run d =
      (link.pollRegister reg expected limits).run d := by
  rcases decided with silent | only | shown
  · rw [run_pollRegister_silent silent, run_pollRegister_silent silent]
  · have one : (PollLimits.immediate 1).reads = limits.reads := only.symm
    exact congrFun (poll_still (Nat.succ_pos _) positive one _ _) d
  · by_cases answers : Answers reg
    · have accepted : ((d.afterRead reg).1 == expected) = true := beq_iff_eq.mpr shown
      have first (limits : PollLimits) : (link.pollRegister reg expected limits).run d =
          (.ok (.ready (d.afterRead reg).1 1), (d.afterRead reg).2) :=
        run_pollFrom_accepted (run_readRegister answers d) _ _ accepted
      rw [first, first]
    · rw [run_pollRegister_silent answers, run_pollRegister_silent answers]

theorem pollRegister_single_iff (answers : Answers reg) :
    ((link.pollRegister reg expected limits).run d).1 =
      ((link.pollRegister reg expected (.immediate 1)).run d).1 ↔
        d.DecidedAtOnce reg expected limits := by
  refine ⟨fun same => ?_, fun decided => ?_⟩
  · by_contra undecided
    obtain ⟨several, other⟩ := not_or.mp undecided
    have refused : ((d.afterRead reg).1 == expected) = false := beq_eq_false_iff_ne.mpr other
    have once : ((link.pollRegister reg expected (.immediate 1)).run d) =
        (.ok (.exhausted (d.afterRead reg).1 1), (d.afterRead reg).2) := by
      show (poll .still (.immediate 1) (readRegister reg) (· == expected)).run d = _
      rw [poll_once (.inl rfl), Action.run_bind_ok (run_readRegister answers d), refused]
      rfl
    rw [once] at same
    have ended : (poll .still limits (readRegister reg) (· == expected)).run d =
        (.ok (.exhausted (d.afterRead reg).1 1), ((link.pollRegister reg expected limits).run d).2) :=
      Prod.ext same rfl
    have more : 1 < 1 := poll_again (punctual_still positive) several
      (run_readRegister answers d) refused ended
    exact Nat.lt_irrefl 1 more
  · rw [run_pollRegister_single positive expected d (.inr decided)]

end Device

/-- A wait of the host's own that makes a single read, and one at the device that does. -/
theorem Channel.Fronts.pollRegister_once {channel : Channel τ} {view : τ → Device}
    (fronts : channel.Fronts view False) {limits limits' : PollLimits}
    (once : limits.reads = 1 ∨ limits.timeout = 0) (once' : limits'.reads = 1)
    (reg expected : UInt8) :
    Follows (view · = ·) (channel.link.pollRegister reg expected limits)
      (Device.link.pollRegister reg expected limits') := by
  show Follows _ (poll channel.clock limits _ _) (poll .still limits' _ _)
  rw [poll_once once, poll_once (.inl once')]
  exact (fronts.readRegister reg).follows.bind fun _ => Follows.pure _

section Remote

variable {stream : ByteStream σ} {peer : Channel τ} {connected : σ → τ → Bytes → Prop}
  (lossless : stream.Lossless peer connected) {far : τ → Device} (serves : peer.Fronts far False)
  (clock : Clock σ) (frame : Nat) {reg : UInt8} {limits : PollLimits}
  (minute : Punctual peer.clock limits.served (peer.readRegister reg))
include lossless serves minute

/-- A wait left to the service does to the device what a wait there would do whose time is never
up, and ends alike where there is a register. -/
theorem ByteStream.Lossless.pollRegister_replays (expected : UInt8) {s : σ} {d : Device}
    (quiet : Quiet far connected s d) :
    let remote := ((Remote.link stream clock frame).pollRegister reg expected limits).run s
    let direct := (Device.link.pollRegister reg expected limits.served).run d
    Quiet far connected remote.2 direct.2 ∧ (Device.Answers reg → remote.1 = direct.1) := by
  constructor
  · obtain ⟨outcome, s', ran, -, left⟩ :=
      (lossless.pollRegister_ends serves minute expected d).exists_ok quiet
    rw [ran]
    exact left
  · intro answers
    exact ((lossless.pollRegister_follows serves minute expected answers).alike quiet).1

/-- A wait left to the service agrees with one of the host's own that may make as many reads and
whose time is not up before they are made, whatever time the host has given it: it does the same to
the device, and where there is a register it has the same outcome. If the host has no time at all
its own wait ends after one read, and the two agree just if that read decides. The service has a
minute of its own for the reads, which is taken to be enough. -/
theorem remote_poll_agrees {channel : Channel υ} {near : υ → Device}
    (fronts : channel.Fronts near False) (expected : UInt8) {s : σ} {t : τ} {u : υ}
    (facing : connected s t []) (alike : far t = near u) :
    let remote := ((Remote.link stream clock frame).pollRegister reg expected limits).run s
    let decided := (near u).DecidedAtOnce reg expected limits
    (∀ limits' : PollLimits, limits'.reads = limits.reads →
      Punctual channel.clock limits' (channel.readRegister reg) →
      let plain := (channel.link.pollRegister reg expected limits').run u
      Quiet far connected remote.2 (near plain.2) ∧
        (Device.Answers reg → remote.1 = plain.1)) ∧
    (limits.timeout = 0 →
      let plain := (channel.link.pollRegister reg expected limits).run u
      (¬Device.Answers reg ∨ decided → Quiet far connected remote.2 (near plain.2)) ∧
        (Device.Answers reg → (remote.1 = plain.1 ↔ decided))) := by
  dsimp only
  have positive : 0 < limits.served.timeout := Nat.succ_pos _
  have served : limits.served.reads = limits.reads := Remote.reads_served limits
  have quiet : Quiet far connected s (near u) := ⟨t, facing, alike⟩
  obtain ⟨left, result⟩ :=
    lossless.pollRegister_replays serves clock frame minute expected quiet
  constructor
  · intro limits' same punctual
    have follows : Follows (near · = ·) (channel.link.pollRegister reg expected limits')
        (Device.link.pollRegister reg expected limits.served) :=
      fronts.pollRegister_follows punctual positive (same.trans served.symm) expected
    obtain ⟨ended, seen⟩ := follows.alike (rfl : near u = near u)
    rw [seen, ended]
    exact ⟨left, result⟩
  · intro hurried
    obtain ⟨ended, seen⟩ := (fronts.pollRegister_once (.inr hurried)
      (rfl : (PollLimits.immediate 1).reads = 1) reg expected).alike (rfl : near u = near u)
    have decides : (near u).DecidedAtOnce reg expected limits ↔
        (near u).DecidedAtOnce reg expected limits.served := by
      rw [Device.DecidedAtOnce, Device.DecidedAtOnce, served]
    rw [seen, ended, decides]
    refine ⟨fun decided => ?_, fun answers => ?_⟩
    · rw [Device.run_pollRegister_single positive expected (near u) decided]
      exact left
    · rw [result answers]
      exact Device.pollRegister_single_iff positive expected (near u) answers

end Remote

theorem remote_poll_agrees_started :
    let d := ({ latency := 2 } : Device).afterWrite Register.cmd Command.readStart.code
    let pipe : Bench.Pipe Device := { first := d }
    let stream := Bench.Pipe.stream Device.channel
    let connected := Bench.Pipe.Connected Device.channel
    let hurried : PollLimits := ⟨8, 0, 0⟩
    let patient : PollLimits := .immediate 8
    let reading := Device.channel.readRegister Register.status
    let remote := ((Remote.link stream Bench.Pipe.clock 512).pollRegister Register.status
      Status.done.code hurried).run pipe
    let plain (limits : PollLimits) :=
      (Device.channel.link.pollRegister Register.status Status.done.code limits).run d
    stream.Lossless Device.channel connected ∧ Device.channel.Fronts id False ∧
      Punctual Device.channel.clock hurried.served reading ∧ connected pipe d [] ∧
      Device.Answers Register.status ∧ patient.reads = hurried.reads ∧
      Punctual Device.channel.clock patient reading ∧ hurried.timeout = 0 ∧
      Quiet id connected remote.2 (plain patient).2 ∧ remote.1 = (plain patient).1 ∧
      (remote.1 = (plain hurried).1 ↔
        d.DecidedAtOnce Register.status Status.done.code hurried) := by
  intro d pipe stream connected hurried patient reading remote plain
  have lossless : stream.Lossless Device.channel connected := Bench.Pipe.lossless
  have facing : connected pipe d [] := Bench.Pipe.connected_new d
  have minute : Punctual Device.channel.clock hurried.served reading :=
    punctual_still (Nat.succ_pos _)
  have unhurried : Punctual Device.channel.clock patient reading := punctual_still (by decide)
  have answers : Device.Answers Register.status := by decide
  obtain ⟨unlimited, limited⟩ := remote_poll_agrees lossless Channel.fronts_device
    Bench.Pipe.clock 512 minute Channel.fronts_device Status.done.code facing rfl
  obtain ⟨left, same⟩ := unlimited patient rfl unhurried
  exact ⟨lossless, Channel.fronts_device, minute, facing, answers, rfl, unhurried, rfl, left,
    same answers, (limited rfl).2 answers⟩

/-- The service goes on reading for a host that has no time. -/
theorem remote_poll_reads_on :
    let d := ({ latency := 2 } : Device).afterWrite Register.cmd Command.readStart.code
    let pipe : Bench.Pipe Device := { first := d }
    let stream := Bench.Pipe.stream Device.channel
    let hurried : PollLimits := ⟨8, 0, 0⟩
    let remote := ((Remote.link stream Bench.Pipe.clock 512).pollRegister Register.status
      Status.done.code hurried).run pipe
    let plain := (Device.link.pollRegister Register.status Status.done.code hurried).run d
    remote.1 = .ok (.ready Status.done.code 3) ∧ plain.1 = .ok (.exhausted Status.busy.code 1) ∧
      (remote.2.service Device.channel).bridge.statusWait = 0 ∧ plain.2.statusWait = 1 := by
  intro d pipe stream hurried remote plain
  have minute : Punctual Device.channel.clock hurried.served
      (Device.channel.readRegister Register.status) := punctual_still (Nat.succ_pos _)
  have quiet : Quiet id (Bench.Pipe.Connected Device.channel) pipe d :=
    ⟨d, Bench.Pipe.connected_new d, rfl⟩
  obtain ⟨⟨after, left, seen⟩, same⟩ := Bench.Pipe.lossless.pollRegister_replays
    Channel.fronts_device Bench.Pipe.clock 512 minute Status.done.code quiet
  refine ⟨?_, by decide, ?_, by decide⟩
  · exact (same (by decide)).trans (by decide)
  · show (remote.2.service Device.channel).bridge.statusWait = 0
    rw [left.bridge, ← id_eq after, seen]
    decide

end LineBridge

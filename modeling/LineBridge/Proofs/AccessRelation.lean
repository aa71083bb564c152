import Mathlib
import LineBridge.Proofs.DriverRelation
import LineBridge.Proofs.Transactions

/-! A host uses its link through a few accesses. A relation that respects sequencing and that
holds between the accesses of two links therefore holds between all transactions, between packed
and stepwise writes too if it holds between the ways to issue them. -/

namespace LineBridge

variable {σ τ α β : Type}

/-- Issues a write of lines at once, or access by access. -/
def Link.issue (link : Link σ) : Bool → Addr → UInt16 → Bytes → Action σ Unit
  | true => link.packedWrite
  | false => link.issueEach

namespace Host

variable (link : Link σ)

/-- Lets the link settle. -/
def settle (cycles : UInt32) : Action (Host σ) Unit := do
  if 0 < cycles then onLink (link.idleClock cycles)
  setInFlight none

/-- Waits for a status register, with the limits at hand. -/
def waitDoneWithin (reg : UInt8) (addr : Addr) (limits : PollLimits) :
    Action (Host σ) Unit := do
  match ← onLink (link.pollRegister reg Status.done.code limits) with
  | .ready .. => pure ()
  | .exhausted last attempts =>
    if last = Status.error.code then Action.fail (.device addr last)
    else
      Action.fail (.timeout reg addr Status.done.code.toUInt16 last.toUInt16 attempts)

/-- Waits for the byte count, with the limits at hand. -/
def waitCountWithin (addr : Addr) (expected : Nat) (limits : PollLimits) :
    Action (Host σ) Unit := do
  let target := UInt16.ofNat expected
  let outcome ← onLink (poll link.clock limits (link.readPair Register.countLo) (target ≤ ·))
  let count := outcome.value.toNat
  if count = expected then pure ()
  else if count ≠ 0 then Action.fail (.size addr expected count)
  else Action.fail (.timeout Register.countLo addr target 0 outcome.attempts)

theorem finish_eq :
    finish link = command link .null >>= fun _ =>
      Action.get >>= fun h => settle link h.idleCycles := rfl

theorem waitDone_eq (reg : UInt8) (addr : Addr) :
    waitDone link reg addr = Action.get >>= fun h => waitDoneWithin link reg addr h.limits := rfl

theorem waitCount_eq (addr : Addr) (expected : Nat) :
    waitCount link addr expected =
      Action.get >>= fun h => waitCountWithin link addr expected h.limits := rfl

end Host

/-- Relations between two hosts and between their links, which hold between the accesses. Bulk
transfers have at most the size that their length register can describe. -/
structure AccessRelation (link : Link σ) (link' : Link τ) where
  access : Action.Congruence σ τ
  host : Action.Congruence (Host σ) (Host τ)
  onLink : ∀ {α : Type} {x : Action σ α} {y : Action τ α},
    access.Rel x y → host.Rel (Host.onLink x) (Host.onLink y)
  now : host.Rel (Host.now link) (Host.now link')
  report : ∀ event, host.Rel (Host.report event) (Host.report event)
  setInFlight : ∀ addr, host.Rel (Host.setInFlight addr) (Host.setInFlight addr)
  outline : ∀ {α : Type} {f : PollLimits → UInt32 → Option Addr → Action (Host σ) α}
    {g : PollLimits → UInt32 → Option Addr → Action (Host τ) α},
    (∀ limits cycles inFlight, host.Rel (f limits cycles inFlight) (g limits cycles inFlight)) →
    host.Rel (Action.get >>= fun h => f h.limits h.idleCycles h.inFlight)
      (Action.get >>= fun h => g h.limits h.idleCycles h.inFlight)
  writeRegister : ∀ reg value,
    access.Rel (link.writeRegister reg value) (link'.writeRegister reg value)
  writeBulk : ∀ data : Bytes, data.length ≤ maxBulkBytes →
    access.Rel (link.writeBulk data) (link'.writeBulk data)
  readBulk : ∀ count ≤ maxBulkBytes, access.Rel (link.readBulk count) (link'.readBulk count)
  idleClock : ∀ cycles, access.Rel (link.idleClock cycles) (link'.idleClock cycles)
  writePair : ∀ lo value, access.Rel (link.writePair lo value) (link'.writePair lo value)
  pollCount : ∀ limits accept,
    access.Rel (poll link.clock limits (link.readPair Register.countLo) accept)
      (poll link'.clock limits (link'.readPair Register.countLo) accept)
  pollRegister : ∀ reg expected limits,
    access.Rel (link.pollRegister reg expected limits) (link'.pollRegister reg expected limits)
  issue : ∀ packed packed' addr field (payload : Bytes), payload.length ≤ maxBulkBytes →
    access.Rel (link.issue packed addr field payload) (link'.issue packed' addr field payload)

namespace AccessRelation

variable {link : Link σ} {link' : Link τ} (r : AccessRelation link link')

theorem withLimits {f : PollLimits → Action (Host σ) α} {g : PollLimits → Action (Host τ) α}
    (next : ∀ limits, r.host.Rel (f limits) (g limits)) :
    r.host.Rel (Action.get >>= fun h => f h.limits) (Action.get >>= fun h => g h.limits) :=
  r.outline (f := fun limits _ _ => f limits) (g := fun limits _ _ => g limits)
    fun limits _ _ => next limits

/-- A check is the same on both sides. -/
theorem check {e : Except Fault α} {f : α → Action (Host σ) β} {g : α → Action (Host τ) β}
    (next : ∀ a, e = .ok a → r.host.Rel (f a) (g a)) :
    r.host.Rel (Action.ofExcept e >>= f) (Action.ofExcept e >>= g) := by
  cases e with
  | ok a => exact next a rfl
  | error e => exact r.host.fail e

theorem endPhase (phase : Phase) (started : Nat) :
    r.host.Rel (Host.endPhase link phase started) (Host.endPhase link' phase started) :=
  r.host.bind r.now fun _ => r.report _

theorem command (c : Command) : r.host.Rel (Host.command link c) (Host.command link' c) :=
  r.onLink (r.writeRegister _ _)

theorem writeEach (writes : List (UInt8 × UInt8)) :
    r.access.Rel (link.toChannel.writeEach writes) (link'.toChannel.writeEach writes) := by
  induction writes with
  | nil => exact r.access.pure ()
  | cons write rest ih => exact r.access.bind (r.writeRegister _ _) fun _ => ih

theorem program (addr : Addr) (field : UInt16) :
    r.host.Rel (Host.program link addr field) (Host.program link' addr field) := by
  apply r.host.bind (r.setInFlight (some addr))
  intro _
  exact r.host.bind (r.onLink (r.writeEach _)) fun _ => r.onLink (r.writePair _ field)

theorem finish : r.host.Rel (Host.finish link) (Host.finish link') := by
  rw [Host.finish_eq, Host.finish_eq]
  apply r.host.bind (r.command .null)
  intro _
  apply r.outline (f := fun _ cycles _ => Host.settle link cycles)
    (g := fun _ cycles _ => Host.settle link' cycles)
  intro _ cycles _
  unfold Host.settle
  split
  · exact r.host.bind (r.onLink (r.idleClock cycles)) fun _ => r.setInFlight none
  · exact r.setInFlight none

theorem waitDone (reg : UInt8) (addr : Addr) :
    r.host.Rel (Host.waitDone link reg addr) (Host.waitDone link' reg addr) := by
  rw [Host.waitDone_eq, Host.waitDone_eq]
  apply r.withLimits (f := Host.waitDoneWithin link reg addr)
    (g := Host.waitDoneWithin link' reg addr)
  intro limits
  apply r.host.bind (r.onLink (r.pollRegister reg _ limits))
  intro outcome
  cases outcome with
  | ready value attempts => exact r.host.pure ()
  | exhausted last attempts =>
    dsimp only
    split
    · exact r.host.fail _
    · exact r.host.fail _

theorem waitCount (addr : Addr) (expected : Nat) :
    r.host.Rel (Host.waitCount link addr expected) (Host.waitCount link' addr expected) := by
  rw [Host.waitCount_eq, Host.waitCount_eq]
  apply r.withLimits (f := Host.waitCountWithin link addr expected)
    (g := Host.waitCountWithin link' addr expected)
  intro limits
  apply r.host.bind (r.onLink (r.pollCount limits _))
  intro outcome
  dsimp only
  split
  · exact r.host.pure ()
  · split
    · exact r.host.fail _
    · exact r.host.fail _

theorem bulkRead (len : Nat) : r.host.Rel (Host.bulkRead link len) (Host.bulkRead link' len) := by
  apply r.check
  intro field checked
  split
  · exact r.host.pure []
  · apply r.host.bind (r.onLink (r.writePair _ field))
    intro _
    apply r.host.bind (r.onLink (r.readBulk len (Host.checkBulk_eq_ok_iff.mp checked).1))
    intro data
    split
    · exact r.host.pure data
    · exact r.outline
        (f := fun _ _ inFlight => Action.fail (.size (inFlight.getD ⟨0⟩) len data.length))
        (g := fun _ _ inFlight => Action.fail (.size (inFlight.getD ⟨0⟩) len data.length))
        fun _ _ _ => r.host.fail _

theorem bulkWrite (data : Bytes) :
    r.host.Rel (Host.bulkWrite link data) (Host.bulkWrite link' data) := by
  apply r.check
  intro field checked
  split
  · exact r.host.pure ()
  · apply r.host.bind (r.onLink (r.writePair _ field))
    intro _
    exact r.onLink (r.writeBulk data (Host.checkBulk_eq_ok_iff.mp checked).1)

theorem readLines (addr : Addr) (lines : Nat) :
    r.host.Rel (Host.readLines link addr lines) (Host.readLines link' addr lines) := by
  apply r.check
  intro field _
  apply r.host.bind r.now
  intro started
  apply r.host.bind (r.program addr field)
  intro _
  apply r.host.bind (r.command .readStart)
  intro _
  apply r.host.bind (r.waitDone _ addr)
  intro _
  apply r.host.bind (r.waitCount addr _)
  intro _
  apply r.host.bind (r.bulkRead _)
  intro data
  apply r.host.bind (r.endPhase .read started)
  intro _
  apply r.host.bind r.now
  intro drained
  apply r.host.bind r.finish
  intro _
  exact r.host.bind (r.endPhase .ack drained) fun _ => r.host.pure data

theorem completeWrite (addr : Addr) :
    r.host.Rel (Host.completeWrite link addr) (Host.completeWrite link' addr) := by
  apply r.host.bind r.now
  intro issued
  apply r.host.bind (r.waitDone _ addr)
  intro _
  exact r.host.bind r.finish fun _ => r.endPhase .ack issued

end AccessRelation

/-- A write of lines in either way is a packed write on a link that issues it in that way. -/
theorem Host.writeWhole_eq (link : Link σ) (packed : Bool) (addr : Addr) (lines : Nat)
    (payload : Bytes) :
    writeWhole link packed addr lines payload =
      writeLinesPacked { link with packedWrite := link.issue packed } addr lines payload := by
  cases packed with
  | true => rfl
  | false => exact writeLines_eq_unpacked link addr lines payload

namespace AccessRelation

variable {link : Link σ} {link' : Link τ} (r : AccessRelation link link')

theorem writeWhole (packed packed' : Bool) (addr : Addr) (lines : Nat) (payload : Bytes) :
    r.host.Rel (Host.writeWhole link packed addr lines payload)
      (Host.writeWhole link' packed' addr lines payload) := by
  rw [Host.writeWhole_eq, Host.writeWhole_eq]
  apply r.check
  intro field checked
  apply r.check
  intro _ declared
  have valid := (Host.checkLines_eq_ok_iff.mp checked).1
  have fits : payload.length ≤ maxBulkBytes :=
    Host.checkPayload_eq_ok_iff.mp declared ▸ valid.fits_bulk
  apply r.host.bind r.now
  intro started
  apply r.host.bind (r.setInFlight (some addr))
  intro _
  apply r.host.bind (r.onLink (r.issue packed packed' addr field payload fits))
  intro _
  exact r.host.bind (r.endPhase .write started) fun _ => r.completeWrite addr

theorem pollWithin (reg expected : UInt8) (limits : PollLimits) :
    r.host.Rel (Host.pollWithin link reg expected limits)
      (Host.pollWithin link' reg expected limits) := r.onLink (r.pollRegister reg expected limits)

theorem pollUntil (reg expected : UInt8) :
    r.host.Rel (Host.pollRegister link reg expected) (Host.pollRegister link' reg expected) :=
  r.withLimits (f := Host.pollWithin link reg expected) (g := Host.pollWithin link' reg expected)
    fun limits => r.pollWithin reg expected limits

end AccessRelation

end LineBridge

import LineBridge.Action

/-! Bounded polling. A wait reads until a value is accepted, or until its limits on reads and
time are spent; running out is an outcome for the caller to judge, and only a failing read is
a fault. -/

namespace LineBridge

/-- How a state tells the time, in nanoseconds, and lets it pass. -/
structure Clock (σ : Type) where
  now : σ → Nat
  pause : Nat → σ → σ

/-- A clock that stands still, for devices simulated in the same process. -/
def Clock.still {σ : Type} : Clock σ where
  now _ := 0
  pause _ s := s

/-- The limits of one wait; times are in nanoseconds. -/
structure PollLimits where
  attempts : UInt32
  delay : Nat
  timeout : Nat
deriving DecidableEq, Repr

namespace PollLimits

/-- For register files on a real link. -/
def standard : PollLimits := ⟨1000, 50000, 2000000000⟩

/-- Back to back, with a minute in all. -/
def immediate (attempts : UInt32) : PollLimits := ⟨attempts, 0, 60000000000⟩

/-- Reads that a wait may make; there is always one. -/
def reads (limits : PollLimits) : Nat := max 1 limits.attempts.toNat

end PollLimits

/-- How a wait ended, with the last value read and the number of reads. -/
inductive PollOutcome (α : Type) where
  | ready (value : α) (attempts : Nat)
  | exhausted (last : α) (attempts : Nat)
deriving DecidableEq, Repr

namespace PollOutcome

variable {α : Type}

def isReady : PollOutcome α → Bool
  | ready .. => true
  | exhausted .. => false

def value : PollOutcome α → α
  | ready value _ => value
  | exhausted last _ => last

def attempts : PollOutcome α → Nat
  | ready _ attempts => attempts
  | exhausted _ attempts => attempts

end PollOutcome

variable {σ α : Type}

/-- Polls with `more` reads allowed after the coming one, `made` reads behind it. -/
def pollFrom (clock : Clock σ) (limits : PollLimits) (read : Action σ α) (accept : α → Bool)
    (started : Nat) : Nat → Nat → Action σ (PollOutcome α)
  | 0, made => do
    let value ← read
    if accept value then pure (.ready value (made + 1)) else pure (.exhausted value (made + 1))
  | more + 1, made => do
    let value ← read
    if accept value then pure (.ready value (made + 1))
    else
      let s ← Action.get
      if limits.timeout ≤ clock.now s - started then pure (.exhausted value (made + 1))
      else do
        if limits.delay ≠ 0 then Action.modify (clock.pause limits.delay)
        pollFrom clock limits read accept started more (made + 1)

/-- Reads until `accept` holds or the limits are spent. -/
def poll (clock : Clock σ) (limits : PollLimits) (read : Action σ α) (accept : α → Bool) :
    Action σ (PollOutcome α) := do
  let s ← Action.get
  pollFrom clock limits read accept (clock.now s) (limits.reads - 1) 0

end LineBridge

import Mathlib
import LineBridge.Proofs.Waiting

/-! What the accesses of a channel preserve, its sequences preserve: pairs, waits and packed
writes do nothing but access the channel, as far as a pair has a second register. -/

namespace LineBridge

open LineBridge.Action (Ends)

variable {σ α β : Type} {I : σ → Prop} {E : Fault → σ → Prop}

namespace Action

/-- A value leaves the state in `I`, and a fault ends as `E` says. -/
def Preserves (I : σ → Prop) (E : Fault → σ → Prop) (x : Action σ α) : Prop :=
  Ends I x (fun _ => I) E

namespace Preserves

theorem pure (a : α) : Preserves I E (Pure.pure a : Action σ α) := Ends.pure fun _ inside => inside

theorem bind {x : Action σ α} {f : α → Action σ β} (first : Preserves I E x)
    (next : ∀ a, Preserves I E (f a)) : Preserves I E (x >>= f) := Ends.bind first next

theorem poll {read : Action σ α} (reads : Preserves I E read) {clock : Clock σ}
    (pause : ∀ length s, I s → I (clock.pause length s)) (limits : PollLimits)
    (accept : α → Bool) : Preserves I E (poll clock limits read accept) := by
  refine poll_ends (I := fun _ => I) ?_ fun _ => pause
  intro made _
  refine Ends.onValue reads fun value s inside => ?_
  split
  · exact inside
  · exact ⟨inside, fun _ => inside⟩

end Preserves

end Action

open LineBridge.Action (Preserves)

theorem nextRegister_preserves {lo : UInt8} (last : lo = 0xFF → ∀ s, I s → E .overflow s) :
    Preserves I E (Action.ofExcept (nextRegister lo)) := by
  unfold nextRegister
  split
  · next same => exact Ends.fail (last same)
  · exact .pure _

namespace Channel

variable {channel : Channel σ}

section Writes

variable (write : ∀ reg value, Preserves I E (channel.writeRegister reg value))
include write

theorem writeEach_preserves (writes : List (UInt8 × UInt8)) :
    Preserves I E (channel.writeEach writes) := by
  induction writes with
  | nil => exact .pure ()
  | cons first rest ih => exact (write first.1 first.2).bind fun _ => ih

theorem writePair_preserves {lo : UInt8} (last : lo = 0xFF → ∀ s, I s → E .overflow s)
    (value : UInt16) : Preserves I E (channel.writePair lo value) :=
  (write lo _).bind fun _ => (nextRegister_preserves last).bind fun hi => write hi _

theorem packedWrite_preserves (writeBulk : ∀ data, Preserves I E (channel.writeBulk data))
    (addr : Addr) (field : UInt16) (payload : Bytes) :
    Preserves I E (channel.packedWrite addr field payload) := by
  apply (writeEach_preserves write _).bind
  intro _
  apply (writePair_preserves write (absurd · (by decide)) field).bind
  intro _
  apply (writePair_preserves write (absurd · (by decide)) _).bind
  intro _
  exact (writeBulk payload).bind fun _ => write _ _

end Writes

section Reads

variable (read : ∀ reg, Preserves I E (channel.readRegister reg))
include read

theorem readPair_preserves {lo : UInt8} (last : lo = 0xFF → ∀ s, I s → E .overflow s) :
    Preserves I E (channel.readPair lo) :=
  (read lo).bind fun _ => (nextRegister_preserves last).bind fun hi =>
    (read hi).bind fun _ => .pure _

theorem pollRegister_preserves (pause : ∀ length s, I s → I (channel.clock.pause length s))
    (reg expected : UInt8) (limits : PollLimits) :
    Preserves I E (channel.pollRegister reg expected limits) := (read reg).poll pause limits _

end Reads

end Channel

end LineBridge

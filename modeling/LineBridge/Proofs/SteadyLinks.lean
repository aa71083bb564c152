import Mathlib
import LineBridge.Proofs.AccessRelation
import LineBridge.Proofs.Sequences

/-! What the accesses of a link preserve, a driver preserves, whatever use is made of it. Faults
that the driver finds by itself come between two accesses, where what is preserved holds. -/

namespace LineBridge

open LineBridge.Action (Ends Preserves)

variable {σ τ α β : Type} {I : σ → Prop} {E : Fault → σ → Prop}

/-- What is promised of a component is promised of the whole. -/
theorem Action.Ends.part {view : τ → σ} {put : σ → τ → τ} {x : Action σ α} {P : σ → Prop}
    {Q : α → σ → Prop} (own : Ends P x Q E) (view_put : ∀ s t, view (put s t) = s) :
    Ends (fun t => P (view t)) (Action.on view put x) (fun a t => Q a (view t))
      (fun e t => E e (view t)) :=
  (Ends.on (J := fun _ => True) own view_put fun _ _ _ => True.intro).weaken
    (fun _ before => ⟨True.intro, before⟩) (fun _ _ after => after.2) fun _ _ after => after.2

theorem Host.report_keeps (event : Event) :
    Preserves (fun h : Host σ => I h.state) (fun e h => E e h.state) (Host.report event) :=
  Ends.modify fun h before => by split <;> exact before

theorem Host.setInFlight_keeps (addr : Option Addr) :
    Preserves (fun h : Host σ => I h.state) (fun e h => E e h.state) (Host.setInFlight addr) :=
  Ends.modify fun _ before => before

/-- The accesses that a driver makes leave the state in `I`, or end in a fault as `E` says. Bulk
transfers have at most the size that their length register can describe. -/
structure Link.Steady (link : Link σ) (I : σ → Prop) (E : Fault → σ → Prop) : Prop where
  writeRegister : ∀ reg value, Preserves I E (link.writeRegister reg value)
  writeBulk : ∀ data : Bytes, data.length ≤ maxBulkBytes → Preserves I E (link.writeBulk data)
  readBulk : ∀ count ≤ maxBulkBytes, Preserves I E (link.readBulk count)
  idleClock : ∀ cycles, Preserves I E (link.idleClock cycles)
  writePair : ∀ lo value, Preserves I E (link.writePair lo value)
  readPair : ∀ lo, Preserves I E (link.readPair lo)
  pollRegister : ∀ reg expected limits, Preserves I E (link.pollRegister reg expected limits)
  packedWrite : ∀ addr field (payload : Bytes), payload.length ≤ maxBulkBytes →
    Preserves I E (link.packedWrite addr field payload)
  pause : ∀ length s, I s → I (link.clock.pause length s)
  own : ∀ e s, I s → E e s

/-- Preservation of what one component is to be is respected by sequencing. -/
def Action.Congruence.preserves (I : τ → Prop) (E : Fault → τ → Prop)
    (own : ∀ e s, I s → E e s) : Action.Congruence τ τ where
  Rel x _ := Preserves I E x
  pure _ := .pure _
  fail e := Ends.fail fun s before => own e s before
  bind first next := first.bind next

namespace Link.Steady

variable {link : Link σ} (steady : link.Steady I E)
include steady

theorem issueEach {addr : Addr} {field : UInt16} {payload : Bytes}
    (fits : payload.length ≤ maxBulkBytes) : Preserves I E (link.issueEach addr field payload) := by
  apply (Channel.writeEach_preserves steady.writeRegister _).bind
  intro _
  apply (steady.writePair _ field).bind
  intro _
  apply (steady.writePair _ _).bind
  intro _
  exact (steady.writeBulk payload fits).bind fun _ => steady.writeRegister _ _

/-- One side of a relation is enough where nothing is compared. -/
def accesses : AccessRelation link link where
  access := .preserves I E steady.own
  host := .preserves (fun h => I h.state) (fun e h => E e h.state) fun e h => steady.own e h.state
  onLink own := Ends.part own fun _ _ => rfl
  now := fun _ before => before
  report := Host.report_keeps (E := E)
  setInFlight := Host.setInFlight_keeps (E := E)
  outline next := Ends.get_then fun h _ => next h.limits h.idleCycles h.inFlight
  writeRegister := steady.writeRegister
  writeBulk := steady.writeBulk
  readBulk := steady.readBulk
  idleClock := steady.idleClock
  writePair := steady.writePair
  pollCount limits _ := (steady.readPair _).poll steady.pause limits _
  pollRegister := steady.pollRegister
  issue packed _ addr field payload fits := by
    cases packed with
    | false => exact steady.issueEach fits
    | true => exact steady.packedWrite addr field payload fits

def calls : DriverRelation .exact link link where
  host := .preserves (fun h => I h.state) (fun e h => E e h.state) fun e h => steady.own e h.state
  memory := .preserves (fun m => I m.host.state) (fun e m => E e m.host.state)
    fun e m => steady.own e m.host.state
  loader := .preserves (fun l => I l.memory.host.state) (fun e l => E e l.memory.host.state)
    fun e l => steady.own e l.memory.host.state
  onHost keeps := Ends.part keeps fun _ _ => rfl
  onMemory keeps := Ends.part keeps fun _ _ => rfl
  hostNow := .of_rel steady.accesses.now
  memoryNow := .of_rel fun _ before => before
  loaderNow := .of_rel fun _ before => before
  report same := Timing.eq_of_exact same ▸ steady.accesses.report _
  readLines := steady.accesses.readLines
  writeWhole := steady.accesses.writeWhole
  settings next := Ends.get_then fun m _ => next m.transfer m.transfer (.refl _)
  control calls := Ends.get_then fun l _ => calls l.control l.entry
  setEntry _ := fun _ before => before

/-- Every use of a driver preserves what the accesses preserve. -/
theorem driverUse (use : DriverUse) :
    Preserves (fun l : Loader σ => I l.memory.host.state) (fun e l => E e l.memory.host.state)
      (use.perform link) :=
  steady.calls.driverUse_exact use steady.accesses.finish steady.accesses.bulkRead
    steady.accesses.bulkWrite steady.accesses.pollUntil steady.accesses.pollWithin

end Link.Steady

end LineBridge
